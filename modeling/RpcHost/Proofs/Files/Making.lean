import RpcHost.Proofs.Files.Above
import RpcHost.Proofs.Files.Saving

/-!
# What saving leaves alone

Before a file is written the directories above it are made, and those stay when writing fails. So an
attempt to save that fails has added directories above the file and nothing else
(`addsDirectories_of_save_error`), and one that succeeds has changed the file besides
(`exists_savesAt`).
-/

namespace RpcHost
namespace Files

namespace FileSystem

variable {fs mid after : FileSystem} {cwd start place found : Location} {p : Path}
  {new : Location → Prop} {steps : List Step} {content : Bytes}

/-! ## Directories that are new -/

/-- Nothing is lost from one file system to another, and what is new are directories at places of a
kind. -/
def AddsDirectories (new : Location → Prop) (fs after : FileSystem) : Prop :=
  ∀ place, after.find? place = fs.find? place
    ∨ fs.find? place = none ∧ after.find? place = some .directory ∧ new place

theorem addsDirectories_self (new : Location → Prop) (fs : FileSystem) :
    AddsDirectories new fs fs :=
  fun _ => .inl rfl

theorem addsDirectories_put {name : String} {up : Location} (hnone : fs.find? (name :: up) = none)
    (hnew : new (name :: up)) : AddsDirectories new fs (fs.put (name :: up) .directory) := by
  intro place
  by_cases hplace : place = name :: up
  · subst hplace
    exact .inr ⟨hnone, by rw [find?_put, if_pos rfl], hnew⟩
  · exact .inl (by rw [find?_put, if_neg hplace])

namespace AddsDirectories

theorem keepsDirectories (h : AddsDirectories new fs after) : KeepsDirectories fs after := by
  intro place hplace
  rcases h place with hsame | ⟨hnone, hadded, _⟩
  · rw [hsame, hplace]
  · exact hadded

/-- The files are the same. -/
theorem find?_file_iff (h : AddsDirectories new fs after) :
    after.find? place = some (.file content) ↔ fs.find? place = some (.file content) := by
  rcases h place with hsame | ⟨hnone, hadded, _⟩
  · rw [hsame]
  · simp [hnone, hadded]

theorem imp {other : Location → Prop} (h : AddsDirectories new fs after)
    (hnew : ∀ place, new place → other place) : AddsDirectories other fs after := by
  intro place
  rcases h place with hsame | ⟨hnone, hadded, hplace⟩
  · exact .inl hsame
  · exact .inr ⟨hnone, hadded, hnew place hplace⟩

theorem trans (hfirst : AddsDirectories new fs mid) (hthen : AddsDirectories new mid after) :
    AddsDirectories new fs after := by
  intro place
  rcases hthen place with hsame | ⟨hnone, hadded, hplace⟩
  · rw [hsame]
    exact hfirst place
  · rcases hfirst place with hbefore | ⟨hmissing, hearlier, _⟩
    · exact .inr ⟨hbefore ▸ hnone, hadded, hplace⟩
    · rw [hnone] at hearlier
      cases hearlier

end AddsDirectories

/-! ## Ways -/

/-- A way to a directory leads there wherever the directories are kept. -/
theorem KeepsDirectories.walk (hkeeps : KeepsDirectories fs after)
    (h : fs.walk start (steps ++ [.stay]) = .ok found) :
    after.walk start (steps ++ [.stay]) = .ok found := by
  rw [walk_append_of_stay hkeeps h]
  rfl

theorem walk_down_of_directory {name : String} (hsize : ¬ greatestNameSize < name.utf8ByteSize)
    (h : fs.find? (name :: place) = some .directory) (rest : List Step) :
    fs.walk place (.down name :: rest) = fs.walk (name :: place) rest := by
  simp only [walk, if_neg hsize, h]

/-- A way that goes on after a name goes through a directory. -/
theorem directory_of_walk_down {name : String} {rest : List Step} (hrest : rest ≠ [])
    (h : fs.walk place (.down name :: rest) = .ok found) :
    ¬ greatestNameSize < name.utf8ByteSize ∧ fs.find? (name :: place) = some .directory := by
  rw [walk] at h
  split at h
  · cases h
  · rename_i hsize
    refine ⟨hsize, ?_⟩
    split at h
    · cases h
    · assumption
    · cases h

/-- What a way to a directory begins with is a way to a directory. -/
theorem exists_walk_of_append {front rest : List Step}
    (h : fs.walk start (front ++ rest ++ [.stay]) = .ok found) :
    ∃ mid, fs.walk start (front ++ [.stay]) = .ok mid := by
  induction front generalizing start with
  | nil => exact ⟨start, rfl⟩
  | cons step front ih =>
      cases step with
      | stay => exact ih h
      | up => exact ih h
      | down name =>
          rcases directory_of_walk_down (by simp) h with ⟨hsize, hdirectory⟩
          have hstep := walk_down_of_directory hsize hdirectory
          rcases ih ((hstep _).symm.trans h) with ⟨mid, hmid⟩
          exact ⟨mid, (hstep _).trans hmid⟩

/-- Some first steps lead to the directory at a place. -/
def LeadsThrough (fs : FileSystem) (start : Location) (steps : List Step) (place : Location) :
    Prop :=
  ∃ front rest, steps = front ++ rest ∧ fs.walk start (front ++ [.stay]) = .ok place

theorem LeadsThrough.cons {step : Step} (hstep : ∀ rest, after.walk start (step :: rest) =
    after.walk found rest) (h : LeadsThrough after found steps place) :
    LeadsThrough after start (step :: steps) place := by
  rcases h with ⟨front, rest, rfl, hwalk⟩
  exact ⟨step :: front, rest, rfl, (hstep _).trans hwalk⟩

/-! ## Making directories -/

/-- Only directories on the way are made. -/
theorem addsDirectories_makeAll (made : Bool) (fs : FileSystem) (start : Location)
    (steps : List Step) :
    AddsDirectories (LeadsThrough (makeAll made fs start steps).2 start steps) fs
      (makeAll made fs start steps).2 := by
  induction steps generalizing made fs start with
  | nil => exact addsDirectories_self _ fs
  | cons step steps ih =>
      cases step with
      | stay => exact (ih made fs start).imp fun _ h => h.cons fun _ => rfl
      | up => exact (ih made fs start.tail).imp fun _ h => h.cons fun _ => rfl
      | down name =>
          rw [makeAll]
          split
          · exact addsDirectories_self _ fs
          · rename_i hsize
            split
            · rename_i hnone
              have hrest := ih true (fs.put (name :: start) .directory) (name :: start)
              have hmade := hrest.keepsDirectories (name :: start) (by rw [find?_put, if_pos rfl])
              have hstep := walk_down_of_directory hsize hmade
              refine (addsDirectories_put hnone ?_).trans (hrest.imp fun _ h => h.cons hstep)
              exact ⟨[.down name], steps, rfl, hstep _⟩
            · rename_i hentry
              have hrest := ih made fs (name :: start)
              have hkept := hrest.keepsDirectories (name :: start) hentry
              exact hrest.imp fun _ h => h.cons (walk_down_of_directory hsize hkept)
            · exact addsDirectories_self _ fs

/-- The place is that of a directory above what a path leads to: some of its steps lead there, and
others that follow lead on. -/
def IsDirectoryAbove (fs : FileSystem) (cwd : Location) (p : Path) (place : Location) : Prop :=
  ∃ front rest, p.steps = front ++ rest ∧ (∃ s ∈ rest, s ≠ .stay)
    ∧ fs.walk (origin cwd p) (front ++ [.stay]) = .ok place

theorem isDirectoryAbove_of_leadsThrough {parent : Path} (habove : parent.IsAbove p)
    (h : LeadsThrough fs (origin cwd parent) parent.steps place) :
    IsDirectoryAbove fs cwd p place := by
  rcases h with ⟨front, rest, hparent, hwalk⟩
  rcases habove.steps with ⟨last, hsteps, s, hmem, hs⟩
  have horigin : origin cwd parent = origin cwd p := by
    rw [origin, origin, habove.isAbsolute]
  refine ⟨front, rest ++ last, ?_, ⟨s, List.mem_append_right _ hmem, hs⟩, horigin ▸ hwalk⟩
  rw [hsteps, hparent, List.append_assoc]

theorem addsDirectories_makeParent (fs : FileSystem) (cwd : Location) (p : Path) :
    AddsDirectories (IsDirectoryAbove (fs.makeParent cwd p).2 cwd p) fs
      (fs.makeParent cwd p).2 := by
  unfold makeParent
  split
  · exact addsDirectories_self _ fs
  · exact addsDirectories_self _ fs
  · rename_i parent hempty hparent
    have habove : parent.IsAbove p := by
      refine Path.isAbove_of_parent? hparent ?_
      intro htext
      exact hempty (congrArg Path.mk htext)
    split
    · exact addsDirectories_self _ fs
    · exact (addsDirectories_makeAll false fs _ parent.steps).imp fun _ h =>
        isDirectoryAbove_of_leadsThrough habove h

/-! ## Saving -/

/-- What a failed attempt to save leaves behind are the directories that it made. -/
theorem addsDirectories_of_save_error {fault : FileFault}
    (h : fs.save cwd p content = (.error fault, after)) :
    AddsDirectories (IsDirectoryAbove after cwd p) fs after := by
  have hmade := addsDirectories_makeParent fs cwd p
  unfold save at h
  split at h
  · rename_i made hparent
    rw [hparent] at hmade
    split at h
    · cases h
    · cases h
      exact hmade
  · rename_i failed _
    rw [h] at hmade
    exact hmade

/-- The file at a place has a new content. Apart from it only directories above it are new. -/
structure SavesAt (fs after : FileSystem) (cwd : Location) (p : Path) (content : Bytes)
    (place : Location) : Prop where
  resolve : after.resolve cwd p = .ok place
  written : after.find? place = some (.file content)
  replaced : fs.find? place ≠ some .directory
  others : ∀ other, other ≠ place → after.find? other = fs.find? other
    ∨ fs.find? other = none ∧ after.find? other = some .directory
      ∧ IsDirectoryAbove after cwd p other
  above : ∀ front rest, p.steps = front ++ rest → rest ≠ [] →
    ∃ directory, after.walk (origin cwd p) (front ++ [.stay]) = .ok directory

theorem SavesAt.read (h : SavesAt fs after cwd p content place) :
    after.read cwd p = .ok content := by
  rw [FileSystem.read, h.resolve]
  simp only [bind, Except.bind, h.written]

theorem canSave_of_save (h : fs.save cwd p content = (.ok (), after)) :
    ∃ made place, fs.makeParent cwd p = (.ok (), made) ∧ made.writable cwd p = .ok place
      ∧ after = made.put place (.file content) := by
  unfold save at h
  split at h
  · rename_i made hparent
    split at h
    · rename_i written hwrite
      cases h
      rcases bind_eq_ok_iff.1 hwrite with ⟨place, hplace, hput⟩
      cases hput
      exact ⟨made, place, hparent, hplace, rfl⟩
    · cases h
  · rename_i hfailed
    exact absurd h (hfailed _ _)

theorem IsDirectoryAbove.of_keepsDirectories (hkeeps : KeepsDirectories fs after)
    (h : fs.IsDirectoryAbove cwd p place) : after.IsDirectoryAbove cwd p place := by
  rcases h with ⟨front, rest, hsteps, hrest, hwalk⟩
  exact ⟨front, rest, hsteps, hrest, hkeeps.walk hwalk⟩

theorem exists_savesAt (h : fs.save cwd p content = (.ok (), after)) :
    ∃ place, SavesAt fs after cwd p content place := by
  rcases canSave_of_save h with ⟨made, place, hmade, hwritable, rfl⟩
  rcases writable_eq_ok hwritable with ⟨_, _, hnames, hplace⟩
  have hadds := addsDirectories_makeParent fs cwd p
  rw [hmade] at hadds
  rcases hnames with ⟨front, name, holder, hsteps, rfl, hholder, hsize⟩
  have hkeeps := keepsDirectories_put hplace (.file content)
  refine ⟨name :: holder, resolve_put_of_writable hwritable content,
    by rw [find?_put, if_pos rfl], fun hold => hplace (hadds.keepsDirectories _ hold), ?_, ?_⟩
  · intro other hother
    rw [find?_put, if_neg hother]
    rcases hadds other with hsame | ⟨hnone, hnew, habove⟩
    · exact .inl hsame
    · exact .inr ⟨hnone, hnew, habove.of_keepsDirectories hkeeps⟩
  · -- All steps but the last lead to the directory of the file.
    intro first rest hsplit hrest
    rcases List.eq_nil_or_concat rest with rfl | ⟨more, last, rfl⟩
    · exact absurd rfl hrest
    · rw [hsteps, List.concat_eq_append, ← List.append_assoc] at hsplit
      rcases List.append_inj' hsplit rfl with ⟨rfl, _⟩
      rcases exists_walk_of_append hholder with ⟨directory, hdirectory⟩
      exact ⟨directory, hkeeps.walk hdirectory⟩

end FileSystem
end Files
end RpcHost
