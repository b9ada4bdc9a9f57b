import RpcHost.Files.FileSystem
import RpcHost.Proofs.Results

/-!
# Reading what was saved

Whether a file can be saved under a path depends on the path and on what is there, and not on its
content. Once it is saved, it is read under the same path: `CanSave.save`.
-/

namespace RpcHost
namespace Files
namespace FileSystem

variable {fs after : FileSystem} {cwd place found : Location} {p : Path}

/-! ## Entries -/

theorem find?_cons (name : String) (up : Location) (fs : FileSystem) :
    find? (name :: up) fs = lookup (name :: up) fs :=
  rfl

theorem find?_put (name : String) (up other : Location) (e : Entry) (fs : FileSystem) :
    find? other (put (name :: up) e fs) =
      if other = name :: up then some e else find? other fs := by
  cases other with
  | nil => rfl
  | cons otherName otherUp => rw [find?_cons, find?_cons, lookup_put]

/-! ## Walking -/

/-- The directories of one file system are directories in another. -/
def KeepsDirectories (fs after : FileSystem) : Prop :=
  ∀ place, fs.find? place = some .directory → after.find? place = some .directory

theorem keepsDirectories_put {name : String} {up : Location}
    (h : fs.find? (name :: up) ≠ some .directory) (e : Entry) :
    KeepsDirectories fs (fs.put (name :: up) e) := by
  intro place hplace
  have hother : place ≠ name :: up := by
    rintro rfl
    exact h hplace
  rw [find?_put, if_neg hother, hplace]

/-- A way that leads to a directory is followed further wherever the directories are kept. -/
theorem walk_append_of_stay (hkeeps : KeepsDirectories fs after) {steps : List Step}
    (h : fs.walk place (steps ++ [.stay]) = .ok found) (more : List Step) :
    after.walk place (steps ++ more) = after.walk found more := by
  induction steps generalizing place with
  | nil =>
      rw [List.nil_append, walk, walk] at h
      cases h
      rfl
  | cons step steps ih =>
      cases step with
      | stay => exact ih h
      | up => exact ih h
      | down name =>
          rw [List.cons_append, walk] at h
          rw [List.cons_append, walk]
          by_cases hsize : greatestNameSize < name.utf8ByteSize
          · rw [if_pos hsize] at h
            cases h
          · rw [if_neg hsize] at h
            rw [if_neg hsize]
            cases hentry : fs.find? (name :: place) with
            | none =>
                rw [hentry] at h
                cases h
            | some entry =>
                cases entry with
                | file content =>
                    -- More steps follow, so a file is in the way.
                    simp [hentry] at h
                | directory =>
                    simp only [hentry] at h
                    simp only [hkeeps _ hentry]
                    exact ih h

/-! ## Writing -/

theorem holderSteps_down (front : List Step) (name : String) :
    holderSteps (front ++ [.down name]) = front ++ [.stay] := by
  simp [holderSteps]

/-- These steps end in a name for the place, in a directory that is there. -/
def Names (fs : FileSystem) (start : Location) (steps : List Step) (place : Location) : Prop :=
  ∃ front name holder, steps = front ++ [.down name] ∧ place = name :: holder
    ∧ fs.walk start (front ++ [.stay]) = .ok holder
    ∧ ¬ greatestNameSize < name.utf8ByteSize

theorem names_of_target {start : Location} {steps : List Step}
    (h : fs.target start steps = .ok (some place)) : fs.Names start steps place := by
  rcases bind_eq_ok_iff.1 h with ⟨holder, hholder, hname⟩
  rcases List.eq_nil_or_concat steps with rfl | ⟨front, last, rfl⟩
  · cases hname
  · rw [List.concat_eq_append] at hholder hname ⊢
    rw [List.getLast?_concat] at hname
    cases last with
    | stay => cases hname
    | up => cases hname
    | down name =>
        rw [holderSteps_down] at hholder
        dsimp only at hname
        by_cases hsize : greatestNameSize < name.utf8ByteSize
        · rw [if_pos hsize] at hname
          cases hname
        · rw [if_neg hsize] at hname
          cases hname
          exact ⟨front, name, holder, rfl, rfl, hholder, hsize⟩

/-- A file that is put at a place is found under the name for the place. -/
theorem walk_put_of_names {start : Location} {steps : List Step}
    (h : fs.Names start steps place) (hplace : fs.find? place ≠ some .directory)
    (content : Bytes) : (fs.put place (.file content)).walk start steps = .ok place := by
  rcases h with ⟨front, name, holder, rfl, rfl, hholder, hsize⟩
  -- No directory is replaced, so the way to the holder is still there.
  have hkeeps := keepsDirectories_put hplace (.file content)
  rw [walk_append_of_stay hkeeps hholder, walk, if_neg hsize, find?_put, if_pos rfl]
  rfl

/-- A path that is written to ends in a name and not in a slash, and no directory is there. -/
theorem writable_eq_ok (h : fs.writable cwd p = .ok place) :
    textFault? p = none ∧ p.endsInSlash = false ∧ fs.Names (origin cwd p) p.steps place
      ∧ fs.find? place ≠ some .directory := by
  unfold writable at h
  cases hfault : textFault? p with
  | some fault =>
      rw [hfault] at h
      cases h
  | none =>
      rw [hfault] at h
      cases hslash : p.endsInSlash with
      | true =>
          rw [hslash] at h
          rcases bind_eq_ok_iff.1 h with ⟨holder, _, hrefused⟩
          cases hrefused
      | false =>
          rw [hslash] at h
          rcases bind_eq_ok_iff.1 h with ⟨found, htarget, hplace⟩
          cases found with
          | none => cases hplace
          | some found =>
              dsimp only at hplace
              by_cases hdirectory : fs.isDirectoryAt found = true
              · rw [if_pos hdirectory] at hplace
                cases hplace
              · rw [if_neg hdirectory] at hplace
                cases hplace
                exact ⟨rfl, rfl, names_of_target htarget, by simpa [isDirectoryAt] using hdirectory⟩

theorem resolve_put_of_writable (h : fs.writable cwd p = .ok place) (content : Bytes) :
    (fs.put place (.file content)).resolve cwd p = .ok place := by
  rcases writable_eq_ok h with ⟨hfault, hslash, hnames, hplace⟩
  rw [resolve, hfault, hslash]
  exact walk_put_of_names hnames hplace content

/-- What was written is read under the same path. -/
theorem read_put_of_writable (h : fs.writable cwd p = .ok place) (content : Bytes) :
    (fs.put place (.file content)).read cwd p = .ok content := by
  have hfound : (fs.put place (.file content)).find? place = some (.file content) := by
    rcases (writable_eq_ok h).2.2.1 with ⟨_, name, holder, _, rfl, _⟩
    rw [find?_put, if_pos rfl]
  rw [read, resolve_put_of_writable h]
  simp only [bind, Except.bind, hfound]

/-! ## Saving -/

/-- The directories above a path can be made, and then a file can be written there. -/
def CanSave (fs : FileSystem) (cwd : Location) (p : Path) : Prop :=
  ∃ made place, fs.makeParent cwd p = (.ok (), made) ∧ made.writable cwd p = .ok place

/-- Where a file can be saved, any content can, and it is read again. -/
theorem CanSave.save (h : fs.CanSave cwd p) (content : Bytes) :
    ∃ after, fs.save cwd p content = (.ok (), after) ∧ after.read cwd p = .ok content := by
  rcases h with ⟨made, place, hmade, hwritable⟩
  refine ⟨made.put place (.file content), ?_, read_put_of_writable hwritable content⟩
  have hwrite : made.write cwd p content = .ok (made.put place (.file content)) := by
    rw [write, hwritable]
    rfl
  simp only [FileSystem.save, hmade, hwrite]

end FileSystem
end Files
end RpcHost
