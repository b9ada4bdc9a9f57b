import RpcHost.Proofs.Files.Making

/-!
# Files that come into reach

A file can be out of reach of a path although it is there: the path leads through a directory that
is missing, and up again. Saving makes the directory, and then the path leads to the file. Nothing
else brings a file into the reach of a path, which is `leavesMissing_of_save`.
-/

namespace RpcHost
namespace Files
namespace FileSystem

variable {fs after : FileSystem} {cwd start place found other : Location} {p : Path}
  {steps : List Step} {new : Location → Prop} {content old : Bytes}

/-! ## Entries in directories -/

/-- Whatever is there is in a directory. -/
def Grounded (fs : FileSystem) : Prop :=
  ∀ name up entry, fs.find? (name :: up) = some entry → fs.find? up = some .directory

theorem grounded_of_items (h : ∀ item ∈ fs, fs.find? item.place.tail = some .directory) :
    fs.Grounded := by
  intro name up entry hfound
  rw [find?_cons, lookup, Option.map_eq_some_iff] at hfound
  rcases hfound with ⟨item, hitem, _⟩
  have hplace : item.place = name :: up := by
    have hat := List.find?_some hitem
    simp only [Item.isAt, Bool.and_eq_true, decide_eq_true_eq] at hat
    exact hat.2
  have hup := h item (List.mem_of_find?_eq_some hitem)
  rwa [hplace] at hup

/-- Nothing lies below what is missing. -/
theorem Grounded.find?_eq_none (hfs : fs.Grounded) (hnone : fs.find? place = none)
    (hbelow : place <:+ other) : fs.find? other = none := by
  rcases hbelow with ⟨names, rfl⟩
  induction names with
  | nil => exact hnone
  | cons name names ih =>
      refine Option.eq_none_iff_forall_ne_some.2 fun entry hentry => ?_
      rw [hfs name (names ++ place) entry hentry] at ih
      cases ih

/-! ## Ways through missing directories -/

/-- The steps name something that is missing, and lead up again after that. -/
def LeavesMissing (fs : FileSystem) (start : Location) (steps : List Step) : Prop :=
  ∃ front name rest place, steps = front ++ .down name :: rest
    ∧ fs.walk start (front ++ [.stay]) = .ok place ∧ fs.find? (name :: place) = none
    ∧ .up ∈ rest

theorem not_leavesMissing_of_not_mem (h : .up ∉ steps) : ¬ fs.LeavesMissing start steps := by
  rintro ⟨front, name, rest, place, rfl, _, _, hup⟩
  exact h (List.mem_append_right _ (List.mem_cons_of_mem _ hup))

/-- Without steps up a way only leads down. -/
theorem suffix_of_walk (hup : .up ∉ steps) (h : fs.walk start (steps ++ [.stay]) = .ok found) :
    start <:+ found := by
  induction steps generalizing start with
  | nil =>
      cases h
      exact List.suffix_rfl
  | cons step steps ih =>
      have hrest : .up ∉ steps := fun hmem => hup (List.mem_cons_of_mem _ hmem)
      cases step with
      | stay => exact ih hrest h
      | up => exact absurd List.mem_cons_self hup
      | down name =>
          rcases directory_of_walk_down (by simp) h with ⟨hsize, hdirectory⟩
          rw [List.cons_append, walk_down_of_directory hsize hdirectory] at h
          exact (List.suffix_cons name start).trans (ih hrest h)

/-- The steps lead to a directory through one that was missing before: it is the first to be entered
that was not there. -/
def ThroughMissing (fs after : FileSystem) (start : Location) (steps : List Step)
    (found : Location) : Prop :=
  ∃ front name rest place, steps = front ++ .down name :: rest
    ∧ fs.walk start (front ++ [.stay]) = .ok place ∧ fs.find? (name :: place) = none
    ∧ after.walk (name :: place) (rest ++ [.stay]) = .ok found

theorem ThroughMissing.cons {step : Step} {next : Location}
    (hstep : ∀ more, fs.walk start (step :: more) = fs.walk next more)
    (h : ThroughMissing fs after next steps found) :
    ThroughMissing fs after start (step :: steps) found := by
  rcases h with ⟨front, name, rest, place, rfl, hfront, hnone, hrest⟩
  exact ⟨step :: front, name, rest, place, rfl, (hstep _).trans hfront, hnone, hrest⟩

/-- A way to a directory was there before some directories were added, or it goes through one that
was missing. -/
theorem walk_or_throughMissing (hadds : AddsDirectories new fs after)
    (h : after.walk start (steps ++ [.stay]) = .ok found) :
    fs.walk start (steps ++ [.stay]) = .ok found ∨ ThroughMissing fs after start steps found := by
  induction steps generalizing start with
  | nil => exact .inl h
  | cons step steps ih =>
      -- What is found out about the other steps holds with this one before them.
      have hcons : ∀ {next : Location},
          (∀ more, fs.walk start (step :: more) = fs.walk next more) →
          after.walk next (steps ++ [.stay]) = .ok found →
          fs.walk start (step :: steps ++ [.stay]) = .ok found
          ∨ ThroughMissing fs after start (step :: steps) found := by
        intro next hstep hnext
        exact (ih hnext).imp (hstep _).trans (ThroughMissing.cons hstep)
      cases step with
      | stay => exact hcons (fun _ => rfl) h
      | up => exact hcons (fun _ => rfl) h
      | down name =>
          rcases directory_of_walk_down (by simp) h with ⟨hsize, hdirectory⟩
          rw [List.cons_append, walk_down_of_directory hsize hdirectory] at h
          rcases hadds (name :: start) with hsame | ⟨hnone, _, _⟩
          · rw [hsame] at hdirectory
            exact hcons (walk_down_of_directory hsize hdirectory) h
          · exact .inr ⟨[], name, steps, start, rfl, rfl, hnone, h⟩

/-- A file that was there is only replaced through a path that led to it, or led through something
missing and up again. -/
theorem leavesMissing_of_save (hfs : fs.Grounded)
    (h : fs.save cwd p content = (.ok (), after)) (hplace : after.resolve cwd p = .ok place)
    (hold : fs.find? place = some (.file old)) (hexists : fs.pathExists cwd p = false) :
    fs.LeavesMissing (origin cwd p) p.steps := by
  rcases canSave_of_save h with ⟨made, target, hmade, hwritable, rfl⟩
  rw [resolve_put_of_writable hwritable] at hplace
  cases hplace
  have hadds := addsDirectories_makeParent fs cwd p
  rw [hmade] at hadds
  rcases writable_eq_ok hwritable with ⟨hfault, hslash, hnames, _⟩
  rcases hnames with ⟨front, name, holder, hsteps, rfl, hholder, hsize⟩
  rcases walk_or_throughMissing hadds hholder with hbefore |
    ⟨first, missing, rest, up, rfl, hfirst, hnone, hrest⟩
  · -- The directory of the file was reached before, and so was the file.
    have hkeeps : KeepsDirectories fs fs := fun _ hdirectory => hdirectory
    have hresolve : fs.resolve cwd p = .ok (name :: holder) := by
      rw [resolve, hfault, hslash, hsteps]
      have hwalk := walk_append_of_stay hkeeps hbefore [.down name]
      simpa [walk, hsize, hold] using hwalk
    simp [pathExists, hresolve] at hexists
  · refine ⟨first, missing, rest ++ [.down name], up, ?_, hfirst, hnone, ?_⟩
    · rw [hsteps, List.append_assoc, List.cons_append]
    · -- If nothing led up, the file would lie below what is missing.
      by_contra hup
      have hbelow : missing :: up <:+ holder :=
        suffix_of_walk (fun hmem => hup (List.mem_append_left _ hmem)) hrest
      have hmissing := hfs.find?_eq_none hnone (hbelow.trans (List.suffix_cons name holder))
      rw [hold] at hmissing
      cases hmissing

end FileSystem
end Files
end RpcHost
