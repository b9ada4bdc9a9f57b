import RpcHost.Proofs.Config.Writing
import RpcHost.Proofs.Files.Making

/-!
# Saving configurations

A configuration is saved in two steps that can fail: its text is made, and then the text is written
to a file. When the first one fails nothing has happened yet; when the second one fails directories
may have been made. The main statement is `saving_is_all_or_nothing`.
-/

namespace RpcHost
namespace Config

open Files FileSystem

variable {c : Config} {cwd place : Location} {path : Files.Path} {fs after : FileSystem}
  {text : String}

/-! ## The two steps -/

theorem save_of_unwritable (h : c.text? = none) (cwd : Location) (path : Files.Path)
    (fs : FileSystem) : c.save cwd path fs = (.error .unwritable, fs) := by
  rw [Config.save, h]
  rfl

theorem save_of_text? (h : c.text? = some text) (cwd : Location) (path : Files.Path)
    (fs : FileSystem) :
    c.save cwd path fs =
      ((fs.save cwd path (Text.utf8 text)).1.mapError .fileFault,
        (fs.save cwd path (Text.utf8 text)).2) := by
  rw [Config.save, h]
  simp only [saveText]
  rcases fs.save cwd path (Text.utf8 text) with ⟨_ | _, _⟩ <;> rfl

theorem save_eq_ok_iff (h : c.text? = some text) :
    c.save cwd path fs = (.ok (), after) ↔
      fs.save cwd path (Text.utf8 text) = (.ok (), after) := by
  rw [save_of_text? h]
  rcases fs.save cwd path (Text.utf8 text) with ⟨_ | _, _⟩ <;> simp [Except.mapError]

theorem exists_fault_of_save_error (h : c.text? = some text) {e : SaveError}
    (hsave : c.save cwd path fs = (.error e, after)) :
    ∃ fault, e = .fileFault fault
      ∧ fs.save cwd path (Text.utf8 text) = (.error fault, after) := by
  rw [save_of_text? h] at hsave
  cases hfile : fs.save cwd path (Text.utf8 text) with
  | mk result saved =>
      rw [hfile] at hsave
      cases result with
      | ok => cases hsave
      | error fault =>
          cases hsave
          exact ⟨fault, rfl, rfl⟩

/-! ## Loading what was saved -/

/-- A file holds the text of a configuration, and loading it comes to what the check of the
configuration comes to. -/
structure Stored (c : Config) (cwd : Location) (path : Files.Path) (after : FileSystem) :
    Prop where
  text : ∃ text, c.text? = some text ∧ after.readText cwd path = .ok text
  loads : c.validate = .ok () → loadFrom after cwd path = .ok c
  refused : ∀ reason, c.validate = .error reason →
    ∃ e, loadFrom after cwd path = .error e
      ∧ e.chain = ["Invalid config " ++ path.text, reason.message]

theorem stored_of_readText (htext : c.text? = some text)
    (hread : after.readText cwd path = .ok text) : Stored c cwd path after := by
  have hparse := parse_of_text? htext
  refine ⟨⟨text, htext, hread⟩, ?_, ?_⟩
  · intro hvalid
    refine loadFrom_eq_ok_iff.2 ⟨text, hread, ?_⟩
    rw [hparse, hvalid]
    rfl
  · intro reason hrejected
    have hrefused : parse text = .error (.rejected reason) := by
      rw [hparse, hrejected]
      rfl
    refine ⟨.invalid path (.rejected reason), ?_, rfl⟩
    simp only [loadFrom, hread, hrefused]

/-- Saving fails before anything has happened, or leaves behind no more than directories above the
file, or changes that file, which is loaded again as far as the configuration can be used. -/
theorem saving_is_all_or_nothing (c : Config) (cwd : Location) (path : Files.Path)
    (fs : FileSystem) :
    (c.text? = none → c.save cwd path fs = (.error .unwritable, fs))
    ∧ ∀ text, c.text? = some text →
        ((∃ after, c.save cwd path fs = (.ok (), after)) ↔ fs.CanSave cwd path)
        ∧ (∀ e after, c.save cwd path fs = (.error e, after) →
            (∃ fault, e = .fileFault fault)
            ∧ AddsDirectories (after.IsDirectoryAbove cwd path) fs after)
        ∧ ∀ after, c.save cwd path fs = (.ok (), after) →
            (∃ place, SavesAt fs after cwd path (Text.utf8 text) place)
            ∧ Stored c cwd path after := by
  refine ⟨fun h => save_of_unwritable h cwd path fs, ?_⟩
  intro text htext
  refine ⟨⟨?_, ?_⟩, ?_, ?_⟩
  · rintro ⟨after, hsave⟩
    rcases canSave_of_save ((save_eq_ok_iff htext).1 hsave) with
      ⟨made, place, hmade, hwritable, _⟩
    exact ⟨made, place, hmade, hwritable⟩
  · intro hcan
    rcases hcan.save (Text.utf8 text) with ⟨after, hsave, _⟩
    exact ⟨after, (save_eq_ok_iff htext).2 hsave⟩
  · intro e after hsave
    rcases exists_fault_of_save_error htext hsave with ⟨fault, he, hfault⟩
    exact ⟨⟨fault, he⟩, addsDirectories_of_save_error hfault⟩
  · intro after hsave
    rcases exists_savesAt ((save_eq_ok_iff htext).1 hsave) with ⟨place, hplace⟩
    exact ⟨⟨place, hplace⟩, stored_of_readText htext (readText_of_read hplace.read)⟩

/-! ## A file in the way -/

/-- A working directory with a file in it. -/
def notedTree : FileSystem :=
  [⟨["work"], 1, .directory⟩, ⟨["note", "work"], 2, .file []⟩]

/-- More workers than TOML can say. -/
def tooManyWorkers : Config where
  control := { workers := 0x8000000000000000 }

/-- A configuration that is written and cannot be used. -/
def withoutWorkers : Config where
  control := { workers := 0 }

theorem canSave_deep : notedTree.CanSave ["work"] ⟨"new/../deep/c.toml"⟩ :=
  ⟨(notedTree.put ["new", "work"] .directory).put ["deep", "work"] .directory,
    ["c.toml", "deep", "work"], by rfl, by rfl⟩

theorem saving_is_all_or_nothing_in_each_way :
    (∀ path, tooManyWorkers.save ["work"] path notedTree = (.error .unwritable, notedTree))
    -- the file stands where a directory is to be, and a directory was made on the way to it
    ∧ (default.save ["work"] ⟨"new/../note/c.toml"⟩ notedTree =
          (.error (.fileFault .exists), notedTree.put ["new", "work"] .directory)
        ∧ AddsDirectories ((notedTree.put ["new", "work"] .directory).IsDirectoryAbove ["work"]
            ⟨"new/../note/c.toml"⟩) notedTree (notedTree.put ["new", "work"] .directory))
    ∧ (∃ after, default.save ["work"] ⟨"new/../deep/c.toml"⟩ notedTree = (.ok (), after)
        ∧ loadFrom after ["work"] ⟨"new/../deep/c.toml"⟩ = .ok default)
    ∧ ∃ after, withoutWorkers.save ["work"] ⟨"new/../deep/c.toml"⟩ notedTree = (.ok (), after)
        ∧ ∃ e, loadFrom after ["work"] ⟨"new/../deep/c.toml"⟩ = .error e
          ∧ e.chain = ["Invalid config new/../deep/c.toml", "workers must be at least 1"] := by
  have hunwritten : tooManyWorkers.text? = none := by
    refine Option.not_isSome_iff_eq_none.1 fun hsome => ?_
    exact absurd ((isSome_text?_iff tooManyWorkers).1 hsome).workers (by decide)
  rcases Option.isSome_iff_exists.1 ((isSome_text?_iff default).2 storable_default) with
    ⟨text, htext⟩
  rcases Option.isSome_iff_exists.1 ((isSome_text?_iff withoutWorkers).2
    ⟨by decide, by decide, by decide⟩) with ⟨other, hother⟩
  refine ⟨?_, ?_, ?_, ?_⟩
  · intro path
    exact (saving_is_all_or_nothing tooManyWorkers ["work"] path notedTree).1 hunwritten
  · have hsave : default.save ["work"] ⟨"new/../note/c.toml"⟩ notedTree =
        (.error (.fileFault .exists), notedTree.put ["new", "work"] .directory) := by
      rw [save_of_text? htext]
      rfl
    have hlaw := (saving_is_all_or_nothing default ["work"] ⟨"new/../note/c.toml"⟩ notedTree).2
      text htext
    exact ⟨hsave, (hlaw.2.1 _ _ hsave).2⟩
  · have hlaw := (saving_is_all_or_nothing default ["work"] ⟨"new/../deep/c.toml"⟩ notedTree).2
      text htext
    rcases hlaw.1.2 canSave_deep with ⟨after, hsave⟩
    exact ⟨after, hsave, (hlaw.2.2 after hsave).2.loads (validate_of_valid rejection?_default)⟩
  · have hlaw := (saving_is_all_or_nothing withoutWorkers ["work"] ⟨"new/../deep/c.toml"⟩
      notedTree).2 other hother
    have hrejected : withoutWorkers.validate = .error .noWorkers := by
      refine validate_of_rejection? ?_
      simp [rejection?, withoutWorkers]
    rcases hlaw.1.2 canSave_deep with ⟨after, hsave⟩
    rcases (hlaw.2.2 after hsave).2.refused _ hrejected with ⟨e, hload, hchain⟩
    exact ⟨after, hsave, e, hload, hchain⟩

end Config
end RpcHost
