import Mathlib
import RpcHost.Config.Storage

/-!
# Loading configurations

Which file a configuration is read from, and what comes of reading it. A file that is read is
checked at once, whoever is going to change the configuration afterwards.
-/

namespace RpcHost
namespace Config

open Files

/-! ## Validity -/

theorem rejection?_eq_none_iff {c : Config} :
    c.rejection? = none ↔
      Net.isListenAddress c.control.listenAddress = true
      ∧ c.control.workers ≠ 0 ∧ c.control.readTimeoutSecs ≠ 0 := by
  unfold rejection?
  by_cases haddress : Net.isListenAddress c.control.listenAddress = true <;>
    by_cases hworkers : c.control.workers = 0 <;>
      by_cases htimeout : c.control.readTimeoutSecs = 0 <;>
        simp [haddress, hworkers, htimeout]

theorem validate_of_rejection? {c : Config} {reason : Rejection} (h : c.rejection? = some reason) :
    c.validate = .error reason := by
  unfold validate
  rw [h]

theorem validate_of_valid {c : Config} (h : c.rejection? = none) : c.validate = .ok () := by
  unfold validate
  rw [h]

theorem validate_eq_ok_iff {c : Config} : c.validate = .ok () ↔ c.rejection? = none := by
  cases h : c.rejection? with
  | none => simp [validate_of_valid h]
  | some reason => simp [validate_of_rejection? h]

theorem rejection?_of_validate {c : Config} {reason : Rejection} (h : c.validate = .error reason) :
    c.rejection? = some reason := by
  cases hrejection : c.rejection? with
  | none =>
      rw [validate_of_valid hrejection] at h
      cases h
  | some other =>
      rw [validate_of_rejection? hrejection] at h
      cases h
      rfl

@[simp] theorem isListenAddress_loopback : Net.isListenAddress "127.0.0.1" = true := by
  cbv

@[simp] theorem rejection?_default : default.rejection? = none :=
  rejection?_eq_none_iff.2 ⟨isListenAddress_loopback, by decide, by decide⟩

/-! ## Sources -/

/-- The file that a configuration is read from, unless the defaults are taken. -/
def source? (fs : FileSystem) (site : Site) (given : Option Path) : Option Path :=
  given.or ((nearest? fs site).or ((globalPath? site).filter (fs.pathExists site.cwd)))

theorem loadWith_eq (fs : FileSystem) (site : Site) (given : Option Path) :
    loadWith fs site given =
      match source? fs site given with
      | some path => loadFrom fs site.cwd path
      | none => .ok default := by
  cases given with
  | some path => rfl
  | none =>
      cases hnearest : nearest? fs site with
      | some path => simp [loadWith, load, source?, hnearest]
      | none =>
          cases hglobal : globalPath? site with
          | none => simp [loadWith, load, loadGlobal, source?, hnearest, hglobal]
          | some path =>
              by_cases hexists : fs.pathExists site.cwd path <;>
                simp [loadWith, load, loadGlobal, source?, hnearest, hglobal, hexists,
                  Option.filter]

/-! ## Reading -/

section Reading

variable {fs : FileSystem} {site : Site} {given : Option Path} {path : Path} {text : String}
  {c : Config}

theorem loadWith_of_valid (hpath : source? fs site given = some path)
    (htext : fs.readText site.cwd path = .ok text) (hc : read? text = some c)
    (hvalid : c.rejection? = none) : loadWith fs site given = .ok c := by
  have hparse : parse text = .ok c := by
    simp [parse, hc, hvalid]
  simp [loadWith_eq, hpath, loadFrom, htext, hparse]

theorem loadWith_of_rejected (hpath : source? fs site given = some path)
    (htext : fs.readText site.cwd path = .ok text) (hc : read? text = some c) {reason : Rejection}
    (hrejected : c.rejection? = some reason) :
    loadWith fs site given = .error (.invalid path (.rejected reason)) := by
  have hparse : parse text = .error (.rejected reason) := by
    simp [parse, hc, hrejected]
  simp [loadWith_eq, hpath, loadFrom, htext, hparse]

end Reading

end Config
end RpcHost
