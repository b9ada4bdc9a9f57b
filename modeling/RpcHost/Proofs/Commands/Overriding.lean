import RpcHost.Commands.Serve
import RpcHost.Proofs.Config.Loading

/-!
# Options over a configuration

The options of the serving command replace values of a configuration, and what they leave alone
stays as it is. So a configuration that is valid with the options over it was valid before, unless
one of them replaced just the value that it would have been rejected for.
-/

namespace RpcHost
namespace Commands

open CommandLine

/-- An option replaces a value that cannot be used. -/
def Mends (o : ServeOptions) (c : Config) : Prop :=
  (o.listenAddress.isSome ∧ Net.isListenAddress c.control.listenAddress = false)
    ∨ (o.workers.isSome ∧ c.control.workers = 0)

theorem rejection?_of_override {o : ServeOptions} {c : Config}
    (h : (override o c).rejection? = none) : c.rejection? = none ↔ ¬ Mends o c := by
  rcases Config.rejection?_eq_none_iff.1 h with ⟨haddress, hworkers, htimeout⟩
  constructor
  · intro hvalid hmends
    rcases Config.rejection?_eq_none_iff.1 hvalid with ⟨haddress, hworkers, _⟩
    rcases hmends with ⟨_, hbad⟩ | ⟨_, hbad⟩
    · rw [haddress] at hbad
      cases hbad
    · exact hworkers hbad
  · intro hmends
    refine Config.rejection?_eq_none_iff.2 ⟨?_, ?_, htimeout⟩
    · -- a value that no option replaces is the merged one
      cases hgiven : o.listenAddress with
      | none => simpa [override, hgiven] using haddress
      | some address =>
          by_cases hold : Net.isListenAddress c.control.listenAddress = true
          · exact hold
          · exact absurd (.inl ⟨by simp [hgiven], by simpa using hold⟩) hmends
    · cases hgiven : o.workers with
      | none => simpa [override, hgiven] using hworkers
      | some workers =>
          intro hold
          exact hmends (.inr ⟨by simp [hgiven], hold⟩)

/-! ## How serving begins -/

theorem begin_of_rejected {o : ServeOptions} {c : Config} {reason : Config.Rejection}
    (h : (override o c).rejection? = some reason) :
    begin o c = .over ⟨[], .failed (.rejected reason)⟩ := by
  have hcheck : apply o c = (.error reason, override o c) :=
    congrArg (·, override o c) (Config.validate_of_rejection? h)
  unfold begin
  rw [hcheck]

theorem begin_of_valid {o : ServeOptions} {c : Config} (h : (override o c).rejection? = none) :
    begin o c =
      if (override o c).control.enabled then .ready (override o c)
      else .over ⟨featureLines (override o c)
        ++ [note "Control interface disabled, nothing to serve"], .finished⟩ := by
  have hcheck : apply o c = (.ok (), override o c) :=
    congrArg (·, override o c) (Config.validate_of_valid h)
  unfold begin
  rw [hcheck]

end Commands
end RpcHost
