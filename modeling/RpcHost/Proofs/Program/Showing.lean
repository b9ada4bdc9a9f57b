import RpcHost.Proofs.Config.Writing
import RpcHost.Proofs.Program.Configuration

/-!
# Showing a configuration

Writing a configuration and reading what was written comes to the same as checking it. So a run that
shows a configuration prints a text that can be kept in a file and loads as that configuration. The
main statement is `written_config_parses_as_validated`.
-/

namespace RpcHost
namespace Program

open Config CommandLine Commands

section Run

variable {s : Surroundings} {args : List String} {invocation : Invocation}
  {options : ConfigOptions} {c : Config}

/-- When neither the places nor a new file are asked for, the configuration is printed. -/
theorem carryOut_config_of_shown (filter : Log.Filter) (hpath : options.path = false)
    (hinit : options.init = false) {text : String} (htext : c.text? = some text) :
    carryOut s c filter (.config options) = .over ⟨.done, text, [], s.files⟩ := by
  have hmanage : manage options c s.site s.files = (.ok text, s.files) := by
    simp [manage, hpath, hinit, htext]
  unfold carryOut
  simp only [hmanage]

theorem run_of_shown (hread : CommandLine.read s.configVariable args = .ok invocation)
    (hcommand : invocation.command = .config options) (hpath : options.path = false)
    (hinit : options.init = false) (hload : loadWith s.files s.site invocation.config = .ok c)
    {text : String} (htext : c.text? = some text) (bind : String → UInt16 → Server.BindResult)
    (signalled : Bool) : run s bind signalled args = ⟨.done, text, [], s.files⟩ := by
  have hplan : plan s args = .over ⟨.done, text, [], s.files⟩ := by
    unfold plan
    simp only [hread, hload, hcommand]
    exact carryOut_config_of_shown _ hpath hinit htext
  unfold run
  simp only [hplan]

end Run

/-- The text of a configuration exists just when its numbers fit into TOML, and reading it yields
the configuration if the check passes and the reason of the check otherwise. What a run loaded and
showed loads again, wherever it is kept. -/
theorem written_config_parses_as_validated (c : Config) :
    (c.text?.isSome ↔ c.control.workers.toNat ≤ 2 ^ 63 - 1
      ∧ c.control.readTimeoutSecs.toNat ≤ 2 ^ 63 - 1
      ∧ c.control.maxBodyBytes.toNat ≤ 2 ^ 63 - 1)
    ∧ (∀ text, c.text? = some text →
        (c.validate = .ok () → parse text = .ok c)
        ∧ ∀ reason, c.validate = .error reason → parse text = .error (.rejected reason))
    ∧ ∀ (s : Surroundings) (args : List String) (invocation : Invocation)
        (options : ConfigOptions),
      CommandLine.read s.configVariable args = .ok invocation →
      invocation.command = .config options → options.path = false → options.init = false →
      loadWith s.files s.site invocation.config = .ok c →
      ∃ text, (∀ bind signalled, run s bind signalled args = ⟨.done, text, [], s.files⟩)
        ∧ ∀ fs site given path, source? fs site given = some path →
          fs.readText site.cwd path = .ok text → loadWith fs site given = .ok c := by
  refine ⟨?_, ?_, ?_⟩
  · rw [isSome_text?_iff]
    constructor
    · rintro ⟨hworkers, htimeout, hbody⟩
      exact ⟨hworkers, htimeout, hbody⟩
    · rintro ⟨hworkers, htimeout, hbody⟩
      exact ⟨hworkers, htimeout, hbody⟩
  · intro text htext
    have hparse := parse_of_text? htext
    refine ⟨?_, ?_⟩
    · intro hvalid
      rw [hparse, hvalid]
      rfl
    · intro reason hrejected
      rw [hparse, hrejected]
      rfl
  · intro s args invocation options hread hcommand hpath hinit hload
    rcases storable_of_loadWith hload with ⟨hstorable, hvalid⟩
    rcases Option.isSome_iff_exists.1 (isSome_text?_iff c |>.2 hstorable) with ⟨text, htext⟩
    refine ⟨text, run_of_shown hread hcommand hpath hinit hload htext, ?_⟩
    intro fs site given path hsource hkept
    exact loadWith_of_valid hsource hkept (read?_of_text? htext) hvalid

/-! ## An address full of quotes -/

/-- A configuration that is written, although its address cannot be used. -/
def strange : Config where
  control := { listenAddress := "it's a \"\\\" \né\u0001", workers := 2 }

theorem validate_strange :
    strange.validate = .error (.listenAddress "it's a \"\\\" \né\u0001") := by
  have haddress : Net.isListenAddress "it's a \"\\\" \né\u0001" = false := by
    cbv
  refine validate_of_rejection? ?_
  simp [rejection?, strange, haddress]

def twoWorkersText : String :=
  "[control]\nworkers = 2\n"

def twoWorkers : Config where
  control := { workers := 2 }

theorem loadWith_twoWorkersText :
    loadWith (surroundingsOf twoWorkersText).files (surroundingsOf twoWorkersText).site
      (some ⟨"c.toml"⟩) = .ok twoWorkers := by
  have hread : Config.read? twoWorkersText = some twoWorkers := by
    cbv
  have hvalid : twoWorkers.rejection? = none :=
    rejection?_eq_none_iff.2 ⟨isListenAddress_loopback, by decide, by decide⟩
  exact loadWith_of_valid (source?_given _) (readText_surroundingsOf _) hread hvalid

theorem read_config :
    CommandLine.read (surroundingsOf twoWorkersText).configVariable ["-c", "c.toml", "config"] =
      .ok ⟨0, some ⟨"c.toml"⟩, .config {}⟩ := by
  have hread : CommandLine.read none ["-c", "c.toml", "config"] =
      .ok ⟨0, some ⟨"c.toml"⟩, .config {}⟩ := by
    cbv
  exact hread

theorem written_config_parses_as_validated_when_strange :
    (∃ text, strange.text? = some text
      ∧ parse text = .error (.rejected (.listenAddress "it's a \"\\\" \né\u0001")))
    ∧ ∃ text, (∀ bind signalled,
        run (surroundingsOf twoWorkersText) bind signalled ["-c", "c.toml", "config"] =
          ⟨.done, text, [], (surroundingsOf twoWorkersText).files⟩)
      ∧ loadWith (surroundingsOf text).files (surroundingsOf text).site (some ⟨"c.toml"⟩) =
          .ok twoWorkers := by
  refine ⟨?_, ?_⟩
  · rcases written_config_parses_as_validated strange with ⟨hwritten, hparsed, _⟩
    rcases Option.isSome_iff_exists.1 (hwritten.2 (by decide)) with ⟨text, htext⟩
    exact ⟨text, htext, (hparsed text htext).2 _ validate_strange⟩
  · rcases (written_config_parses_as_validated twoWorkers).2.2 _ _ _ _ read_config rfl rfl rfl
      loadWith_twoWorkersText with ⟨text, hrun, hload⟩
    exact ⟨text, hrun, hload _ _ _ _ (source?_given _) (readText_surroundingsOf _)⟩

end Program
end RpcHost
