import Mathlib
import RpcHost.Program
import RpcHost.Proofs.Commands.Overriding

/-!
# The configuration of a run

A run that serves checks its configuration twice: as it is read from the file, and again with the
options of the command line over it. So the options cannot make up for the file. The main statement,
`serve_needs_valid_file`, says which runs get past their configuration and how the others end.
-/

namespace RpcHost
namespace Program

open Files Config CommandLine Commands

/-- A run gets past its configuration if it is about to serve or finds nothing to serve. -/
def Plan.passes : Plan → Bool
  | .serve _ _ => true
  | .over outcome => outcome.ending = .done

section File

variable {s : Surroundings} {args : List String} {invocation : Invocation} {o : ServeOptions}
  {path : Path} {text : String} {c : Config}

theorem plan_of_valid_file (hread : CommandLine.read s.configVariable args = .ok invocation)
    (hcommand : invocation.command = .serve o)
    (hpath : source? s.files s.site invocation.config = some path)
    (htext : s.files.readText s.site.cwd path = .ok text) (hc : Config.read? text = some c)
    (hvalid : c.rejection? = none) :
    plan s args =
      carryOut s c (filterOf s.logVariable invocation.debug c.debugLevel) (.serve o) := by
  have hload := loadWith_of_valid hpath htext hc hvalid
  simp [plan, hread, hload, hcommand]

theorem plan_of_rejected_file (hread : CommandLine.read s.configVariable args = .ok invocation)
    (hpath : source? s.files s.site invocation.config = some path)
    (htext : s.files.readText s.site.cwd path = .ok text) (hc : Config.read? text = some c)
    {reason : Rejection} (hrejected : c.rejection? = some reason) :
    plan s args =
      .over ⟨.failed ["Invalid config " ++ path.text, reason.message], "", [], s.files⟩ := by
  have hload := loadWith_of_rejected hpath htext hc hrejected
  simp [plan, hread, hload, LoadError.chain, ParseError.message]

end File

/-! ## The serving command -/

section Serve

variable (s : Surroundings) (filter : Log.Filter) {o : ServeOptions} {c : Config}

theorem carryOut_serve_of_over {run : ServeRun} (h : begin o c = .over run) :
    carryOut s c filter (.serve o) = .over (served s.files filter run) := by
  unfold carryOut
  simp only [h]

theorem carryOut_serve_of_ready {merged : Config} (h : begin o c = .ready merged) :
    carryOut s c filter (.serve o) = .serve merged filter := by
  unfold carryOut
  simp only [h]

theorem carryOut_serve_of_rejected {reason : Rejection}
    (h : (override o c).rejection? = some reason) :
    carryOut s c filter (.serve o) = .over ⟨.failed [reason.message], "", [], s.files⟩ := by
  rw [carryOut_serve_of_over s filter (begin_of_rejected h)]
  rfl

theorem carryOut_serve_of_enabled (h : (override o c).rejection? = none)
    (henabled : (override o c).control.enabled = true) :
    carryOut s c filter (.serve o) = .serve (override o c) filter := by
  refine carryOut_serve_of_ready s filter ?_
  rw [begin_of_valid h, if_pos henabled]

theorem passes_of_valid (h : (override o c).rejection? = none) :
    (carryOut s c filter (.serve o)).passes = true := by
  by_cases henabled : (override o c).control.enabled = true
  · rw [carryOut_serve_of_enabled s filter h henabled]
    rfl
  · have hbegin := begin_of_valid h
    rw [if_neg henabled] at hbegin
    rw [carryOut_serve_of_over s filter hbegin]
    rfl

theorem passes_iff_valid :
    (carryOut s c filter (.serve o)).passes ↔ (override o c).rejection? = none := by
  constructor
  · intro hpasses
    cases h : (override o c).rejection? with
    | none => rfl
    | some reason =>
        rw [carryOut_serve_of_rejected s filter h] at hpasses
        cases hpasses
  · exact passes_of_valid s filter

end Serve

theorem plan_passes_iff {s : Surroundings} {args : List String} {invocation : Invocation}
    {o : ServeOptions} {path : Path} {text : String} {c : Config}
    (hread : CommandLine.read s.configVariable args = .ok invocation)
    (hcommand : invocation.command = .serve o)
    (hpath : source? s.files s.site invocation.config = some path)
    (htext : s.files.readText s.site.cwd path = .ok text) (hc : Config.read? text = some c) :
    (plan s args).passes ↔ c.rejection? = none ∧ (override o c).rejection? = none := by
  -- Loading looks at the file alone, before any option is applied.
  cases hvalid : c.rejection? with
  | none =>
      rw [plan_of_valid_file hread hcommand hpath htext hc hvalid, passes_iff_valid]
      simp
  | some reason =>
      rw [plan_of_rejected_file hread hpath htext hc hvalid]
      simp [Plan.passes]

/-- A run with a well-formed file passes if the file is valid as it stands and also with the options
over it. That is the same as being valid with the options over it, except where an option replaces a
value that cannot be used. -/
theorem serve_needs_valid_file {s : Surroundings} {args : List String} {invocation : Invocation}
    {o : ServeOptions} {path : Path} {text : String} {c : Config}
    (hread : CommandLine.read s.configVariable args = .ok invocation)
    (hcommand : invocation.command = .serve o)
    (hpath : source? s.files s.site invocation.config = some path)
    (htext : s.files.readText s.site.cwd path = .ok text) (hc : Config.read? text = some c) :
    ((plan s args).passes ↔ c.rejection? = none ∧ (override o c).rejection? = none)
    ∧ (((plan s args).passes ↔ (override o c).rejection? = none) ↔
        ¬ ((override o c).rejection? = none ∧ Mends o c))
    -- the file is blamed for its own values, and for nothing else
    ∧ (∀ reason, c.rejection? = some reason → plan s args =
        .over ⟨.failed ["Invalid config " ++ path.text, reason.message], "", [], s.files⟩)
    ∧ (c.rejection? = none → ∀ reason, (override o c).rejection? = some reason →
        plan s args = .over ⟨.failed [reason.message], "", [], s.files⟩)
    ∧ (c.rejection? = none → (override o c).rejection? = none →
        (override o c).control.enabled = true → plan s args =
          .serve (override o c) (filterOf s.logVariable invocation.debug c.debugLevel)) := by
  have hpasses := plan_passes_iff hread hcommand hpath htext hc
  refine ⟨hpasses, ?_, ?_, ?_, ?_⟩
  · rw [hpasses]
    constructor
    · rintro hlaw ⟨hmerged, hmends⟩
      exact (rejection?_of_override hmerged).1 (hlaw.2 hmerged).1 hmends
    · intro hexcept
      refine ⟨fun h => h.2, fun hmerged => ⟨?_, hmerged⟩⟩
      exact (rejection?_of_override hmerged).2 fun hmends => hexcept ⟨hmerged, hmends⟩
  · intro reason hrejected
    exact plan_of_rejected_file hread hpath htext hc hrejected
  · intro hvalid reason hrejected
    rw [plan_of_valid_file hread hcommand hpath htext hc hvalid]
    exact carryOut_serve_of_rejected s _ hrejected
  · intro hvalid hmerged henabled
    rw [plan_of_valid_file hread hcommand hpath htext hc hvalid]
    exact carryOut_serve_of_enabled s _ hmerged henabled

/-! ## A file that an option would have mended -/

/-- A working directory with one file in it. -/
def surroundingsOf (text : String) : Surroundings where
  site := ⟨["work"], none⟩
  configVariable := none
  logVariable := none
  files := [⟨["work"], 1, .directory⟩, ⟨["c.toml", "work"], 2, .file (Text.utf8 text)⟩]

theorem readText_surroundingsOf (text : String) :
    (surroundingsOf text).files.readText (surroundingsOf text).site.cwd ⟨"c.toml"⟩ = .ok text := by
  refine FileSystem.readText_of_read ?_
  rfl

def noWorkersText : String :=
  "[control]\nenabled = false\nworkers = 0\n"

def noWorkers : Config where
  control := { enabled := false, workers := 0 }

theorem read?_noWorkersText : Config.read? noWorkersText = some noWorkers := by
  cbv

theorem rejection?_noWorkers : noWorkers.rejection? = some .noWorkers := by
  simp [Config.rejection?, noWorkers]

theorem rejection?_twoWorkers : (override { workers := some 2 } noWorkers).rejection? = none :=
  Config.rejection?_eq_none_iff.2 ⟨isListenAddress_loopback, by decide, by decide⟩

theorem read_twoWorkers :
    CommandLine.read (surroundingsOf noWorkersText).configVariable
        ["-c", "c.toml", "serve", "--workers", "2"] =
      .ok ⟨0, some ⟨"c.toml"⟩, .serve { workers := some 2 }⟩ := by
  have hread : CommandLine.read none ["-c", "c.toml", "serve", "--workers", "2"] =
      .ok ⟨0, some ⟨"c.toml"⟩, .serve { workers := some 2 }⟩ := by
    cbv
  exact hread

theorem source?_given (text : String) :
    source? (surroundingsOf text).files (surroundingsOf text).site (some ⟨"c.toml"⟩) =
      some ⟨"c.toml"⟩ :=
  rfl

theorem serve_needs_valid_file_without_workers :
    (override { workers := some 2 } noWorkers).rejection? = none
    ∧ plan (surroundingsOf noWorkersText) ["-c", "c.toml", "serve", "--workers", "2"] =
        .over ⟨.failed ["Invalid config " ++ "c.toml", "workers must be at least 1"], "", [],
          (surroundingsOf noWorkersText).files⟩ := by
  refine ⟨rejection?_twoWorkers, ?_⟩
  have hfile := serve_needs_valid_file read_twoWorkers rfl (source?_given noWorkersText)
    (readText_surroundingsOf noWorkersText) read?_noWorkersText
  have hmessage : Rejection.noWorkers.message = "workers must be at least 1" := rfl
  have hrun := hfile.2.2.1 .noWorkers rejection?_noWorkers
  rw [hmessage] at hrun
  exact hrun

/-- It is not enough that a configuration is valid with the options over it. -/
theorem options_come_after_check :
    ¬ ∀ (s : Surroundings) (args : List String) (invocation : Invocation) (o : ServeOptions)
        (path : Path) (text : String) (c : Config),
      CommandLine.read s.configVariable args = .ok invocation →
      invocation.command = .serve o →
      source? s.files s.site invocation.config = some path →
      s.files.readText s.site.cwd path = .ok text →
      Config.read? text = some c →
      ((plan s args).passes ↔ (override o c).rejection? = none) := by
  intro hlaw
  have hread := read_twoWorkers
  have hpath := source?_given noWorkersText
  have htext := readText_surroundingsOf noWorkersText
  have hpasses := (hlaw (surroundingsOf noWorkersText) ["-c", "c.toml", "serve", "--workers", "2"]
    _ { workers := some 2 } ⟨"c.toml"⟩ noWorkersText noWorkers hread rfl hpath htext
    read?_noWorkersText).2 rejection?_twoWorkers
  have hvalid := ((plan_passes_iff hread rfl hpath htext read?_noWorkersText).1 hpasses).1
  rw [rejection?_noWorkers] at hvalid
  cases hvalid

end Program
end RpcHost
