import RpcHost.Proofs.Files.Saving
import RpcHost.Proofs.Program.Showing

/-!
# Writing the default configuration

A run that is forced to write the default configuration does so over whatever is there, and what it
wrote loads as the default. But it loads the configuration in effect before that, as every run does,
and ends if that cannot be loaded, even if it is the very file that was to be replaced. The main
statement is `forced_initialisation_needs_loadable_file`.
-/

namespace RpcHost
namespace Program

open Files Config CommandLine Commands

/-- What a forced initialisation is to come to: the default configuration lies in its file, and the
run says so. -/
structure Restored (site : Site) (target : Files.Path) (o : Outcome) : Prop where
  ending : o.ending = .done
  output : o.output = "Wrote " ++ target.text ++ "\n"
  lines : o.lines = []
  text : ∃ text, Config.default.text? = some text ∧ o.files.readText site.cwd target = .ok text
  loads : loadFrom o.files site.cwd target = .ok Config.default

/-- A usable configuration that was saved loads again. -/
theorem loadFrom_of_save {c : Config} (hstorable : Storable c.control)
    (hvalid : c.rejection? = none) {fs : FileSystem} {cwd : Location} {path : Files.Path}
    (h : fs.CanSave cwd path) :
    ∃ after, c.save cwd path fs = (.ok (), after)
      ∧ (∃ text, c.text? = some text ∧ after.readText cwd path = .ok text)
      ∧ loadFrom after cwd path = .ok c := by
  rcases Option.isSome_iff_exists.1 ((isSome_text?_iff c).2 hstorable) with ⟨text, htext⟩
  rcases h.save (Text.utf8 text) with ⟨after, hsave, hread⟩
  have hkept := FileSystem.readText_of_read hread
  have hparse : parse text = .ok c := parse_eq_ok_iff.2 ⟨read?_of_text? htext, hvalid⟩
  refine ⟨after, ?_, ⟨text, htext, hkept⟩, loadFrom_eq_ok_iff.2 ⟨text, hkept, hparse⟩⟩
  rw [Config.save, htext]
  simp only [saveText, hsave]

/-! ## Runs -/

section Run

variable {s : Surroundings} {args : List String} {invocation : Invocation}
  {options : ConfigOptions}

theorem run_of_load_error (hread : CommandLine.read s.configVariable args = .ok invocation)
    {e : LoadError} (hload : loadWith s.files s.site invocation.config = .error e)
    (bind : String → UInt16 → Server.BindResult) (signalled : Bool) :
    run s bind signalled args = ⟨.failed e.chain, "", [], s.files⟩ := by
  simp only [run, plan, hread, hload]

/-- When it is forced, the default configuration is saved whatever is there. -/
theorem manage_of_forced (c : Config) (hpath : options.path = false) (hinit : options.init = true)
    (hforce : options.force = true) {after : FileSystem}
    (hsave : Config.default.save s.site.cwd (targetPath s.site options.global) s.files =
      (.ok (), after)) :
    manage options c s.site s.files =
      (.ok ("Wrote " ++ (targetPath s.site options.global).text ++ "\n"), after) := by
  have hinitialise : initialise options s.site s.files =
      (.ok ("Wrote " ++ (targetPath s.site options.global).text ++ "\n"), after) := by
    simp only [initialise, hforce, Bool.not_true, Bool.and_false, Bool.false_eq_true, if_false,
      hsave]
  rw [manage, hpath, if_neg Bool.false_ne_true, hinit, if_pos rfl, hinitialise]

theorem restored_of_loaded (hread : CommandLine.read s.configVariable args = .ok invocation)
    (hcommand : invocation.command = .config options) (hpath : options.path = false)
    (hinit : options.init = true) (hforce : options.force = true)
    (hcan : s.files.CanSave s.site.cwd (targetPath s.site options.global)) {c : Config}
    (hload : loadWith s.files s.site invocation.config = .ok c)
    (bind : String → UInt16 → Server.BindResult) (signalled : Bool) :
    Restored s.site (targetPath s.site options.global) (run s bind signalled args) := by
  rcases loadFrom_of_save storable_default rejection?_default hcan with
    ⟨after, hsave, htext, hloads⟩
  have hmanage := manage_of_forced c hpath hinit hforce hsave
  have hplan : plan s args =
      .over ⟨.done, "Wrote " ++ (targetPath s.site options.global).text ++ "\n", [], after⟩ := by
    unfold plan
    simp only [hread, hload, hcommand]
    unfold carryOut
    simp only [hmanage]
  unfold run
  rw [hplan]
  exact ⟨rfl, rfl, rfl, htext, hloads⟩

/-- A forced initialisation restores the default configuration just if the file in effect, if there
is one, can be loaded. Otherwise it fails as loading does, and leaves all files as they were. -/
theorem forced_initialisation_needs_loadable_file
    (hread : CommandLine.read s.configVariable args = .ok invocation)
    (hcommand : invocation.command = .config options) (hpath : options.path = false)
    (hinit : options.init = true) (hforce : options.force = true)
    (hcan : s.files.CanSave s.site.cwd (targetPath s.site options.global))
    (bind : String → UInt16 → Server.BindResult) (signalled : Bool) :
    (Restored s.site (targetPath s.site options.global) (run s bind signalled args) ↔
      ∀ path, source? s.files s.site invocation.config = some path →
        ∃ c, loadFrom s.files s.site.cwd path = .ok c)
    ∧ ∀ path e, source? s.files s.site invocation.config = some path →
        loadFrom s.files s.site.cwd path = .error e →
        run s bind signalled args = ⟨.failed e.chain, "", [], s.files⟩ := by
  have hfails : ∀ path e, source? s.files s.site invocation.config = some path →
      loadFrom s.files s.site.cwd path = .error e →
      run s bind signalled args = ⟨.failed e.chain, "", [], s.files⟩ := by
    intro path e hsource herror
    refine run_of_load_error hread ?_ bind signalled
    rw [loadWith_eq, hsource]
    exact herror
  refine ⟨⟨?_, ?_⟩, hfails⟩
  · -- A run that failed in loading did not get as far as the file.
    intro hrestored path hsource
    cases hfile : loadFrom s.files s.site.cwd path with
    | ok c => exact ⟨c, rfl⟩
    | error e =>
        have hending := hrestored.ending
        rw [hfails path e hsource hfile] at hending
        cases hending
  · intro hloads
    have hload : ∃ c, loadWith s.files s.site invocation.config = .ok c := by
      rw [loadWith_eq]
      cases hsource : source? s.files s.site invocation.config with
      | none => exact ⟨Config.default, rfl⟩
      | some path => exact hloads path hsource
    rcases hload with ⟨c, hload⟩
    exact restored_of_loaded hread hcommand hpath hinit hforce hcan hload bind signalled

end Run

/-! ## A file that cannot be replaced -/

/-- A working directory with a configuration of its own. -/
def configuredWith (text : String) : Surroundings where
  site := ⟨["work"], none⟩
  configVariable := none
  logVariable := none
  files := [⟨["work"], 1, .directory⟩, ⟨[".minirpc", "work"], 2, .directory⟩,
    ⟨["config.toml", ".minirpc", "work"], 3, .file (Text.utf8 text)⟩]

def ownPath : Files.Path := ⟨"/work/.minirpc/config.toml"⟩

theorem canSave_configuredWith (text : String) :
    (configuredWith text).files.CanSave (configuredWith text).site.cwd localPath :=
  ⟨(configuredWith text).files, ["config.toml", ".minirpc", "work"], by rfl, by rfl⟩

theorem source?_configuredWith (text : String) :
    source? (configuredWith text).files (configuredWith text).site none = some ownPath := by
  rfl

theorem readText_configuredWith (text : String) :
    (configuredWith text).files.readText (configuredWith text).site.cwd ownPath = .ok text := by
  refine FileSystem.readText_of_read ?_
  rfl

def forcedOptions : ConfigOptions where
  init := true
  force := true

theorem read_forced (text : String) :
    CommandLine.read (configuredWith text).configVariable ["config", "--init", "--force"] =
      .ok ⟨0, none, .config forcedOptions⟩ := by
  have hread : CommandLine.read none ["config", "--init", "--force"] =
      .ok ⟨0, none, .config forcedOptions⟩ := by
    cbv
  exact hread

theorem loadFrom_noWorkersText :
    loadFrom (configuredWith noWorkersText).files (configuredWith noWorkersText).site.cwd ownPath =
      .error (.invalid ownPath (.rejected .noWorkers)) := by
  have hload := loadWith_of_rejected (source?_configuredWith noWorkersText)
    (readText_configuredWith noWorkersText) read?_noWorkersText rejection?_noWorkers
  rwa [loadWith_eq, source?_configuredWith] at hload

theorem loadFrom_empty :
    loadFrom (configuredWith "").files (configuredWith "").site.cwd ownPath =
      .ok Config.default := by
  have hread : Config.read? "" = some Config.default := by
    cbv
  exact loadFrom_eq_ok_iff.2
    ⟨"", readText_configuredWith "", parse_eq_ok_iff.2 ⟨hread, rejection?_default⟩⟩

/-- An empty file is replaced by the defaults, and one that asks for no workers is not. -/
theorem forced_initialisation_needs_loadable_file_in_place :
    (∀ bind signalled, Restored (configuredWith "").site localPath
        (run (configuredWith "") bind signalled ["config", "--init", "--force"]))
    ∧ ∀ bind signalled,
        run (configuredWith noWorkersText) bind signalled ["config", "--init", "--force"] =
          ⟨.failed ["Invalid config " ++ ownPath.text, "workers must be at least 1"], "", [],
            (configuredWith noWorkersText).files⟩ := by
  refine ⟨?_, ?_⟩
  · intro bind signalled
    have hfile := forced_initialisation_needs_loadable_file (read_forced "") rfl rfl rfl rfl
      (canSave_configuredWith "") bind signalled
    refine hfile.1.2 ?_
    intro path hpath
    rw [source?_configuredWith] at hpath
    cases hpath
    exact ⟨Config.default, loadFrom_empty⟩
  · intro bind signalled
    have hfile := forced_initialisation_needs_loadable_file (read_forced noWorkersText) rfl rfl rfl
      rfl (canSave_configuredWith noWorkersText) bind signalled
    exact hfile.2 ownPath _ (source?_configuredWith noWorkersText) loadFrom_noWorkersText

/-- It is not enough that the file can be written. -/
theorem forced_initialisation_cannot_mend_file :
    ¬ ∀ (s : Surroundings) (args : List String) (invocation : Invocation)
        (options : ConfigOptions) (bind : String → UInt16 → Server.BindResult) (signalled : Bool),
      CommandLine.read s.configVariable args = .ok invocation →
      invocation.command = .config options →
      options.path = false → options.init = true → options.force = true →
      s.files.CanSave s.site.cwd (targetPath s.site options.global) →
      Restored s.site (targetPath s.site options.global) (run s bind signalled args) := by
  intro hlaw
  have hrestored := hlaw (configuredWith noWorkersText) ["config", "--init", "--force"] _
    forcedOptions (fun _ _ => .error .denied) false (read_forced noWorkersText) rfl rfl rfl rfl
    (canSave_configuredWith noWorkersText)
  have hload : loadWith (configuredWith noWorkersText).files (configuredWith noWorkersText).site
      none = .error (.invalid ownPath (.rejected .noWorkers)) := by
    rw [loadWith_eq, source?_configuredWith]
    exact loadFrom_noWorkersText
  have hending := hrestored.ending
  rw [run_of_load_error (read_forced noWorkersText) hload] at hending
  cases hending

end Program
end RpcHost
