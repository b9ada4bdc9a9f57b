import RpcHost.Commands.Manage
import RpcHost.Proofs.Config.Saving
import RpcHost.Proofs.Files.Leaving

/-!
# What managing configurations does to files

The command changes files only where it is told to initialise. It then looks whether something is in
the place of the new file, makes the directories above it, and writes it. What was not in reach when
it looked can be in reach when it writes: `manage_spares_files` says that this is the only way in
which a file is replaced without force.
-/

namespace RpcHost
namespace Commands

open Files FileSystem Config CommandLine

variable {options : ConfigOptions} {c : Config} {site : Site} {fs after : FileSystem}
  {place : Location} {output : String} {e : ManageError}

/-- The command is to initialise. Being asked for the places goes before that. -/
structure Initialises (options : ConfigOptions) : Prop where
  path : options.path = false
  init : options.init = true

/-! ## The command -/

theorem manage_of_initialises (h : Initialises options) (c : Config) (site : Site)
    (fs : FileSystem) : manage options c site fs = initialise options site fs := by
  rw [manage, h.path, if_neg Bool.false_ne_true, h.init, if_pos rfl]

/-- What does not initialise only prints. -/
theorem files_manage (h : ¬ Initialises options) (c : Config) (site : Site) (fs : FileSystem) :
    (manage options c site fs).2 = fs := by
  rw [manage]
  split
  · rfl
  · rename_i hpath
    split
    · rename_i hinit
      exact absurd ⟨Bool.eq_false_iff.2 hpath, hinit⟩ h
    · split <;> rfl

theorem initialise_of_exists (hforce : options.force = false)
    (hexists : fs.pathExists site.cwd (targetPath site options.global) = true) :
    initialise options site fs = (.error (.alreadyThere (targetPath site options.global)), fs) := by
  simp [initialise, hforce, hexists]

/-- Everything that initialising can do. -/
inductive InitialiseStep (options : ConfigOptions) (site : Site) (fs : FileSystem) :
    Except ManageError String × FileSystem → Prop where
  | refused (hforce : options.force = false)
      (hexists : fs.pathExists site.cwd (targetPath site options.global) = true) :
      InitialiseStep options site fs (.error (.alreadyThere (targetPath site options.global)), fs)
  | wrote {after : FileSystem}
      (hfree : options.force = true
        ∨ fs.pathExists site.cwd (targetPath site options.global) = false)
      (hsave : Config.default.save site.cwd (targetPath site options.global) fs = (.ok (), after)) :
      InitialiseStep options site fs
        (.ok ("Wrote " ++ (targetPath site options.global).text ++ "\n"), after)
  | failed {e : SaveError} {after : FileSystem}
      (hsave : Config.default.save site.cwd (targetPath site options.global) fs = (.error e, after)) :
      InitialiseStep options site fs
        (.error (.unwritten (targetPath site options.global) e), after)

theorem initialiseStep (options : ConfigOptions) (site : Site) (fs : FileSystem) :
    InitialiseStep options site fs (initialise options site fs) := by
  rw [initialise]
  split
  · rename_i hthere
    rcases Bool.and_eq_true_iff.1 hthere with ⟨hexists, hforce⟩
    exact .refused (by simpa using hforce) hexists
  · rename_i hthere
    split
    · rename_i hsave
      refine .wrote ?_ hsave
      cases hforce : options.force with
      | true => exact .inl rfl
      | false => exact .inr (by simpa [hforce] using hthere)
    · rename_i hsave
      exact .failed hsave

theorem initialise_of_saved
    (hfree : options.force = true ∨ fs.pathExists site.cwd (targetPath site options.global) = false)
    (hsave : Config.default.save site.cwd (targetPath site options.global) fs = (.ok (), after)) :
    initialise options site fs =
      (.ok ("Wrote " ++ (targetPath site options.global).text ++ "\n"), after) := by
  have hthere : (fs.pathExists site.cwd (targetPath site options.global)
      && !options.force) = false := by
    rcases hfree with hforce | hexists
    · simp [hforce]
    · simp [hexists]
  rw [initialise, hthere, if_neg Bool.false_ne_true, hsave]

/-! ## Files that are replaced -/

/-- A file was there, and it is not there with the same content any more. -/
def Replaces (fs after : FileSystem) (place : Location) : Prop :=
  ∃ content, fs.find? place = some (.file content) ∧ after.find? place ≠ some (.file content)

theorem exists_default_text : ∃ text, Config.default.text? = some text :=
  Option.isSome_iff_exists.1 ((isSome_text?_iff Config.default).2 storable_default)

theorem not_replaces_of_addsDirectories {new : Location → Prop}
    (h : AddsDirectories new fs after) : ¬ Replaces fs after place := by
  rintro ⟨content, hfile, hchanged⟩
  exact hchanged (h.find?_file_iff.2 hfile)

/-- Saving replaces no file but the one that it writes. -/
theorem resolve_of_replaces {text : String} {path : Path} (htext : Config.default.text? = some text)
    (hsave : Config.default.save site.cwd path fs = (.ok (), after)) (h : Replaces fs after place) :
    after.resolve site.cwd path = .ok place := by
  rcases exists_savesAt ((save_eq_ok_iff htext).1 hsave) with ⟨saved, hsaved⟩
  by_cases hplace : place = saved
  · rw [hplace, hsaved.resolve]
  · rcases h with ⟨content, hfile, hchanged⟩
    rcases hsaved.others place hplace with hsame | ⟨hnone, _⟩
    · exact absurd (hsame.trans hfile) hchanged
    · rw [hfile] at hnone
      cases hnone

/-- A way that leads up again is that of a home directory. -/
theorem home_of_leavesMissing {start : Location} {global : Bool}
    (h : fs.LeavesMissing start (targetPath site global).steps) :
    global = true ∧ ∃ home, site.home = some home := by
  have hlocal : ¬ fs.LeavesMissing start localPath.steps := by
    have hsteps : localPath.steps = [.down ".minirpc", .down "config.toml"] := by
      rfl
    rw [hsteps]
    exact not_leavesMissing_of_not_mem (by decide)
  cases global with
  | false => exact absurd h hlocal
  | true =>
      refine ⟨rfl, ?_⟩
      cases hhome : site.home with
      | none =>
          simp only [targetPath, globalPath?, hhome] at h
          exact absurd h hlocal
      | some home => exact ⟨home, rfl⟩

/-- Without force a file is only replaced behind a missing directory that the path of the home
directory leads up from. -/
structure OutOfReach (options : ConfigOptions) (site : Site) (fs : FileSystem) : Prop where
  global : options.global = true
  home : ∃ home, site.home = some home
  way : fs.LeavesMissing (origin site.cwd (targetPath site true)) (targetPath site true).steps

theorem of_replaces (h : Replaces fs (initialise options site fs).2 place) :
    (∃ output, (initialise options site fs).1 = .ok output)
    ∧ (initialise options site fs).2.resolve site.cwd (targetPath site options.global) = .ok place
    ∧ (options.force = true ∨ (fs.Grounded → OutOfReach options site fs)) := by
  rcases exists_default_text with ⟨text, htext⟩
  have hstep := initialiseStep options site fs
  generalize initialise options site fs = result at h hstep
  cases hstep with
  | refused =>
      rcases h with ⟨content, hfile, hchanged⟩
      exact absurd hfile hchanged
  | failed hsave =>
      rcases exists_fault_of_save_error htext hsave with ⟨fault, _, hfault⟩
      exact absurd h (not_replaces_of_addsDirectories (addsDirectories_of_save_error hfault))
  | wrote hfree hsave =>
      have hplace := resolve_of_replaces htext hsave h
      refine ⟨⟨_, rfl⟩, hplace, ?_⟩
      rcases hfree with hforce | hexists
      · exact .inl hforce
      · refine .inr fun hfs => ?_
        rcases h with ⟨content, hfile, _⟩
        have hway := leavesMissing_of_save hfs ((save_eq_ok_iff htext).1 hsave) hplace hfile hexists
        rcases home_of_leavesMissing hway with ⟨hglobal, hhome⟩
        rw [hglobal] at hway
        exact ⟨hglobal, hhome, hway⟩

/-! ## What is there afterwards -/

/-- The default configuration is in its place, and no file but its own has changed. -/
structure Written (site : Site) (target : Path) (fs after : FileSystem) : Prop where
  stored : Stored Config.default site.cwd target after
  loads : loadFrom after site.cwd target = .ok Config.default
  others : ∃ text place, SavesAt fs after site.cwd target (Text.utf8 text) place

theorem written_of_save {target : Path}
    (hsave : Config.default.save site.cwd target fs = (.ok (), after)) :
    Written site target fs after := by
  rcases exists_default_text with ⟨text, htext⟩
  rcases exists_savesAt ((save_eq_ok_iff htext).1 hsave) with ⟨place, hplace⟩
  have hstored := stored_of_readText htext (readText_of_read hplace.read)
  exact ⟨hstored, hstored.loads (validate_of_valid rejection?_default), text, place, hplace⟩

theorem Written.pathExists {target : Path} (h : Written site target fs after) :
    after.pathExists site.cwd target = true := by
  rcases h.others with ⟨text, place, hplace⟩
  rw [FileSystem.pathExists, hplace.resolve]

theorem written_of_initialise (h : initialise options site fs = (.ok output, after)) :
    output = "Wrote " ++ (targetPath site options.global).text ++ "\n"
    ∧ Written site (targetPath site options.global) fs after := by
  have hstep := initialiseStep options site fs
  rw [h] at hstep
  cases hstep with
  | wrote _ hsave => exact ⟨rfl, written_of_save hsave⟩

/-- The command changes files only where it initialises, and there only its own. It replaces one
only by force, unless that file came into reach when a missing directory was made. Once it has
written the default configuration it refuses to do so again. -/
theorem manage_spares_files (options : ConfigOptions) (c : Config) (site : Site)
    (fs : FileSystem) :
    (options.path = true ∨ options.init = false → (manage options c site fs).2 = fs)
    ∧ (options.path = false → options.init = true →
        (options.force = false →
          fs.pathExists site.cwd (targetPath site options.global) = true →
          manage options c site fs = (.error (.alreadyThere (targetPath site options.global)), fs))
        ∧ ∀ output after, manage options c site fs = (.ok output, after) →
            Written site (targetPath site options.global) fs after
            ∧ ∀ again other, Initialises again → again.force = false →
                again.global = options.global → manage again other site after =
                  (.error (.alreadyThere (targetPath site options.global)), after))
    ∧ ∀ place, Replaces fs (manage options c site fs).2 place →
        options.path = false ∧ options.init = true
        ∧ (∃ output, (manage options c site fs).1 = .ok output)
        ∧ (manage options c site fs).2.resolve site.cwd (targetPath site options.global) = .ok place
        ∧ (options.force = true ∨ (fs.Grounded → OutOfReach options site fs)) := by
  refine ⟨?_, ?_, ?_⟩
  · intro hneither
    refine files_manage (fun h => ?_) c site fs
    rcases hneither with hpath | hinit
    · rw [h.path] at hpath
      cases hpath
    · rw [h.init] at hinit
      cases hinit
  · intro hpath hinit
    rw [manage_of_initialises ⟨hpath, hinit⟩]
    refine ⟨fun hforce hexists => initialise_of_exists hforce hexists, ?_⟩
    intro output after hdone
    have hwritten := (written_of_initialise hdone).2
    refine ⟨hwritten, ?_⟩
    intro again other hagain hforce hglobal
    rw [manage_of_initialises hagain, ← hglobal]
    exact initialise_of_exists hforce (by rw [hglobal, hwritten.pathExists])
  · intro place hreplaces
    by_cases h : Initialises options
    · rw [manage_of_initialises h] at hreplaces ⊢
      exact ⟨h.path, h.init, of_replaces hreplaces⟩
    · rw [files_manage h] at hreplaces
      rcases hreplaces with ⟨content, hfile, hchanged⟩
      exact absurd hfile hchanged

/-! ## A configuration that is there already -/

def threeWorkersText : String :=
  "[control]\nworkers = 3\n"

/-- A directory with a configuration of its own. -/
def configuredTree (name : String) : FileSystem :=
  [⟨[name], 1, .directory⟩, ⟨[".minirpc", name], 2, .directory⟩,
    ⟨["config.toml", ".minirpc", name], 3, .file (Text.utf8 threeWorkersText)⟩]

theorem utf8_ne_threeWorkersText {text : String} (htext : Config.default.text? = some text) :
    Text.utf8 text ≠ Text.utf8 threeWorkersText := by
  intro hsame
  have hread : Config.read? threeWorkersText = some { control := { workers := 3 } } := by
    cbv
  have heq : text = threeWorkersText := by
    have hbytes := congrArg Text.ofUtf8? hsame
    rw [Text.ofUtf8?_utf8, Text.ofUtf8?_utf8] at hbytes
    exact Option.some.inj hbytes
  have hdefault := read?_of_text? htext
  rw [heq, hread] at hdefault
  exact absurd (Option.some.inj hdefault) (by decide)

def workSite : Site := ⟨["work"], none⟩

/-- The home directory lies behind one that is missing. -/
def detourSite : Site := ⟨["work"], some ⟨"../home/missing/.."⟩⟩

def configFile (name : String) : Location := ["config.toml", ".minirpc", name]

theorem replaces_of_find? {text : String} (htext : Config.default.text? = some text) {name : String}
    (hfound : after.find? (configFile name) = some (.file (Text.utf8 text))) :
    Replaces (configuredTree name) after (configFile name) := by
  refine ⟨Text.utf8 threeWorkersText, ?_, ?_⟩
  · simp [configuredTree, configFile, find?_cons, lookup, Item.isAt]
  · rw [hfound]
    simpa using utf8_ne_threeWorkersText htext

theorem manage_spares_files_when_configured :
    (∀ c, manage { init := true } c workSite (configuredTree "work") =
      (.error (.alreadyThere localPath), configuredTree "work"))
    ∧ (∀ c, (manage { init := true, force := true, path := true } c workSite
        (configuredTree "work")).2 = configuredTree "work")
    ∧ ∀ c, ∃ after, manage { init := true, force := true } c workSite (configuredTree "work") =
          (.ok "Wrote .minirpc/config.toml\n", after)
        ∧ loadFrom after workSite.cwd localPath = .ok Config.default
        ∧ after.resolve workSite.cwd localPath = .ok (configFile "work")
        ∧ manage { init := true } c workSite after = (.error (.alreadyThere localPath), after) := by
  have hexists : (configuredTree "work").pathExists workSite.cwd localPath = true := by
    rfl
  refine ⟨?_, ?_, ?_⟩
  · intro c
    exact ((manage_spares_files { init := true } c workSite (configuredTree "work")).2.1 rfl rfl).1
      rfl hexists
  · intro c
    exact (manage_spares_files { init := true, force := true, path := true } c workSite
      (configuredTree "work")).1 (.inl rfl)
  · intro c
    rcases exists_default_text with ⟨text, htext⟩
    have hsave : Config.default.save workSite.cwd localPath (configuredTree "work") =
        (.ok (), (configuredTree "work").put (configFile "work") (.file (Text.utf8 text))) := by
      rw [save_of_text? htext]
      rfl
    have hdone : manage { init := true, force := true } c workSite (configuredTree "work") =
        (.ok "Wrote .minirpc/config.toml\n",
          (configuredTree "work").put (configFile "work") (.file (Text.utf8 text))) := by
      rw [manage_of_initialises ⟨rfl, rfl⟩]
      exact initialise_of_saved (.inl rfl) hsave
    have hlaw := manage_spares_files { init := true, force := true } c workSite
      (configuredTree "work")
    have hreplaces := hlaw.2.2 (configFile "work")
    rw [hdone] at hreplaces
    rcases (hlaw.2.1 rfl rfl).2 _ _ hdone with ⟨hwritten, hagain⟩
    refine ⟨_, hdone, hwritten.loads, ?_, hagain { init := true } c ⟨rfl, rfl⟩ rfl rfl⟩
    refine (hreplaces (replaces_of_find? htext ?_)).2.2.2.1
    rw [configFile, find?_put, if_pos rfl]

/-- Force is not the only way to lose a file. -/
theorem unforced_run_replaces_file :
    ¬ ∀ (options : ConfigOptions) (c : Config) (site : Site) (fs : FileSystem) (place : Location),
      fs.Grounded → Replaces fs (manage options c site fs).2 place → options.force = true := by
  intro hlaw
  rcases exists_default_text with ⟨text, htext⟩
  have hgrounded : (configuredTree "home").Grounded := grounded_of_items (by decide)
  have hsave : Config.default.save detourSite.cwd (targetPath detourSite true)
      (configuredTree "home") = (.ok (), ((configuredTree "home").put ["missing", "home"]
        .directory).put (configFile "home") (.file (Text.utf8 text))) := by
    rw [save_of_text? htext]
    rfl
  have hexists : (configuredTree "home").pathExists detourSite.cwd (targetPath detourSite true) =
      false := by
    rfl
  have hfiles : (manage { init := true, global := true } Config.default detourSite
      (configuredTree "home")).2 = ((configuredTree "home").put ["missing", "home"]
        .directory).put (configFile "home") (.file (Text.utf8 text)) := by
    rw [manage_of_initialises ⟨rfl, rfl⟩, initialise_of_saved (.inr hexists) hsave]
  have hreplaces : Replaces (configuredTree "home") (manage { init := true, global := true }
      Config.default detourSite (configuredTree "home")).2 (configFile "home") := by
    refine replaces_of_find? htext ?_
    rw [hfiles, configFile, find?_put, if_pos rfl]
  have hforce := hlaw _ _ _ _ _ hgrounded hreplaces
  cases hforce

end Commands
end RpcHost
