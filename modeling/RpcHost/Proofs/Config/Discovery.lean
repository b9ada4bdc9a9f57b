import RpcHost.Proofs.Config.Loading

/-!
# Which configuration is found

The search goes upwards from the working directory and ends at the first configuration, so what it
finds is the deepest one (`nearest?_eq_some_iff`). That file is loaded and no other, whatever comes
of it: `deepest_file_decides`.
-/

namespace RpcHost
namespace Config

open Files

variable {fs other : FileSystem} {site : Site} {place : Location} {path : Path}

/-! ## Paths of configurations -/

theorem endsInSlash_append {front back : String} (h : back ≠ "") :
    Path.endsInSlash ⟨front ++ back⟩ = Path.endsInSlash ⟨back⟩ := by
  have hback : back.toList ≠ [] := fun hnil => h (String.toList_eq_nil_iff.1 hnil)
  simp only [Path.endsInSlash, String.toList_append, List.getLast?_append_of_ne_nil _ hback]

theorem endsInSlash_of_not_mem {name : String} (h : '/' ∉ name.toList) :
    Path.endsInSlash ⟨name⟩ = false := by
  refine decide_eq_false ?_
  intro hlast
  exact h (List.mem_of_getLast? hlast)

theorem text_join {directory : Path} (hempty : directory.text ≠ "")
    (hslash : directory.endsInSlash = false) (name : String) :
    (directory.join name).text = directory.text ++ "/" ++ name := by
  simp [Path.join, hempty, hslash]

theorem text_path_cons (name : String) (up : Location) :
    ∃ front, (Location.path (name :: up)).text = front ++ "/" ++ name := by
  cases up with
  | nil => exact ⟨"", by simp [Location.path]⟩
  | cons above up =>
      refine ⟨"/" ++ "/".intercalate (above :: up).reverse, ?_⟩
      rw [Location.path, List.reverse_cons, String.intercalate_append_of_ne_nil (by simp) (by simp)]
      simp [String.append_assoc]

/-- The configuration of the root directory. -/
theorem text_pathAt_root : (pathAt []).text = "/.minirpc/config.toml" := by
  decide

/-- The configuration of any other directory lies in a directory below it. -/
theorem text_pathAt {name : String} (hempty : name ≠ "") (hslash : '/' ∉ name.toList)
    (up : Location) : (pathAt (name :: up)).text =
      (Location.path (name :: up)).text ++ "/.minirpc/config.toml" := by
  rcases text_path_cons name up with ⟨front, hfront⟩
  have hplace : (Location.path (name :: up)).text ≠ ""
      ∧ (Location.path (name :: up)).endsInSlash = false := by
    refine ⟨?_, ?_⟩
    · rw [hfront]
      simp
    · exact (congrArg (fun text => Path.endsInSlash ⟨text⟩) hfront).trans
        ((endsInSlash_append hempty).trans (endsInSlash_of_not_mem hslash))
  have hdirectory := text_join hplace.1 hplace.2 directoryName
  have hfile : ((Location.path (name :: up)).join directoryName).endsInSlash = false :=
    (congrArg (fun text => Path.endsInSlash ⟨text⟩) hdirectory).trans
      ((endsInSlash_append (by decide)).trans (by decide))
  rw [pathAt, pathBelow, text_join (by rw [hdirectory]; simp) hfile, hdirectory]
  simp [String.append_assoc, directoryName, fileName]

/-! ## The search -/

theorem ancestors_eq_tails (place : Location) : place.ancestors = place.tails := by
  induction place with
  | nil => rfl
  | cons name up ih => rw [Location.ancestors, ih, List.tails_cons]

theorem mem_ancestors_iff {up : Location} : up ∈ place.ancestors ↔ up <:+ place := by
  rw [ancestors_eq_tails, List.mem_tails]

/-- A directory has a configuration if there is something in the place of one. -/
def Has (fs : FileSystem) (site : Site) (place : Location) : Prop :=
  fs.pathExists site.cwd (pathAt place) = true

/-- The deepest of the working directory and those above it that have a configuration. -/
structure Deepest (fs : FileSystem) (site : Site) (place : Location) : Prop where
  above : place <:+ site.cwd
  has : Has fs site place
  deepest : ∀ other, other <:+ site.cwd → Has fs site other → other <:+ place

theorem find?_ancestors_eq_some_iff {p : Location → Bool} {cwd place : Location} :
    cwd.ancestors.find? p = some place ↔
      place <:+ cwd ∧ p place = true
        ∧ ∀ other, other <:+ cwd → p other = true → other <:+ place := by
  -- Either the directory itself has what is looked for, or the search goes on above it.
  induction cwd with
  | nil =>
      by_cases hp : p [] = true
      · simp only [Location.ancestors, List.find?_cons, hp, List.suffix_nil, Option.some.injEq]
        constructor
        · rintro rfl
          exact ⟨rfl, hp, fun _ h _ => List.suffix_nil.2 h⟩
        · rintro ⟨rfl, _⟩
          rfl
      · simp only [Location.ancestors, List.find?_cons, hp, List.suffix_nil]
        constructor
        · intro h
          cases h
        · rintro ⟨rfl, hplace, _⟩
          exact absurd hplace hp
  | cons name up ih =>
      by_cases hp : p (name :: up) = true
      · rw [Location.ancestors, List.find?_cons_of_pos hp, Option.some.injEq]
        constructor
        · rintro rfl
          exact ⟨List.suffix_rfl, hp, fun _ h _ => h⟩
        · rintro ⟨habove, _, hdeepest⟩
          exact (hdeepest _ List.suffix_rfl hp).eq_of_length_le habove.length_le
      · rw [Location.ancestors, List.find?_cons_of_neg hp, ih]
        constructor
        · rintro ⟨habove, hplace, hdeepest⟩
          refine ⟨habove.trans (List.suffix_cons name up), hplace, ?_⟩
          intro other hother hhas
          rcases List.suffix_cons_iff.1 hother with rfl | hother
          · exact absurd hhas hp
          · exact hdeepest other hother hhas
        · rintro ⟨habove, hplace, hdeepest⟩
          rcases List.suffix_cons_iff.1 habove with rfl | habove
          · exact absurd hplace hp
          · refine ⟨habove, hplace, ?_⟩
            intro other hother hhas
            exact hdeepest other (hother.trans (List.suffix_cons name up)) hhas

theorem nearest?_eq (fs : FileSystem) (site : Site) :
    nearest? fs site =
      (site.cwd.ancestors.find? fun place => fs.pathExists site.cwd (pathAt place)).map pathAt :=
  List.find?_map

/-- The search ends at the deepest directory that has a configuration. -/
theorem nearest?_eq_some_iff :
    nearest? fs site = some path ↔ ∃ place, Deepest fs site place ∧ path = pathAt place := by
  rw [nearest?_eq, Option.map_eq_some_iff]
  constructor
  · rintro ⟨place, hfound, rfl⟩
    rcases find?_ancestors_eq_some_iff.1 hfound with ⟨habove, hhas, hdeepest⟩
    exact ⟨place, ⟨habove, hhas, hdeepest⟩, rfl⟩
  · rintro ⟨place, ⟨habove, hhas, hdeepest⟩, rfl⟩
    exact ⟨place, find?_ancestors_eq_some_iff.2 ⟨habove, hhas, hdeepest⟩, rfl⟩

theorem nearest?_eq_none_iff :
    nearest? fs site = none ↔ ∀ place, place <:+ site.cwd → ¬ Has fs site place := by
  rw [nearest?_eq, Option.map_eq_none_iff, List.find?_eq_none]
  constructor
  · intro h place habove
    exact h place (mem_ancestors_iff.2 habove)
  · intro h place habove
    exact h place (mem_ancestors_iff.1 habove)

/-! ## The file that is loaded -/

theorem loadFrom_congr {cwd : Location} (h : other.readText cwd path = fs.readText cwd path) :
    loadFrom other cwd path = loadFrom fs cwd path := by
  unfold loadFrom
  rw [h]

/-- The same candidates are there in both file systems, and that one of them that is loaded reads
the same. -/
structure AgreesOn (fs other : FileSystem) (site : Site) : Prop where
  above : ∀ place, place <:+ site.cwd → (Has other site place ↔ Has fs site place)
  inHome : ∀ path, globalPath? site = some path →
    other.pathExists site.cwd path = fs.pathExists site.cwd path
  content : ∀ path, source? fs site none = some path →
    other.readText site.cwd path = fs.readText site.cwd path

theorem AgreesOn.deepest_iff (h : AgreesOn fs other site) :
    Deepest other site place ↔ Deepest fs site place := by
  constructor
  · rintro ⟨habove, hhas, hdeepest⟩
    refine ⟨habove, (h.above place habove).1 hhas, ?_⟩
    intro up hup hthere
    exact hdeepest up hup ((h.above up hup).2 hthere)
  · rintro ⟨habove, hhas, hdeepest⟩
    refine ⟨habove, (h.above place habove).2 hhas, ?_⟩
    intro up hup hthere
    exact hdeepest up hup ((h.above up hup).1 hthere)

theorem AgreesOn.source?_eq (h : AgreesOn fs other site) :
    source? other site none = source? fs site none := by
  have hnearest : nearest? other site = nearest? fs site := by
    refine Option.ext fun path => ?_
    rw [nearest?_eq_some_iff, nearest?_eq_some_iff]
    simp only [h.deepest_iff]
  have hhome : (globalPath? site).filter (other.pathExists site.cwd) =
      (globalPath? site).filter (fs.pathExists site.cwd) := by
    cases hpath : globalPath? site with
    | none => rfl
    | some path => simp only [Option.filter, h.inHome path hpath]
  rw [source?, source?, hnearest, hhome]

/-- The chosen file alone says what is loaded. -/
theorem AgreesOn.load_eq (h : AgreesOn fs other site) : load other site = load fs site := by
  have hload : loadWith other site none = loadWith fs site none := by
    rw [loadWith_eq, loadWith_eq, h.source?_eq]
    cases hsource : source? fs site none with
    | none => rfl
    | some path => exact loadFrom_congr (h.content path hsource)
  exact hload

theorem load_of_nearest? (h : nearest? fs site = some path) :
    load fs site = loadFrom fs site.cwd path := by
  rw [load, h]

theorem load_of_global (hnone : nearest? fs site = none) (hpath : globalPath? site = some path) :
    load fs site =
      if fs.pathExists site.cwd path then loadFrom fs site.cwd path else .ok default := by
  rw [load, hnone]
  simp only [loadGlobal, hpath]

/-- The deepest configuration at or above the working directory is found, if there is one, and what
comes of that file is what comes of loading. Only when there is none does the home directory count,
and then the defaults. A path that is given is loaded without a search. -/
theorem deepest_file_decides (fs : FileSystem) (site : Site) :
    (∀ path, nearest? fs site = some path ↔
      ∃ place, Deepest fs site place ∧ path = pathAt place)
    ∧ (nearest? fs site = none ↔ ∀ place, place <:+ site.cwd → ¬ Has fs site place)
    ∧ ((pathAt []).text = "/.minirpc/config.toml"
      ∧ ∀ name up, name ≠ "" → '/' ∉ name.toList →
        (pathAt (name :: up)).text =
          (Location.path (name :: up)).text ++ "/.minirpc/config.toml")
    ∧ (∀ place, Deepest fs site place → load fs site = loadFrom fs site.cwd (pathAt place))
    ∧ ((∀ place, place <:+ site.cwd → ¬ Has fs site place) →
        (∀ path, globalPath? site = some path → fs.pathExists site.cwd path = true →
          load fs site = loadFrom fs site.cwd path)
        ∧ ((∀ path, globalPath? site = some path → fs.pathExists site.cwd path = false) →
          load fs site = .ok default))
    ∧ (∀ path, loadWith fs site (some path) = loadFrom fs site.cwd path
      ∧ ∀ other otherSite, otherSite.cwd = site.cwd →
        other.readText site.cwd path = fs.readText site.cwd path →
        loadWith other otherSite (some path) = loadWith fs site (some path))
    ∧ ∀ other, AgreesOn fs other site → load other site = load fs site := by
  refine ⟨fun _ => nearest?_eq_some_iff, nearest?_eq_none_iff, ⟨text_pathAt_root, ?_⟩, ?_, ?_, ?_,
    fun _ h => h.load_eq⟩
  · intro name up hempty hslash
    exact text_pathAt hempty hslash up
  · intro place hdeepest
    exact load_of_nearest? (nearest?_eq_some_iff.2 ⟨place, hdeepest, rfl⟩)
  · -- Nothing was found on the way up, so only the home directory is left.
    intro hnone
    have hsearch := nearest?_eq_none_iff.2 hnone
    refine ⟨?_, ?_⟩
    · intro path hpath hexists
      rw [load_of_global hsearch hpath, if_pos hexists]
    · intro hmissing
      cases hpath : globalPath? site with
      | none =>
          rw [load, hsearch]
          simp only [loadGlobal, hpath]
      | some path =>
          rw [load_of_global hsearch hpath, hmissing path hpath]
          rfl
  · intro path
    refine ⟨rfl, ?_⟩
    intro other otherSite hcwd hcontent
    rw [loadWith, loadWith, hcwd]
    exact loadFrom_congr hcontent

/-! ## A directory in the place of a file -/

/-- A directory and one below it, with a directory where the upper one would have its configuration,
and a file in the home directory. -/
def shadowed (homeText : String) : FileSystem :=
  [⟨["a"], 1, .directory⟩, ⟨["b", "a"], 2, .directory⟩, ⟨[".minirpc", "a"], 2, .directory⟩,
    ⟨["config.toml", ".minirpc", "a"], 3, .directory⟩, ⟨["h"], 1, .directory⟩,
    ⟨[".minirpc", "h"], 2, .directory⟩,
    ⟨["config.toml", ".minirpc", "h"], 3, .file (Text.utf8 homeText)⟩]

def shadowedSite : Site := ⟨["b", "a"], some ⟨"/h"⟩⟩

theorem deepest_shadowed (homeText : String) :
    Deepest (shadowed homeText) shadowedSite ["a"] := by
  have hhas : Has (shadowed homeText) shadowedSite ["a"] := by
    rw [Has]
    rfl
  have hlower : ¬ Has (shadowed homeText) shadowedSite ["b", "a"] := by
    have hmissing :
        (shadowed homeText).pathExists shadowedSite.cwd (pathAt ["b", "a"]) = false := by
      rfl
    rw [Has, hmissing]
    exact Bool.false_ne_true
  refine ⟨List.suffix_cons "b" ["a"], hhas, ?_⟩
  intro up hup hthere
  rcases List.suffix_cons_iff.1 hup with rfl | hup
  · exact absurd hthere hlower
  · exact hup

theorem agreesOn_shadowed (homeText otherText : String) :
    AgreesOn (shadowed homeText) (shadowed otherText) shadowedSite := by
  have hnearest : nearest? (shadowed homeText) shadowedSite = some (pathAt ["a"]) :=
    nearest?_eq_some_iff.2 ⟨["a"], deepest_shadowed homeText, rfl⟩
  refine ⟨?_, ?_, ?_⟩
  · -- No candidate depends on what stands in the file.
    intro place hplace
    have hcases : place = ["b", "a"] ∨ place = ["a"] ∨ place = [] := by
      simpa [shadowedSite, List.suffix_cons_iff] using hplace
    rcases hcases with rfl | rfl | rfl
    · rfl
    · rfl
    · rfl
  · intro path hpath
    cases hpath
    rfl
  · intro path hpath
    rw [source?, hnearest] at hpath
    cases hpath
    rfl

/-- What lies in the place of the deepest configuration cannot be read, and the file in the home
directory does not make up for it. -/
theorem deepest_file_decides_over_directory :
    nearest? (shadowed "") shadowedSite = some (pathAt ["a"])
    ∧ (pathAt ["a"]).text = "/a/.minirpc/config.toml"
    ∧ load (shadowed "") shadowedSite = .error (.unreadable (pathAt ["a"]) .isDirectory)
    ∧ load (shadowed "[") shadowedSite = load (shadowed "") shadowedSite
    ∧ load (shadowed "") ⟨[], some ⟨"/h"⟩⟩ = loadFrom (shadowed "") [] ⟨"/h/.minirpc/config.toml"⟩
    ∧ load (shadowed "") ⟨[], none⟩ = .ok default
    ∧ loadWith (shadowed "[") shadowedSite (some (pathAt ["a"])) =
        loadWith (shadowed "") ⟨["b", "a"], none⟩ (some (pathAt ["a"])) := by
  have hroot : ∀ home place, place <:+ (⟨[], home⟩ : Site).cwd →
      ¬ Has (shadowed "") ⟨[], home⟩ place := by
    intro home place hplace
    have hmissing : (shadowed "").pathExists [] (pathAt []) = false := by
      rfl
    rw [List.suffix_nil.1 hplace, Has, hmissing]
    exact Bool.false_ne_true
  have hhomePath : globalPath? ⟨[], some ⟨"/h"⟩⟩ = some ⟨"/h/.minirpc/config.toml"⟩ := by
    decide
  have hhomeExists : (shadowed "").pathExists [] ⟨"/h/.minirpc/config.toml"⟩ = true := by
    rfl
  have hcontent : (shadowed "[").readText ["b", "a"] (pathAt ["a"]) =
      (shadowed "").readText ["b", "a"] (pathAt ["a"]) := by
    rfl
  rcases deepest_file_decides (shadowed "") shadowedSite with
    ⟨hsearch, _, htext, hloads, _, _, hagree⟩
  have hnowhere := deepest_file_decides (shadowed "") ⟨[], none⟩
  have hhome := deepest_file_decides (shadowed "") ⟨[], some ⟨"/h"⟩⟩
  have hgiven := deepest_file_decides (shadowed "") ⟨["b", "a"], none⟩
  refine ⟨(hsearch _).2 ⟨["a"], deepest_shadowed "", rfl⟩, ?_, ?_,
    hagree _ (agreesOn_shadowed "" "["), ?_, ?_, ?_⟩
  · exact (htext.2 "a" [] (by decide) (by decide)).trans (by decide)
  · rw [hloads ["a"] (deepest_shadowed "")]
    rfl
  · exact (hhome.2.2.2.2.1 (hroot _)).1 _ hhomePath hhomeExists
  · exact (hnowhere.2.2.2.2.1 (hroot _)).2 fun path hpath => by cases hpath
  · exact (hgiven.2.2.2.2.2.1 _).2 _ shadowedSite rfl hcontent

end Config
end RpcHost
