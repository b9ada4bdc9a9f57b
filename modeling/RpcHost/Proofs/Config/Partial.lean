import RpcHost.Config.Partial
import RpcHost.Proofs.Config.Writing
import RpcHost.Proofs.Toml.Statements

/-!
# Partial configuration files

A document that chooses values for some keys is read as the defaults with these values put over
them, wherever the values stand and whatever else the document says; and a key whose value does not
have its type makes reading fail. The main statement is `partial_file_goes_over_defaults`.
-/

namespace RpcHost
namespace Config

open Toml

variable {stmts : List Statement} {entries : List (String × Value)}

/-! ## Sections -/

/-- The entries of a section, none when it is missing. -/
def sectionEntries (name : String) (entries : List (String × Value)) : List (String × Value) :=
  match Entries.find? name entries with
  | some (.table found) => found
  | _ => []

/-- The section is missing or a table. -/
def IsSection (name : String) (entries : List (String × Value)) : Prop :=
  Entries.find? name entries = none ∨ ∃ found, Entries.find? name entries = some (.table found)

theorem at?_key {name : String} (h : IsSection name entries) (key : String) :
    (Value.table entries).at? [name, key] = Entries.find? key (sectionEntries name entries) := by
  rcases h with hnone | ⟨found, hfound⟩
  · simp [Value.at?, sectionEntries, hnone]
  · simp [Value.at?, sectionEntries, hfound]

theorem isSection_of_holds {name : String} (h : Holds (.table entries) stmts [name])
    (helement : Statement.element [name] ∉ stmts)
    (htables : ∀ v, Writes stmts [name] v → ∃ found, v = .table found) :
    IsSection name entries := by
  have hat : (Value.table entries).at? [name] = Entries.find? name entries := by
    simp [Value.at?]
  by_cases hreach : Reaches stmts [name]
  · rcases h.reached hreach with ⟨v, hv, hwrites | ⟨found, rfl⟩ | ⟨hstmts, _⟩⟩
    · rcases htables v hwrites with ⟨found, rfl⟩
      exact .inr ⟨found, hat ▸ hv⟩
    · exact .inr ⟨found, hat ▸ hv⟩
    · exact absurd hstmts helement
  · exact .inl (hat ▸ h.absent hreach)

/-- A missing section is read like an empty one. -/
theorem valueOr_section {α : Type} {name : String} {read : Value → Option α} {default : α}
    (h : IsSection name entries) (hempty : read (.table []) = some default) :
    valueOr entries name read default = read (.table (sectionEntries name entries)) := by
  rcases h with hnone | ⟨found, hfound⟩
  · simp only [valueOr, sectionEntries, hnone, hempty]
  · simp only [valueOr, sectionEntries, hfound]

theorem readControl_empty : readControl (.table []) = some {} := rfl

theorem readDebug_empty : readDebug (.table []) = some 0 := rfl

/-! ## Chosen values -/

theorem valueOr_given {α : Type} {key : String} {given : Option α} {encode : α → Value}
    {read : Value → Option α} {default : α} (h : Entries.find? key entries = given.map encode)
    (hread : ∀ a, read (encode a) = some a) :
    valueOr entries key read default = some (given.getD default) := by
  rw [valueOr, h]
  cases given with
  | none => rfl
  | some a => exact hread a

/-- In the document each key has the chosen value, if there is one. -/
def Partial.Chosen (p : Partial) (entries : List (String × Value)) : Prop :=
  ∀ e ∈ p.values, (Value.table entries).at? e.1 = e.2

theorem Partial.Chosen.find? {p : Partial} (h : p.Chosen entries) {name key : String}
    {value : Option Value} (hsection : IsSection name entries)
    (hkey : ([name, key], value) ∈ p.values) :
    Entries.find? key (sectionEntries name entries) = value :=
  (at?_key hsection key).symm.trans (h _ hkey)

theorem Partial.Chosen.readControl_eq {p : Partial} (h : p.Chosen entries)
    (hsection : IsSection "control" entries) :
    readControl (.table (sectionEntries "control" entries)) =
      some (p.laidOver default).control := by
  have hvalue : ∀ {α : Type} (key : String) (given : Option α) (encode : α → Value)
      (read : Value → Option α) (missing : α),
      (["control", key], given.map encode) ∈ p.values → (∀ a, read (encode a) = some a) →
        valueOr (sectionEntries "control" entries) key read missing = some (given.getD missing) :=
    fun _ _ _ _ _ hkey hread => valueOr_given (h.find? hsection hkey) hread
  have hword : ∀ (key : String) (given : Option UInt64) (missing : UInt64),
      (["control", key], given.map (.integer ·.toNat)) ∈ p.values →
        valueOr (sectionEntries "control" entries) key uint64? missing =
          some (given.getD missing) :=
    fun key given missing hkey => hvalue key given _ uint64? missing hkey uint64?_natural
  unfold readControl
  refine Option.bind_eq_some_iff.2 ⟨_, rfl, ?_⟩
  refine Option.bind_eq_some_iff.2
    ⟨_, hvalue _ p.enabled .boolean _ _ (by simp [Partial.values]) fun _ => rfl, ?_⟩
  refine Option.bind_eq_some_iff.2
    ⟨_, hvalue _ p.listenAddress .string _ _ (by simp [Partial.values]) fun _ => rfl, ?_⟩
  refine Option.bind_eq_some_iff.2
    ⟨_, hvalue _ p.listenPort _ _ _ (by simp [Partial.values]) uint16?_natural, ?_⟩
  refine Option.bind_eq_some_iff.2 ⟨_, hword _ p.workers _ (by simp [Partial.values]), ?_⟩
  refine Option.bind_eq_some_iff.2
    ⟨_, hvalue _ p.allowCors .boolean _ _ (by simp [Partial.values]) fun _ => rfl, ?_⟩
  refine Option.bind_eq_some_iff.2 ⟨_, hword _ p.readTimeoutSecs _ (by simp [Partial.values]), ?_⟩
  refine Option.bind_eq_some_iff.2 ⟨_, hword _ p.maxBodyBytes _ (by simp [Partial.values]), ?_⟩
  rfl

theorem Partial.Chosen.readDebug_eq {p : Partial} (h : p.Chosen entries)
    (hsection : IsSection "debug" entries) :
    readDebug (.table (sectionEntries "debug" entries)) = some (p.laidOver default).debugLevel := by
  unfold readDebug
  refine Option.bind_eq_some_iff.2 ⟨_, rfl, ?_⟩
  exact valueOr_given (h.find? hsection (by simp [Partial.values])) uint8?_natural

theorem Partial.Chosen.ofDocument_eq {p : Partial} (h : p.Chosen entries)
    (hcontrol : IsSection "control" entries) (hdebug : IsSection "debug" entries) :
    ofDocument (.table entries) = some (p.laidOver default) := by
  unfold ofDocument
  refine Option.bind_eq_some_iff.2 ⟨_, rfl, ?_⟩
  refine Option.bind_eq_some_iff.2 ⟨(p.laidOver default).control, ?_, ?_⟩
  · rw [valueOr_section hcontrol readControl_empty]
    exact h.readControl_eq hcontrol
  refine Option.bind_eq_some_iff.2 ⟨(p.laidOver default).debugLevel, ?_, rfl⟩
  rw [valueOr_section hdebug readDebug_empty]
  exact h.readDebug_eq hdebug

/-! ## Values of other types -/

theorem holds_of_boolean? {v : Value} {b : Bool} (h : boolean? v = some b) :
    KeyType.boolean.Holds v := by
  cases v with
  | boolean b => exact .boolean b
  | _ => cases h

theorem holds_of_string? {v : Value} {s : String} (h : string? v = some s) :
    KeyType.string.Holds v := by
  cases v with
  | string s => exact .string s
  | _ => cases h

theorem holds_below_iff {bound : Nat} {i : Int} :
    (KeyType.below bound).Holds (.integer i) ↔ 0 ≤ i ∧ i < bound := by
  constructor
  · rintro ⟨hn⟩
    omega
  · rintro ⟨hpositive, hbound⟩
    rw [← Int.toNat_of_nonneg hpositive]
    exact .below (by omega)

theorem holds_of_natBelow? {bound n : Nat} {v : Value} (h : natBelow? bound v = some n) :
    (KeyType.below bound).Holds v := by
  cases v with
  | integer i =>
      simp only [natBelow?, Option.ite_none_right_eq_some] at h
      exact holds_below_iff.2 h.1
  | _ => cases h

theorem holds_of_map {α : Type} {bound : Nat} {v : Value} {f : Nat → α} {a : α}
    (h : (natBelow? bound v).map f = some a) : (KeyType.below bound).Holds v := by
  rcases Option.map_eq_some_iff.1 h with ⟨n, hn, _⟩
  exact holds_of_natBelow? hn

/-- A value under a key that was read has the type of what reads it. -/
theorem holds_of_valueOr {α : Type} {type : KeyType} {key : String} {read : Value → Option α}
    {default a : α} (h : valueOr entries key read default = some a)
    (hread : ∀ v a, read v = some a → type.Holds v) :
    ∀ v, Entries.find? key entries = some v → type.Holds v := by
  intro v hv
  rw [valueOr, hv] at h
  exact hread v a h

theorem types_of_readControl {c : Control} (h : readControl (.table entries) = some c) :
    ∀ e ∈ controlTypes, ∀ v, Entries.find? e.1 entries = some v → e.2.Holds v := by
  rcases Option.bind_eq_some_iff.1 h with ⟨_, henabled, h⟩
  rcases Option.bind_eq_some_iff.1 h with ⟨_, haddress, h⟩
  rcases Option.bind_eq_some_iff.1 h with ⟨_, hport, h⟩
  rcases Option.bind_eq_some_iff.1 h with ⟨_, hworkers, h⟩
  rcases Option.bind_eq_some_iff.1 h with ⟨_, hcors, h⟩
  rcases Option.bind_eq_some_iff.1 h with ⟨_, htimeout, h⟩
  rcases Option.bind_eq_some_iff.1 h with ⟨_, hbody, _⟩
  simp only [controlTypes, List.forall_mem_cons]
  refine ⟨holds_of_valueOr henabled fun _ _ => holds_of_boolean?,
    holds_of_valueOr haddress fun _ _ => holds_of_string?,
    holds_of_valueOr hport fun _ _ => holds_of_map,
    holds_of_valueOr hworkers fun _ _ => holds_of_map,
    holds_of_valueOr hcors fun _ _ => holds_of_boolean?,
    holds_of_valueOr htimeout fun _ _ => holds_of_map,
    holds_of_valueOr hbody fun _ _ => holds_of_map, by simp⟩

theorem types_of_readDebug {level : UInt8} (h : readDebug (.table entries) = some level) :
    ∀ e ∈ debugTypes, ∀ v, Entries.find? e.1 entries = some v → e.2.Holds v := by
  simp only [debugTypes, List.forall_mem_cons]
  exact ⟨holds_of_valueOr h fun _ _ => holds_of_map, by simp⟩

theorem ofDocument_of_type {e : Toml.Path × KeyType} {v : Value} (he : e ∈ keyTypes)
    (hat : (Value.table entries).at? e.1 = some v) (hv : ¬ e.2.Holds v)
    (hcontrol : IsSection "control" entries) (hdebug : IsSection "debug" entries) :
    ofDocument (.table entries) = none := by
  refine Option.eq_none_iff_forall_ne_some.2 fun c h => hv ?_
  rcases Option.bind_eq_some_iff.1 h with ⟨control, hreadControl, h⟩
  rcases Option.bind_eq_some_iff.1 h with ⟨level, hreadDebug, _⟩
  rw [valueOr_section hcontrol readControl_empty] at hreadControl
  rw [valueOr_section hdebug readDebug_empty] at hreadDebug
  rcases List.mem_append.1 he with he | he
  · rcases List.mem_map.1 he with ⟨key, hkey, rfl⟩
    exact types_of_readControl hreadControl key hkey v (at?_key hcontrol key.1 ▸ hat)
  · rcases List.mem_map.1 he with ⟨key, hkey, rfl⟩
    exact types_of_readDebug hreadDebug key hkey v (at?_key hdebug key.1 ▸ hat)

/-! ## Files -/

/-- Every path of a known key is a name in one of the sections. -/
theorem section_of_key {path : Toml.Path} (h : path ∈ keyTypes.map (·.1)) :
    ∃ name ∈ ["control", "debug"], ∃ key, path = [name, key] := by
  rcases List.mem_map.1 h with ⟨e, he, rfl⟩
  rcases List.mem_append.1 he with he | he
  · rcases List.mem_map.1 he with ⟨key, _, rfl⟩
    exact ⟨"control", by simp, key.1, rfl⟩
  · rcases List.mem_map.1 he with ⟨key, _, rfl⟩
    exact ⟨"debug", by simp, key.1, rfl⟩

theorem keys_of_values (p : Partial) : p.values.map (·.1) = keyTypes.map (·.1) := rfl

theorem not_holds_table (type : KeyType) (found : List (String × Value)) :
    ¬ type.Holds (.table found) := by
  rintro ⟨⟩

theorem not_holds_array (type : KeyType) (items : List Value) : ¬ type.Holds (.array items) := by
  rintro ⟨⟩

/-- Where both sections are tables, the statements say what stands under every known key. -/
theorem sections_of_document {text : String} (hdoc : IsDocument text stmts)
    (hsections : Sectioned stmts) :
    ∃ entries, Toml.read text = some (.table entries)
      ∧ (∀ name ∈ ["control", "debug"], IsSection name entries)
      ∧ ∀ path ∈ keyTypes.map (·.1), Holds (.table entries) stmts path := by
  rcases hdoc.exists_holds with ⟨entries, hread, hholds⟩
  refine ⟨entries, hread, fun name hname => ?_, fun path hpath => ?_⟩
  · have helements : NoElements stmts [name] := hsections.elements name hname
    have hroot : NoElements stmts ([name] : Toml.Path).dropLast := fun place hplace hle =>
      helements place hplace (hle.trans List.nil_prefix)
    exact isSection_of_holds (hholds [name] (List.cons_ne_nil _ _) hroot)
      (fun helement => helements [name] helement List.prefix_rfl) (hsections.tables name hname)
  · rcases section_of_key hpath with ⟨name, hname, key, rfl⟩
    exact hholds [name, key] (List.cons_ne_nil _ _) (hsections.elements name hname)

theorem parse_of_writtenBy {text : String} (hdoc : IsDocument text stmts)
    (hsections : Sectioned stmts) {given : Partial} (hgiven : given.WrittenBy stmts) :
    parse text = ((given.laidOver default).validate.mapError ParseError.rejected).map
      fun _ => given.laidOver default := by
  rcases sections_of_document hdoc hsections with ⟨entries, hread, hsection, hkeys⟩
  have hchosen : given.Chosen entries := by
    rintro ⟨path, value⟩ he
    have hpath : path ∈ keyTypes.map (·.1) := keys_of_values given ▸ List.mem_map_of_mem he
    cases value with
    | some v => exact (hkeys path hpath).written v (hgiven.chosen path v he)
    | none => exact (hkeys path hpath).absent (hgiven.others path he)
  refine parse_of_read? (Option.bind_eq_some_iff.2 ⟨_, hread, ?_⟩)
  exact hchosen.ofDocument_eq (hsection "control" (by simp)) (hsection "debug" (by simp))

/-- A value of another type is refused wherever the document has it from. -/
theorem parse_of_type {text : String} (hread : Toml.read text = some (.table entries))
    (hsection : ∀ name ∈ ["control", "debug"], IsSection name entries) {e : Toml.Path × KeyType}
    (he : e ∈ keyTypes) {v : Value} (hv : (Value.table entries).at? e.1 = some v)
    (htype : ¬ e.2.Holds v) : parse text = .error .malformed := by
  have hnone : read? text = none := by
    rw [read?, hread]
    exact ofDocument_of_type he hv htype (hsection "control" (by simp)) (hsection "debug" (by simp))
  rw [parse, hnone]

/-- A document is read as the defaults with the values over them that it writes under known keys. A
value of another type under a known key, or a table in its place, makes reading fail. -/
theorem partial_file_goes_over_defaults {text : String} (hdoc : IsDocument text stmts)
    (hsections : Sectioned stmts) :
    (∀ given : Partial, given.WrittenBy stmts →
      parse text = ((given.laidOver default).validate.mapError ParseError.rejected).map
        fun _ => given.laidOver default)
    ∧ (∀ e ∈ keyTypes, ∀ v, Writes stmts e.1 v → ¬ e.2.Holds v → parse text = .error .malformed)
    ∧ ∀ e ∈ keyTypes, Reaches stmts e.1 → (∀ v, ¬ Writes stmts e.1 v) →
        parse text = .error .malformed := by
  rcases sections_of_document hdoc hsections with ⟨entries, hread, hsection, hkeys⟩
  refine ⟨fun given => parse_of_writtenBy hdoc hsections, fun e he v hv htype => ?_,
    fun e he hreach hnowhere => ?_⟩
  · have hat := (hkeys e.1 (List.mem_map_of_mem he)).written v hv
    exact parse_of_type hread hsection he hat htype
  · -- A header or a longer key makes a table of the key, or an array of tables.
    rcases (hkeys e.1 (List.mem_map_of_mem he)).reached hreach with ⟨v, hv, hkind⟩
    refine parse_of_type hread hsection he hv ?_
    rcases hkind with hwrites | ⟨found, rfl⟩ | ⟨_, items, rfl⟩
    · exact absurd hwrites (hnowhere v)
    · exact not_holds_table e.2 found
    · exact not_holds_array e.2 items

/-! ## Sections in any order -/

theorem sectioned_sections (sections : List (String × List (String × Value))) :
    Sectioned (sectionStatements sections) := by
  refine ⟨fun name _ place h => absurd h (element_notMem_sections _ place), fun name _ v hv => ?_⟩
  refine absurd hv (not_writes_of_places (fun p hp hassigns hle => ?_) v)
  rw [placed_sections, List.mem_flatMap] at hp
  rcases hp with ⟨s, _, hp⟩
  rcases List.mem_cons.1 hp with rfl | hp
  · cases hassigns
  · rcases List.mem_map.1 hp with ⟨e, _, rfl⟩
    exact absurd hle.length_le (by simp)

/-- The sections as the table that they make. -/
def tables (sections : List (String × List (String × Value))) : List (String × Value) :=
  sections.map fun s => (s.1, .table s.2)

theorem at?_tables (sections : List (String × List (String × Value))) (name key : String) :
    (Value.table (tables sections)).at? [name, key] =
      (Entries.find? name sections).bind (Entries.find? key) := by
  rw [tables, Value.at?, Entries.find?_map]
  cases Entries.find? name sections with
  | none => rfl
  | some keys => simp [Value.at?]

/-- Sections in any order write what stands in them, and touch nothing else. -/
theorem writtenBy_sections {sections : List (String × List (String × Value))} {given : Partial}
    (hnames : (Entries.keys sections).Nodup) (h : given.Chosen (tables sections)) :
    given.WrittenBy (sectionStatements sections) := by
  refine ⟨fun path v he => ?_, fun path he => ?_⟩
  all_goals
    have hpath : path ∈ keyTypes.map (·.1) := keys_of_values given ▸ List.mem_map_of_mem he
    rcases section_of_key hpath with ⟨name, _, key, rfl⟩
    have hat := (at?_tables sections name key).symm.trans (h _ he)
  · rcases Option.bind_eq_some_iff.1 hat with ⟨keys, hkeys, hv⟩
    exact writes_of_mem_sections (Entries.mem_of_find? hkeys) (Entries.mem_of_find? hv)
  · have hother : ∀ s ∈ sections, ∀ e ∈ s.2, [s.1, e.1] ≠ [name, key] := by
      rintro s hs e hmem heq
      cases heq
      rw [(Entries.find?_eq_some_iff hnames).2 hs] at hat
      exact Entries.find?_eq_none_iff.1 hat (List.mem_map_of_mem hmem)
    refine not_reaches_of_places fun p hp => ?_
    rw [placed_sections, List.mem_flatMap] at hp
    rcases hp with ⟨s, hs, hp⟩
    rcases List.mem_cons.1 hp with rfl | hp
    · exact ⟨fun hle => absurd hle.length_le (by simp), fun hassigns => by cases hassigns⟩
    · rcases List.mem_map.1 hp with ⟨e, he, rfl⟩
      have hne := hother s hs e he
      exact ⟨fun hle => hne (hle.eq_of_length rfl).symm, fun _ hle => hne (hle.eq_of_length rfl)⟩

/-- Every choice of keys is accepted when it is written in sections, whatever their order, that of
the keys, and what else they hold. -/
theorem parse_write {sections : List Section} (hplain : ∀ s ∈ sections, s.Plain)
    (hnodup : (sections.map (·.name)).Nodup) {text : String} (htext : write? sections = some text)
    {given : Partial} (h : given.Chosen (tables (sections.map Section.entry))) :
    parse text = ((given.laidOver default).validate.mapError ParseError.rejected).map
      fun _ => given.laidOver default := by
  have hnames : (Entries.keys (sections.map Section.entry)).Nodup := by
    simpa [Entries.keys, Section.entry, Function.comp_def] using hnodup
  exact parse_of_writtenBy (isDocument_write hplain hnodup htext) (sectioned_sections _)
    (writtenBy_sections hnames h)

/-! ## Sections and keys in another order, among others -/

def mixedControl : List (String × Value) :=
  [("spare", .array [.integer 1]), ("workers", .integer 4), ("listen-address", .string "::1")]

def mixedSections : List (String × List (String × Value)) :=
  [("debug", [("level", .integer 2)]), ("extra", [("workers", .string "none")]),
    ("control", mixedControl)]

def mixedText : String :=
  "# limits\n[debug]\nlevel = 0x2\n\n[extra]\nworkers = 'none'\n[control]\nspare = [1]\n"
    ++ "'workers' = 4 # four\nlisten-address = \"::1\"\n"

def mixedChoice : Partial where
  listenAddress := some "::1"
  workers := some 4
  level := some 2

theorem mixedChoice_writtenBy : mixedChoice.WrittenBy (sectionStatements mixedSections) := by
  refine writtenBy_sections (by decide) ?_
  simp only [Partial.Chosen, Partial.values, List.forall_mem_cons]
  simp [at?_tables, mixedSections, mixedControl, mixedChoice]

def highSections : List Section :=
  [⟨"debug", [("level", .integer 256)]⟩]

theorem partial_file_goes_over_defaults_among_others :
    parse mixedText = .ok { control := { listenAddress := "::1", workers := 4 }, debugLevel := 2 }
    ∧ parse "[debug]\nlevel = 256\n" = .error .malformed := by
  have hhigh : IsDocument "[debug]\nlevel = 256\n"
      (sectionStatements (highSections.map Section.entry)) :=
    isDocument_write (List.forall_mem_singleton.2 ⟨by decide, by decide, by decide⟩) (by decide)
      (by cbv)
  have hmixed : IsDocument mixedText (sectionStatements mixedSections) :=
    ⟨by cbv, readable_sections (by decide) (by decide)⟩
  refine ⟨?_, ?_⟩
  · rw [(partial_file_goes_over_defaults hmixed (sectioned_sections _)).1 _ mixedChoice_writtenBy,
      validate_of_valid (by decide)]
    rfl
  · refine (partial_file_goes_over_defaults hhigh (sectioned_sections _)).2.1
      (["debug", "level"], .below 0x100) (by decide) (.integer 256) ?_ ?_
    · exact writes_of_mem_sections List.mem_cons_self List.mem_cons_self
    · exact fun h => absurd (holds_below_iff.1 h).2 (by decide)

end Config
end RpcHost
