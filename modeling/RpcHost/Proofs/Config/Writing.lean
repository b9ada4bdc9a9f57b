import RpcHost.Proofs.Config.Loading
import RpcHost.Proofs.Toml.Words

/-!
# Configurations that are written and read back

Every configuration that TOML can hold is read back from what is written of it, whatever its address
is, so that the only thing left to fail is the check. The main statement is
`written_config_parses_as_validated`.
-/

namespace RpcHost
namespace Config

open Toml Files

/-! ## What can be written -/

/-- The greatest integer that TOML can hold. -/
def greatestInteger : Nat := 2 ^ 63 - 1

/-- The numbers that may be too great for TOML are not. -/
structure Storable (c : Control) : Prop where
  workers : c.workers.toNat ≤ greatestInteger
  readTimeoutSecs : c.readTimeoutSecs.toNat ≤ greatestInteger
  maxBodyBytes : c.maxBodyBytes.toNat ≤ greatestInteger

theorem isSome_text_natural_iff {n : Nat} :
    (Scalar.integer n).text?.isSome ↔ n ≤ greatestInteger := by
  have hrange : (-0x8000000000000000 ≤ (n : Int) ∧ (n : Int) < 0x8000000000000000) ↔
      n ≤ greatestInteger := by
    unfold greatestInteger
    omega
  simp only [Scalar.text?, hrange]
  split
  · rename_i hle
    simp [hle]
  · rename_i hgreater
    simp [hgreater]

/-- Ports and levels are always small enough. -/
theorem isSome_text?_iff (c : Config) : c.text?.isSome ↔ Storable c.control := by
  have hport : c.control.listenPort.toNat ≤ greatestInteger := by
    have := c.control.listenPort.toNat_lt
    unfold greatestInteger
    omega
  have hlevel : c.debugLevel.toNat ≤ greatestInteger := by
    have := c.debugLevel.toNat_lt
    unfold greatestInteger
    omega
  have hboolean : ∀ b, (Scalar.boolean b).text?.isSome := fun _ => rfl
  have hstring : ∀ s, (Scalar.string s).text?.isSome := fun _ => rfl
  rw [text?, isSome_write?_iff]
  simp only [controlSection, debugSection, List.forall_mem_cons, isSome_text_natural_iff, hport,
    hlevel, hboolean, hstring, List.not_mem_nil, false_imp_iff, implies_true, true_and, and_true]
  constructor
  · rintro ⟨hworkers, htimeout, hbody⟩
    exact ⟨hworkers, htimeout, hbody⟩
  · rintro ⟨hworkers, htimeout, hbody⟩
    exact ⟨hworkers, htimeout, hbody⟩

/-! ## Reading what was written -/

theorem plain_controlSection (c : Control) : (controlSection c).Plain where
  name := show IsBare "control" by decide
  keys := by
    simp only [controlSection, List.forall_mem_cons]
    decide
  nodup := by
    simp only [controlSection, List.map_cons, List.map_nil]
    decide

theorem plain_debugSection (level : UInt8) : (debugSection level).Plain where
  name := show IsBare "debug" by decide
  keys := by
    simp only [debugSection, List.forall_mem_cons]
    decide
  nodup := by
    simp only [debugSection, List.map_cons, List.map_nil]
    decide

theorem natBelow?_natural {n bound : Nat} (h : n < bound) :
    natBelow? bound (.integer n) = some n := by
  simp [natBelow?, h]

@[simp] theorem uint8?_natural (n : UInt8) : uint8? (.integer n.toNat) = some n := by
  simp [uint8?, natBelow?_natural n.toNat_lt]

@[simp] theorem uint16?_natural (n : UInt16) : uint16? (.integer n.toNat) = some n := by
  simp [uint16?, natBelow?_natural n.toNat_lt]

@[simp] theorem uint64?_natural (n : UInt64) : uint64? (.integer n.toNat) = some n := by
  simp [uint64?, natBelow?_natural n.toNat_lt]

/-- In the table of a plain section the values are found that its statements name. -/
theorem valueOr_toValue {α : Type} {s : Section} (hplain : s.Plain) (key : String)
    (read : Value → Option α) (default : α) :
    valueOr (Entries.ofList (s.statements.map fun st => (st.1, st.2.toValue))) key read default =
      valueOr (s.statements.map fun st => (st.1, st.2.toValue)) key read default := by
  have hnodup : (Entries.keys (s.statements.map fun st => (st.1, st.2.toValue))).Nodup := by
    simpa [Entries.keys, Function.comp_def] using hplain.nodup
  rw [valueOr, valueOr, Entries.find?_ofList hnodup]

theorem readControl_toValue (c : Control) :
    readControl (controlSection c).toValue = some c := by
  have hvalue : ∀ {α : Type} (key : String) (read : Value → Option α) (default a : α),
      valueOr ((controlSection c).statements.map fun st => (st.1, st.2.toValue)) key read default =
        some a →
      valueOr (Entries.ofList ((controlSection c).statements.map fun st => (st.1, st.2.toValue)))
        key read default = some a := by
    intro α key read default a h
    exact (valueOr_toValue (plain_controlSection c) key read default).trans h
  unfold readControl
  refine Option.bind_eq_some_iff.2 ⟨_, rfl, ?_⟩
  refine Option.bind_eq_some_iff.2 ⟨c.enabled, hvalue _ _ _ _ rfl, ?_⟩
  refine Option.bind_eq_some_iff.2 ⟨c.listenAddress, hvalue _ _ _ _ rfl, ?_⟩
  refine Option.bind_eq_some_iff.2 ⟨c.listenPort, hvalue _ _ _ _ (uint16?_natural _), ?_⟩
  refine Option.bind_eq_some_iff.2 ⟨c.workers, hvalue _ _ _ _ (uint64?_natural _), ?_⟩
  refine Option.bind_eq_some_iff.2 ⟨c.allowCors, hvalue _ _ _ _ rfl, ?_⟩
  refine Option.bind_eq_some_iff.2 ⟨c.readTimeoutSecs, hvalue _ _ _ _ (uint64?_natural _), ?_⟩
  refine Option.bind_eq_some_iff.2 ⟨c.maxBodyBytes, hvalue _ _ _ _ (uint64?_natural _), ?_⟩
  rfl

theorem readDebug_toValue (level : UInt8) :
    readDebug (debugSection level).toValue = some level := by
  unfold readDebug
  refine Option.bind_eq_some_iff.2 ⟨_, rfl, ?_⟩
  rw [valueOr_toValue (plain_debugSection level)]
  exact uint8?_natural level

/-- The document with both sections of a configuration. -/
theorem ofDocument_sections (c : Config) :
    ofDocument (.table (Entries.ofList ([controlSection c.control, debugSection c.debugLevel].map
      fun s => (s.name, s.toValue)))) = some c := by
  have hfind : ∀ key, Entries.find? key (Entries.ofList
        ([controlSection c.control, debugSection c.debugLevel].map fun s => (s.name, s.toValue))) =
      Entries.find? key [("control", (controlSection c.control).toValue),
        ("debug", (debugSection c.debugLevel).toValue)] := by
    intro key
    exact Entries.find?_ofList (show ["control", "debug"].Nodup by decide)
  unfold ofDocument
  refine Option.bind_eq_some_iff.2 ⟨_, rfl, ?_⟩
  refine Option.bind_eq_some_iff.2 ⟨c.control, ?_, ?_⟩
  · rw [valueOr, hfind]
    exact readControl_toValue c.control
  refine Option.bind_eq_some_iff.2 ⟨c.debugLevel, ?_, rfl⟩
  rw [valueOr, hfind]
  exact readDebug_toValue c.debugLevel

/-- What is written of a configuration is read as that configuration. -/
theorem read?_of_text? {c : Config} {text : String} (h : c.text? = some text) :
    read? text = some c := by
  have hplain : ∀ s ∈ [controlSection c.control, debugSection c.debugLevel], s.Plain := by
    simp [plain_controlSection, plain_debugSection]
  have hread := read_write hplain (show ["control", "debug"].Nodup by decide) h
  exact Option.bind_eq_some_iff.2 ⟨_, hread, ofDocument_sections c⟩

/-- What is read is checked, and the check decides. -/
theorem parse_of_read? {c : Config} {text : String} (h : read? text = some c) :
    parse text = (c.validate.mapError ParseError.rejected).map fun _ => c := by
  cases hrejection : c.rejection? with
  | none =>
      rw [validate_of_valid hrejection]
      simp [parse, h, hrejection, Except.mapError, Except.map]
  | some reason =>
      rw [validate_of_rejection? hrejection]
      simp [parse, h, hrejection, Except.mapError, Except.map]

/-- Of what is written only the check is left, and it finds what it would have found before. -/
theorem parse_of_text? {c : Config} {text : String} (h : c.text? = some text) :
    parse text = (c.validate.mapError ParseError.rejected).map fun _ => c :=
  parse_of_read? (read?_of_text? h)

/-! ## Configurations that were read -/

theorem words_of_sectionValues {keys : List String} {v : Value} {values : List (String × Value)}
    (hv : v.Words) (h : sectionValues keys v = some values) : ∀ e ∈ values, e.2.Words := by
  unfold sectionValues at h
  split at h
  · cases h
    exact Value.words_table_iff.1 hv
  · cases h
    intro e he
    exact Value.words_array_iff.1 hv e.2 (List.of_mem_zip he).2
  · cases h
    simp
  · cases h

/-- What holds of the default, and of all that is read from words, holds of the value of a key. -/
theorem valueOr_cases {α : Type} {P : α → Prop} {values : List (String × Value)} {key : String}
    {read : Value → Option α} {default a : α} (h : valueOr values key read default = some a)
    (hvalues : ∀ e ∈ values, e.2.Words) (hdefault : P default)
    (hread : ∀ v, v.Words → ∀ b, read v = some b → P b) : P a := by
  unfold valueOr at h
  split at h
  · cases h
    exact hdefault
  · rename_i v hfind
    exact hread v (hvalues _ (Entries.mem_of_find? hfind)) a h

theorem uint64?_le {v : Value} (hv : v.Words) {n : UInt64} (h : uint64? v = some n) :
    n.toNat ≤ greatestInteger := by
  rcases Option.map_eq_some_iff.1 h with ⟨k, hk, rfl⟩
  cases v with
  | integer i =>
      simp only [natBelow?, Option.ite_none_right_eq_some, Option.some.injEq] at hk
      rcases hk with ⟨_, rfl⟩
      have hword : -0x8000000000000000 ≤ i ∧ i < 0x8000000000000000 := hv
      have hle := Nat.mod_le i.toNat (2 ^ 64)
      rw [UInt64.toNat_ofNat']
      unfold greatestInteger
      omega
  | _ => cases hk

theorem storable_default : Storable {} :=
  ⟨by decide, by decide, by decide⟩

theorem storable_of_readControl {v : Value} (hv : v.Words) {c : Control}
    (h : readControl v = some c) : Storable c := by
  rcases Option.bind_eq_some_iff.1 h with ⟨values, hvalues, h⟩
  have hwords := words_of_sectionValues hv hvalues
  rcases Option.bind_eq_some_iff.1 h with ⟨enabled, _, h⟩
  rcases Option.bind_eq_some_iff.1 h with ⟨address, _, h⟩
  rcases Option.bind_eq_some_iff.1 h with ⟨port, _, h⟩
  rcases Option.bind_eq_some_iff.1 h with ⟨workers, hworkers, h⟩
  rcases Option.bind_eq_some_iff.1 h with ⟨cors, _, h⟩
  rcases Option.bind_eq_some_iff.1 h with ⟨timeout, htimeout, h⟩
  rcases Option.bind_eq_some_iff.1 h with ⟨body, hbody, heq⟩
  cases heq
  have hle : ∀ {key : String} {default n : UInt64}, default.toNat ≤ greatestInteger →
      valueOr values key uint64? default = some n → n.toNat ≤ greatestInteger := by
    intro key default n hdefault hn
    exact valueOr_cases (P := fun n => n.toNat ≤ greatestInteger) hn hwords hdefault
      fun _ hv _ => uint64?_le hv
  exact ⟨hle (by decide) hworkers, hle (by decide) htimeout, hle (by decide) hbody⟩

theorem storable_of_read? {text : String} {c : Config} (h : read? text = some c) :
    Storable c.control := by
  rcases Option.bind_eq_some_iff.1 h with ⟨v, hv, h⟩
  have hwords := words_of_read hv
  rcases Option.bind_eq_some_iff.1 h with ⟨values, hvalues, h⟩
  rcases Option.bind_eq_some_iff.1 h with ⟨control, hcontrol, h⟩
  rcases Option.bind_eq_some_iff.1 h with ⟨level, _, heq⟩
  cases heq
  exact valueOr_cases hcontrol (words_of_sectionValues hwords hvalues)
    storable_default fun _ hv _ => storable_of_readControl hv

theorem parse_eq_ok_iff {text : String} {c : Config} :
    parse text = .ok c ↔ read? text = some c ∧ c.rejection? = none := by
  cases hread : read? text with
  | none => simp [parse, hread]
  | some found =>
      rw [parse_of_read? hread, Option.some.injEq]
      cases hrejection : found.rejection? with
      | none =>
          rw [validate_of_valid hrejection]
          constructor
          · intro h
            cases h
            exact ⟨rfl, hrejection⟩
          · rintro ⟨rfl, _⟩
            rfl
      | some reason =>
          rw [validate_of_rejection? hrejection]
          constructor
          · intro h
            cases h
          · rintro ⟨rfl, hvalid⟩
            rw [hrejection] at hvalid
            cases hvalid

theorem loadFrom_eq_ok_iff {fs : FileSystem} {cwd : Location} {path : Files.Path} {c : Config} :
    loadFrom fs cwd path = .ok c ↔
      ∃ text, fs.readText cwd path = .ok text ∧ parse text = .ok c := by
  unfold loadFrom
  cases htext : fs.readText cwd path with
  | error fault => simp
  | ok text =>
      cases hparse : parse text with
      | error error => simp [hparse]
      | ok found => simp [hparse]

/-- A configuration that was loaded can be written and used, wherever it comes from. -/
theorem storable_of_loadWith {fs : FileSystem} {site : Site} {given : Option Files.Path}
    {c : Config} (h : loadWith fs site given = .ok c) :
    Storable c.control ∧ c.rejection? = none := by
  rw [loadWith_eq] at h
  cases hpath : source? fs site given with
  | none =>
      rw [hpath] at h
      cases h
      exact ⟨storable_default, rejection?_default⟩
  | some path =>
      rw [hpath] at h
      rcases loadFrom_eq_ok_iff.1 h with ⟨text, _, hparse⟩
      rcases parse_eq_ok_iff.1 hparse with ⟨hread, hvalid⟩
      exact ⟨storable_of_read? hread, hvalid⟩

end Config
end RpcHost
