import RpcHost.Proofs.Json.SpelledParts
import RpcHost.Proofs.Rpc.Reading

/-!
# What comes back from an encoded envelope

An optional field that is `null` is written, but it is read as if it was not there. Nothing else is
lost: decoding an encoded envelope gives the envelope without its optional `null`s, and so does
reading it from its text. The main statement is `encoded_comes_back_without_null`.
-/

namespace RpcHost
namespace Rpc

open Json

/-! ## Optional fields -/

/-- An optional field as it comes back. -/
def unlessNull (o : Option Value) : Option Value :=
  o.filter (· ≠ .null)

@[simp] theorem present_eq_unlessNull (o : Option Value) : present o = unlessNull o := by
  cases o with
  | none => rfl
  | some v =>
      by_cases hnull : v = .null
      · rw [hnull]
        rfl
      · rw [present_of_ne_null hnull, unlessNull, Option.filter_some]
        simp [hnull]

@[simp] theorem unlessNull_eq_self_iff {o : Option Value} : unlessNull o = o ↔ o ≠ some .null := by
  cases o <;> simp [unlessNull]

def Request.dropNull (r : Request) : Request := { r with params := unlessNull r.params }

def Fault.dropNull (f : Fault) : Fault := { f with data := unlessNull f.data }

def Response.dropNull (r : Response) : Response :=
  { r with result := unlessNull r.result, fault := r.fault.map Fault.dropNull }

@[simp] theorem Request.dropNull_eq_self_iff {r : Request} :
    r.dropNull = r ↔ r.params ≠ some .null := by
  rcases r with ⟨jsonrpc, method, params, id⟩
  simp [Request.dropNull]

@[simp] theorem Fault.dropNull_eq_self_iff {f : Fault} : f.dropNull = f ↔ f.data ≠ some .null := by
  rcases f with ⟨code, message, data⟩
  simp [Fault.dropNull]

@[simp] theorem Response.dropNull_eq_self_iff {r : Response} :
    r.dropNull = r ↔ r.result ≠ some .null ∧ ∀ f, r.fault = some f → f.data ≠ some .null := by
  rcases r with ⟨jsonrpc, id, result, fault⟩
  cases fault <;>
    simp [Response.dropNull]

/-! ## Through a value -/

theorem Request.ofValue?_toValue (r : Request) : Request.ofValue? r.toValue = some r.dropNull := by
  have hslots : slots Request.layout r.toValue = some r.fields := by
    rw [r.toValue_eq]
    exact slots_recordOf (by decide) rfl (by simp [layout, fields])
  rw [Request.ofValue?, hslots]
  simp [fields, ofSlots, dropNull]

/-- Every code is in the range that is read. -/
@[simp] theorem accepts_code (code : Int64) :
    FieldKind.word.accepts (.number (.integer code.toInt)) = true := by
  have hlow := code.le_toInt
  have hhigh := code.toInt_lt
  simp only [FieldKind.accepts, Bool.and_eq_true, decide_eq_true_eq]
  omega

theorem Fault.ofValue?_toValue (f : Fault) : Fault.ofValue? f.toValue = some f.dropNull := by
  have hslots : slots Fault.layout f.toValue = some f.fields := by
    rw [f.toValue_eq]
    exact slots_recordOf (by decide) rfl (by simp [layout, fields])
  rw [Fault.ofValue?, hslots]
  simp [fields, ofSlots, dropNull]

theorem Response.ofValue?_toValue (r : Response) :
    Response.ofValue? r.toValue = some r.dropNull := by
  have hslots : slots Response.layout r.toValue = some (r.fieldsBy Fault.toValue) := by
    rw [r.toValue_eq]
    exact slots_recordOf (by decide) rfl (by simp [layout, fieldsBy])
  rw [Response.ofValue?, hslots, fieldsBy, Option.bind_some]
  cases hfault : r.fault with
  | none => simp [ofSlots, dropNull, unlessNull, hfault]
  | some f =>
      -- A written fault is an object, so it is read as a fault, whatever it holds.
      have hpresent : unlessNull (some f.toValue) = some f.toValue := rfl
      simp [ofSlots, dropNull, hpresent, hfault, f.ofValue?_toValue]

/-! ## Through text -/

theorem writtenAs_members {members : List (String × Value)}
    (hnodup : (Entries.keys members).Nodup) (h : (Value.ofMembers members).WordNumbers) :
    WrittenAs members members :=
  writtenAs_self _ ((wordNumbers_ofMembers hnodup).1 h)

theorem Request.spelledBy_text {r : Request} (h : r.toValue.WordNumbers) :
    SpelledBy r.toValue r.text :=
  spelledBy_ofMembers r.nodup_keys (writtenAs_members r.nodup_keys h)

theorem Fault.spelledBy_text {f : Fault} (h : f.toValue.WordNumbers) : SpelledBy f.toValue f.text :=
  spelledBy_ofMembers f.nodup_keys (writtenAs_members f.nodup_keys h)

/-- The fault has its members in their own order too. -/
theorem Response.writtenAs {r : Response} (h : r.toValue.WordNumbers) :
    WrittenAs (r.membersBy Fault.toValue) (r.membersBy fun f => .object f.members) := by
  have hall := Value.wordNumbersMembers_iff.1
    ((wordNumbers_ofMembers (r.nodup_keys Fault.toValue)).1 h)
  -- All members but the fault are written as the value has them.
  refine List.rel_append ?_ ?_
  · refine writtenAs_self _ (Value.wordNumbersMembers_iff.2 ?_)
    intro m hm
    exact hall m (List.mem_append_left _ hm)
  · cases hfault : r.fault with
    | none => exact .nil
    | some f =>
        have hwords : f.toValue.WordNumbers :=
          hall ("error", f.toValue) (List.mem_append_right _ (by simp [hfault, optionalMember]))
        have hwritten := writtenAs_members f.nodup_keys hwords
        exact .cons ⟨rfl, spells_ofMembers f.nodup_keys hwritten⟩ .nil

theorem Response.spelledBy_text {r : Response} (h : r.toValue.WordNumbers) :
    SpelledBy r.toValue r.text :=
  spelledBy_ofMembers (r.nodup_keys Fault.toValue) (Response.writtenAs h)

/-- A text that spells a record without records inside is read as the record is decoded. -/
theorem assemble_of_spelledBy {α : Type} {ofSlots : Slots → Option α} {layout : Layout}
    {members : Members} {text : String} {a : α} (hnodup : (layout.map (·.name)).Nodup)
    (h : (Value.object members).Fits greatestDepth) (hspelled : SpelledBy (.object members) text)
    (hvalue : (slots layout (.object members)).bind ofSlots = some a) :
    assemble ofSlots (scanRecord (fun f => f.kind.scan) layout greatestDepth text.toList) =
      .ok a := by
  have hrepeats := (opensWith_of_spelledBy hspelled).noRepeats h layout
  have hread := toOption_assemble_kinds ofSlots hnodup (readString_of_spelledBy h hspelled) hrepeats
  exact toOption_eq_some_iff.1 (hread.trans hvalue)

theorem Request.read_text {r : Request} (h : r.toValue.Fits greatestDepth) :
    Request.read r.text.toList = .ok r.dropNull :=
  assemble_of_spelledBy (by decide) h (Request.spelledBy_text h.words) r.ofValue?_toValue

theorem Fault.read_text {f : Fault} (h : f.toValue.Fits greatestDepth) :
    Fault.read f.text.toList = .ok f.dropNull :=
  assemble_of_spelledBy (by decide) h (Fault.spelledBy_text h.words) f.ofValue?_toValue

/-- The only text under the key of the fault spells the fault, and so repeats no key. -/
theorem Response.noRepeats_of_mem_faultTexts {r : Response} (h : r.toValue.Fits greatestDepth)
    {cs t : List Char} (hopens : OpensWith r.toValue cs) (ht : t ∈ Response.faultTexts cs) :
    NoRepeats Fault.layout t := by
  obtain ⟨m, hm, hkey, rfl⟩ : ∃ m ∈ memberTexts cs, m.1 = "error" ∧ m.2 = t := by
    simpa [Response.faultTexts, hopens.itemTexts, and_assoc] using ht
  rcases hopens.of_mem_memberTexts h hm with ⟨v, hv, hopensFault⟩
  have hfound : r.toValue.member? "error" = some v := by
    refine (Entries.find?_eq_some_iff (Entries.ascending_ofList _).nodup_keys).2 ?_
    rwa [← hkey]
  have hfault : r.fault.map Fault.toValue = some v := (r.member?_toValue "error").symm.trans hfound
  rcases Option.map_eq_some_iff.1 hfault with ⟨f, _, rfl⟩
  exact hopensFault.noRepeats (h.members.2.2 _ hv) Fault.layout

theorem Response.read_text {r : Response} (h : r.toValue.Fits greatestDepth) :
    Response.read r.text.toList = .ok r.dropNull := by
  have hspelled := Response.spelledBy_text h.words
  have hopens := opensWith_of_spelledBy hspelled
  have hread := Response.toOption_read (readString_of_spelledBy h hspelled)
    (hopens.noRepeats h Response.layout) (fun t => Response.noRepeats_of_mem_faultTexts h hopens)
  exact toOption_eq_some_iff.1 (hread.trans r.ofValue?_toValue)

/-! ## Both ways -/

/-- An envelope that comes back as `b` comes back exactly where `b` is the same envelope. -/
theorem comesBack {α : Type} {ofValue? : Value → Option α} {read : List Char → Except ReadError α}
    {v : Value} {cs : List Char} {a b : α} {lossless : Prop} (hvalue : ofValue? v = some b)
    (htext : v.Fits greatestDepth → read cs = .ok b) (hexact : b = a ↔ lossless) :
    ofValue? v = some b
    ∧ (ofValue? v = some a ↔ lossless)
    ∧ (v.Ordered → v.WordNumbers → v.depth ≤ 127 →
        read cs = .ok b ∧ (read cs = .ok a ↔ lossless)) := by
  refine ⟨hvalue, by rw [hvalue, Option.some_inj, hexact], ?_⟩
  intro hordered hwords hdepth
  have hread := htext ⟨hordered, hwords, hdepth⟩
  exact ⟨hread, by rw [hread, Except.ok.injEq, hexact]⟩

/-- What comes back from an encoded envelope, as a value and as text. No optional field comes back
as `null`, and all else comes back as it was. For the text, numbers have to be 64-bit words and
nothing may nest deeper than the reader goes; the members of all objects inside are sorted. -/
theorem encoded_comes_back_without_null :
    (∀ r : Request,
      Request.ofValue? r.toValue = some r.dropNull
      ∧ (Request.ofValue? r.toValue = some r ↔ r.params ≠ some .null)
      ∧ (r.toValue.Ordered → r.toValue.WordNumbers → r.toValue.depth ≤ 127 →
          Request.read r.text.toList = .ok r.dropNull
          ∧ (Request.read r.text.toList = .ok r ↔ r.params ≠ some .null)))
    ∧ (∀ r : Response,
        Response.ofValue? r.toValue = some r.dropNull
        ∧ (Response.ofValue? r.toValue = some r ↔
            r.result ≠ some .null ∧ ∀ f, r.fault = some f → f.data ≠ some .null)
        ∧ (r.toValue.Ordered → r.toValue.WordNumbers → r.toValue.depth ≤ 127 →
            Response.read r.text.toList = .ok r.dropNull
            ∧ (Response.read r.text.toList = .ok r ↔
                r.result ≠ some .null ∧ ∀ f, r.fault = some f → f.data ≠ some .null)))
    ∧ (∀ f : Fault,
        Fault.ofValue? f.toValue = some f.dropNull
        ∧ (Fault.ofValue? f.toValue = some f ↔ f.data ≠ some .null)
        ∧ (f.toValue.Ordered → f.toValue.WordNumbers → f.toValue.depth ≤ 127 →
            Fault.read f.text.toList = .ok f.dropNull
            ∧ (Fault.read f.text.toList = .ok f ↔ f.data ≠ some .null)))
    ∧ ∀ id : Value,
        Response.ofValue? (Response.success id .null).toValue = some ⟨version, id, none, none⟩ := by
  refine ⟨?_, ?_, ?_, ?_⟩
  · intro r
    exact comesBack r.ofValue?_toValue Request.read_text Request.dropNull_eq_self_iff
  · intro r
    exact comesBack r.ofValue?_toValue Response.read_text Response.dropNull_eq_self_iff
  · intro f
    exact comesBack f.ofValue?_toValue Fault.read_text Fault.dropNull_eq_self_iff
  · intro id
    exact (Response.success id .null).ofValue?_toValue

/-- Failed and with a result, both `null` where they can be, under an id that nests. -/
def nullResponse : Response :=
  ⟨"2.0", .array [.number (.integer 18446744073709551615), .object [("a", .string "\"")]],
    some .null, some ⟨-32603, "", some .null⟩⟩

/-- Both fields are lost on both ways, and the id comes back. -/
theorem encoded_comes_back_without_null_from_failure :
    Response.ofValue? nullResponse.toValue =
        some ⟨"2.0", nullResponse.id, none, some ⟨-32603, "", none⟩⟩
    ∧ Response.ofValue? nullResponse.toValue ≠ some nullResponse
    ∧ Response.read nullResponse.text.toList =
        .ok ⟨"2.0", nullResponse.id, none, some ⟨-32603, "", none⟩⟩ := by
  have hvalue : nullResponse.toValue =
      .object [("error", .object [("code", .number (.integer (-32603))), ("data", .null),
        ("message", .string "")]), ("id", nullResponse.id), ("jsonrpc", .string "2.0"),
        ("result", .null)] := by
    decide
  have hordered : nullResponse.toValue.Ordered := by
    have hfault : Entries.Ascending [("code", Value.number (.integer (-32603))), ("data", .null),
        ("message", .string "")] := by
      decide
    have hid : Entries.Ascending [("a", Value.string "\"")] := by
      decide
    rw [hvalue]
    refine Value.ordered_object_iff.2 ⟨by decide, ?_⟩
    simp [Value.Ordered, Value.OrderedItems, Value.OrderedMembers, nullResponse, hfault, hid]
  have hwords : nullResponse.toValue.WordNumbers := by
    rw [hvalue]
    simp [Value.WordNumbers, Value.WordNumbersItems, Value.WordNumbersMembers, nullResponse,
      Number.IsWord]
  have hdropped : nullResponse.dropNull =
      ⟨"2.0", nullResponse.id, none, some ⟨-32603, "", none⟩⟩ := by
    decide
  rcases encoded_comes_back_without_null.2.1 nullResponse with ⟨hback, hexact, htext⟩
  rw [hdropped] at hback htext
  refine ⟨hback, ?_, (htext hordered hwords (by decide)).1⟩
  intro hsame
  exact (hexact.1 hsame).1 rfl

end Rpc
end RpcHost
