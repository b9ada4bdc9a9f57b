import Mathlib
import RpcHost.Proofs.Json.Further
import RpcHost.Proofs.Json.Record
import RpcHost.Proofs.Rpc.Decoding
import RpcHost.Rpc.Decode

/-!
# Envelopes straight from text

An envelope can be read straight from its text, or the text is read as a value first and the
envelope is taken from that. The two ways agree on every text that is a value, whatever its shape
is, as long as no key of the envelope stands twice in it: `direct_reading_agrees`.
-/

namespace RpcHost
namespace Rpc

open Json

variable {cs rest : List Char} {v : Value}

/-! ## Putting envelopes together -/

theorem toOption_assemble {α : Type} (ofSlots : Slots → Option α)
    {found : Except ReadError (Slots × List Char)} {slots : Option Slots}
    (hfound : found.toOption = slots.map fun s => (s, rest)) (hrest : skipBlanks rest = []) :
    (assemble ofSlots found).toOption = slots.bind ofSlots := by
  cases slots with
  | none =>
      rcases toOption_eq_none_iff.1 hfound with ⟨e, rfl⟩
      rfl
  | some s =>
      cases toOption_eq_some_iff.1 hfound
      cases hs : ofSlots s <;> simp [assemble, hs, finish, hrest, Except.toOption]

/-- A record whose fields take what is in the text is put together from what is in the value. -/
theorem toOption_assemble_scanRecord {α : Type} (ofSlots : Slots → Option α)
    {scan : Field → FieldScan} {take : Field → Value → Option Value} {layout : Layout}
    (hnodup : (layout.map (·.name)).Nodup) (h : Json.read cs = .ok v)
    (hrepeats : NoRepeats layout cs)
    (hmembers : ∀ m ∈ memberTexts cs, ∀ f ∈ layout, f.name = m.1 → Takes (scan f) (take f) m.2)
    (hitems : ∀ (i : Nat) f t, layout[i]? = some f → (itemTexts cs)[i]? = some t →
      Takes (scan f) (take f) (skipBlanks t)) :
    (assemble ofSlots (scanRecord scan layout greatestDepth cs)).toOption =
      (filled take layout v).bind ofSlots := by
  rcases read_eq_ok_iff.1 h with ⟨rest, hscan, hrest⟩
  have hfound := scanRecord_of_scanAny hnodup hscan hrepeats hmembers hitems
  exact toOption_assemble ofSlots hfound hrest

/-- A record without records inside. -/
theorem toOption_assemble_kinds {α : Type} (ofSlots : Slots → Option α) {layout : Layout}
    (hnodup : (layout.map (·.name)).Nodup) (h : Json.read cs = .ok v)
    (hrepeats : NoRepeats layout cs) :
    (assemble ofSlots (scanRecord (fun f => f.kind.scan) layout greatestDepth cs)).toOption =
      (slots layout v).bind ofSlots := by
  rw [slots_eq_filled]
  exact toOption_assemble_scanRecord ofSlots hnodup h hrepeats
    (fun m _ f _ _ => takes_kind f.kind m.2) (fun _ f t _ _ => takes_kind f.kind _)

theorem Request.toOption_read (h : Json.read cs = .ok v) (hrepeats : NoRepeats Request.layout cs) :
    (Request.read cs).toOption = Request.ofValue? v :=
  toOption_assemble_kinds Request.ofSlots (by decide) h hrepeats

theorem Fault.toOption_read (h : Json.read cs = .ok v) (hrepeats : NoRepeats Fault.layout cs) :
    (Fault.read cs).toOption = Fault.ofValue? v :=
  toOption_assemble_kinds Fault.ofSlots (by decide) h hrepeats

/-! ## The fault inside a response -/

/-- The texts that a response reads its fault from: those under the key, or the one in its place. -/
def Response.faultTexts (cs : List Char) : List (List Char) :=
  ((memberTexts cs).filter (·.1 = "error")).map (·.2) ++ (itemTexts cs)[3]?.toList

/-- Instead of a fault, a response takes a record of the same slots. -/
def Fault.take : Value → Option Value
  | .null => some .null
  | v => (slots Fault.layout v).map (recordOf Fault.layout)

def Response.take (f : Field) : Value → Option Value :=
  if f.name = "error" then Fault.take else f.kind.take

theorem Fault.take_of_ne_null (h : v ≠ .null) :
    Fault.take v = (slots Fault.layout v).map (recordOf Fault.layout) := by
  cases v <;> first | rfl | exact absurd rfl h

theorem scanFault_of_ne (h : ¬ ∃ after, skipBlanks cs = 'n' :: after) (depth : Nat) :
    scanFault depth cs =
      (scanRecord (fun f => f.kind.scan) Fault.layout depth (skipBlanks cs)).map
        fun p => (recordOf Fault.layout p.1, p.2) := by
  unfold scanFault
  split
  · rename_i after hafter
    exact absurd ⟨after, hafter⟩ h
  · rfl

theorem takes_scanFault (hrepeats : NoRepeats Fault.layout cs) : Takes scanFault Fault.take cs := by
  intro depth rest v h
  -- Of all values only `null` begins with this letter.
  by_cases hstart : ∃ after, skipBlanks cs = 'n' :: after
  · rcases hstart with ⟨after, hstart⟩
    rcases container_or_scalarStep h with ⟨_, body, hopen⟩ | hstep
    · rcases hopen with hopen | hopen <;> simp [hstart] at hopen
    · rw [hstart] at hstep
      cases hstep with
      | null => simp [scanFault, hstart, scanExactly, Except.map, Fault.take, Except.toOption]
      | number hsign => simp at hsign
  · have hnull : v ≠ .null := by
      rintro rfl
      rcases container_or_scalarStep h with ⟨hv, _⟩ | hstep
      · cases hv
      · generalize hskip : skipBlanks cs = t at hstep
        cases hstep
        exact hstart ⟨_, hskip⟩
    have hrecord := scanRecord_of_scanAny (by decide) (scanAny_skipBlanks h)
      (noRepeats_skipBlanks hrepeats) (fun m _ f _ _ => takes_kind f.kind m.2)
      (fun _ f t _ _ => takes_kind f.kind _)
    rw [← slots_eq_filled] at hrecord
    rw [Fault.take_of_ne_null hnull]
    rw [scanFault_of_ne hstart, toOption_map, hrecord, Option.map_map, Option.map_map]
    rfl

/-- The fault that a response takes from a value is the one that is decoded from it. -/
theorem Fault.ofValue?_take (v : Value) :
    (Fault.take v).bind Fault.ofValue? = Fault.ofValue? v := by
  by_cases hnull : v = .null
  · rw [hnull]
    rfl
  · rw [Fault.take_of_ne_null hnull]
    cases hslots : slots Fault.layout v with
    | none => simp [Fault.ofValue?, hslots]
    | some found => simp [Fault.ofValue?, hslots, slots_recordOf_of_slots (by decide) hslots]

theorem present_of_ne_null (h : v ≠ .null) : present (some v) = some v := by
  cases v <;> first | rfl | exact absurd rfl h

/-- A response with something for its fault. -/
theorem Response.ofSlots_of_ne_null (h : v ≠ .null) (jsonrpc id result : Option Value) :
    Response.ofSlots [jsonrpc, id, result, some v] =
      (Fault.ofValue? v).bind fun f =>
        (Response.ofSlots [jsonrpc, id, result, none]).map fun r => { r with fault := some f } := by
  unfold Response.ofSlots
  split
  · rename_i heq
    cases heq
    rw [present_of_ne_null h]
    cases hdecoded : Fault.ofValue? v <;> simp [present, hdecoded]
  · rename_i hshape
    cases Fault.ofValue? v with
    | none => rfl
    | some f =>
        split
        · rename_i heq
          cases heq
          exact absurd rfl (hshape _ _ _ _)
        · rfl

/-- It makes no difference whether a response takes its fault as it stands. -/
theorem Response.fill_error_bind_ofSlots (jsonrpc id result fault : Option Value) :
    ((Field.fill ⟨"error", .any, false⟩ Fault.take fault).bind fun e =>
        Response.ofSlots [jsonrpc, id, result, e]) =
      (Field.fill ⟨"error", .any, false⟩ FieldKind.any.take fault).bind fun e =>
        Response.ofSlots [jsonrpc, id, result, e] := by
  cases fault with
  | none => rfl
  | some v =>
      by_cases hnull : v = .null
      · rw [hnull]
        rfl
      · have hdecoded := Fault.ofValue?_take v
        rw [Fault.take_of_ne_null hnull] at hdecoded
        rw [Field.fill_some, Field.fill_some, Fault.take_of_ne_null hnull]
        have hany : FieldKind.any.take v = some v := by
          simp [FieldKind.take]
        rw [hany]
        cases hslots : slots Fault.layout v with
        | none =>
            have hnone : Fault.ofValue? v = none := by
              simp [Fault.ofValue?, hslots]
            simp [Response.ofSlots_of_ne_null hnull, hnone]
        | some found =>
            have hrecord : recordOf Fault.layout found ≠ .null := by
              intro h
              cases h
            simp only [hslots, Option.map_some, Option.bind_some] at hdecoded
            simp [Response.ofSlots_of_ne_null hnull, Response.ofSlots_of_ne_null hrecord, hdecoded]

theorem Response.filled_bind_ofSlots (v : Value) :
    (filled Response.take Response.layout v).bind Response.ofSlots = Response.ofValue? v := by
  rw [Response.ofValue?, slots_eq_filled]
  cases hpick : pick Response.layout v with
  | none => simp [filled, hpick]
  | some found =>
      have hlength : found.length = 4 := length_of_pick hpick
      rcases List.length_eq_four.1 hlength with ⟨jsonrpc, id, result, fault, rfl⟩
      rw [filled, filled, hpick, Option.bind_some, Option.bind_some]
      simp only [Response.layout, List.zip_cons_cons, List.zip_nil_left, List.mapM_cons,
        List.mapM_nil]
      -- The first three fields take the same in both cases.
      have hjsonrpc : Response.take ⟨"jsonrpc", .text, true⟩ = FieldKind.text.take := rfl
      have hid : Response.take ⟨"id", .any, true⟩ = FieldKind.any.take := rfl
      have hresult : Response.take ⟨"result", .any, false⟩ = FieldKind.any.take := rfl
      rw [hjsonrpc, hid, hresult]
      cases Field.fill ⟨"jsonrpc", .text, true⟩ FieldKind.text.take jsonrpc with
      | none => rfl
      | some jsonrpc =>
          cases Field.fill ⟨"id", .any, true⟩ FieldKind.any.take id with
          | none => rfl
          | some id =>
              cases Field.fill ⟨"result", .any, false⟩ FieldKind.any.take result with
              | none => rfl
              | some result =>
                  have herror := Response.fill_error_bind_ofSlots jsonrpc id result fault
                  simpa [Response.take, Option.bind_assoc] using herror

theorem Response.toOption_read (h : Json.read cs = .ok v)
    (hrepeats : NoRepeats Response.layout cs)
    (hfaults : ∀ t ∈ Response.faultTexts cs, NoRepeats Fault.layout t) :
    (Response.read cs).toOption = Response.ofValue? v := by
  have htakes : ∀ f t, (f.name = "error" → NoRepeats Fault.layout t) →
      Takes (Response.scanField f) (Response.take f) t := by
    intro f t hfault
    by_cases herror : f.name = "error"
    · simpa [Response.scanField, Response.take, herror] using takes_scanFault (hfault herror)
    · simpa [Response.scanField, Response.take, herror] using takes_kind f.kind t
  rw [← Response.filled_bind_ofSlots]
  refine toOption_assemble_scanRecord Response.ofSlots (by decide) h hrepeats ?_ ?_
  · intro m hm f hf hname
    refine htakes f m.2 ?_
    intro herror
    refine hfaults m.2 (List.mem_append_left _ (List.mem_map.2 ⟨m, ?_, rfl⟩))
    exact List.mem_filter.2 ⟨hm, by simp [← hname, herror]⟩
  · intro i f t hf ht
    refine htakes f _ ?_
    intro herror
    have hi : i = 3 := by
      rcases i with _ | _ | _ | _ | i <;> simp [Response.layout] at hf
      all_goals
        subst hf
        simp at herror ⊢
    subst hi
    refine noRepeats_skipBlanks (hfaults t (List.mem_append_right _ ?_))
    simp [ht]

/-! ## Agreement -/

/-- For a text that is a value, both ways of reading an envelope succeed with the same envelope, or
both fail. No key of an envelope may stand twice, also not in the fault inside a response, since the
value keeps the later one of two members where an envelope is refused. -/
theorem direct_reading_agrees {text : String} {v : Value} (h : readString text = .ok v) :
    (NoRepeats Request.layout text.toList →
      (Request.read text.toList).toOption = Request.ofValue? v)
    ∧ (NoRepeats Response.layout text.toList →
        (∀ t ∈ Response.faultTexts text.toList, NoRepeats Fault.layout t) →
        (Response.read text.toList).toOption = Response.ofValue? v)
    ∧ (NoRepeats Fault.layout text.toList →
        (Fault.read text.toList).toOption = Fault.ofValue? v) :=
  ⟨Request.toOption_read h, Response.toOption_read h, Fault.toOption_read h⟩

/-- The fault comes first, and it has a member that no fault has, under an escaped key. -/
def oddResponse : String :=
  "\x7b \"error\":\x7b\"\\/\":7,\"message\":\"\",\"code\":-1\x7d,\"id\":0,\"jsonrpc\":\"2.0\"\x7d"

def oddValue : Value :=
  .object [("error", .object [("/", .number (.integer 7)), ("code", .number (.integer (-1))),
    ("message", .string "")]), ("id", .number (.integer 0)), ("jsonrpc", .string "2.0")]

theorem readString_oddResponse : readString oddResponse = .ok oddValue := by
  cbv

theorem keys_oddResponse :
    (memberTexts oddResponse.toList).map (·.1) = ["error", "id", "jsonrpc"] := by
  cbv

theorem faultTexts_oddResponse :
    Response.faultTexts oddResponse.toList = [oddResponse.toList.drop 10] := by
  cbv

theorem keys_fault_oddResponse :
    (memberTexts (oddResponse.toList.drop 10)).map (·.1) = ["/", "message", "code"] := by
  cbv

/-- Read either way it is a response, and neither a request nor a fault. -/
theorem direct_reading_agrees_on_odd_response :
    NoRepeats Response.layout oddResponse.toList
    ∧ (∀ t ∈ Response.faultTexts oddResponse.toList, NoRepeats Fault.layout t)
    ∧ (Response.read oddResponse.toList).toOption =
        some ⟨"2.0", .number (.integer 0), none, some ⟨-1, "", none⟩⟩
    ∧ (Request.read oddResponse.toList).toOption = none
    ∧ (Fault.read oddResponse.toList).toOption = none := by
  have hrepeats : ∀ layout : Layout, (∀ f ∈ layout,
      ["error", "id", "jsonrpc"].count f.name ≤ 1) → NoRepeats layout oddResponse.toList := by
    intro layout h f hf
    rw [keys_oddResponse]
    exact h f hf
  have hfaults : ∀ t ∈ Response.faultTexts oddResponse.toList, NoRepeats Fault.layout t := by
    intro t ht f hf
    rw [faultTexts_oddResponse] at ht
    rw [List.mem_singleton.1 ht, keys_fault_oddResponse]
    revert f
    decide
  rcases direct_reading_agrees readString_oddResponse with ⟨hrequest, hresponse, hfault⟩
  refine ⟨hrepeats _ (by decide), hfaults, ?_, ?_, ?_⟩
  · exact (hresponse (hrepeats _ (by decide)) hfaults).trans (by decide)
  · exact (hrequest (hrepeats _ (by decide))).trans (by decide)
  · exact (hfault (hrepeats _ (by decide))).trans (by decide)

end Rpc
end RpcHost
