import RpcHost.Proofs.Rpc.Envelope
import RpcHost.Rpc.Processing

/-!
# Validity and decoding of requests

Two rules say what a request is: `isRequest` looks at the members of a value, `Request.ofValue?`
takes it apart by a layout. Whatever passes the first is decoded by the second, and encoding the
result gives the value back, with the id that was missing. So every valid request is dispatched.
-/

namespace RpcHost

namespace Json
namespace Value

/-- The value with a member under the key, in case it is an object that has none there. -/
def addMissing (v : Value) (key : String) (w : Value) : Value :=
  match v with
  | .object members =>
      if Entries.contains key members then .object members
      else .object (Entries.insert key w members)
  | v => v

theorem exists_addMissing (key : String) (w : Value) {members : Members}
    (h : Entries.Ascending members) :
    ∃ added : Members, (Value.object members).addMissing key w = .object added
      ∧ Entries.Ascending added
      ∧ ∀ k, Entries.find? k added =
          if k = key then some ((Entries.find? key members).getD w)
          else Entries.find? k members := by
  by_cases hthere : Entries.contains key members
  · rcases Option.isSome_iff_exists.1 hthere with ⟨v, hv⟩
    refine ⟨members, if_pos hthere, h, ?_⟩
    intro k
    by_cases hk : k = key <;> simp [hk, hv]
  · have hnone : Entries.find? key members = none := by
      simpa [Entries.contains] using hthere
    refine ⟨Entries.insert key w members, if_neg hthere, Entries.ascending_insert key w h, ?_⟩
    intro k
    rw [Entries.find?_insert, hnone]
    rfl

end Value
end Json

namespace Rpc

open Json

/-! ## Valid members -/

/-- What the members of a request are. -/
structure ValidMembers (members : Members) (method : String) : Prop where
  keys : ∀ key ∈ Entries.keys members, key ∈ requestKeys
  jsonrpc : Entries.find? "jsonrpc" members = some (.string version)
  method : Entries.find? "method" members = some (.string method)
  params : ∀ p, Entries.find? "params" members = some p → p.isContainer = true

theorem asString?_eq_some {v : Value} {s : String} : v.asString? = some s ↔ v = .string s := by
  cases v <;> simp [Value.asString?]

theorem isRequest_iff {v : Value} :
    isRequest v = true ↔ ∃ members method, v = .object members ∧ ValidMembers members method := by
  constructor
  · intro h
    cases v with
    | object members =>
        simp only [isRequest, Bool.and_eq_true, List.all_eq_true, decide_eq_true_eq, beq_iff_eq,
          Option.bind_eq_some_iff, asString?_eq_some, Option.isSome_iff_exists,
          Option.all_eq_true_iff_get] at h
        rcases h with ⟨⟨⟨hkeys, jsonrpc, hjsonrpc, rfl⟩, method, v, hmethod, rfl⟩, hparams⟩
        refine ⟨members, method, rfl, hkeys, hjsonrpc, hmethod, ?_⟩
        intro p hp
        simpa [hp] using hparams
    | _ => cases h
  · rintro ⟨members, method, rfl, h⟩
    have hkeys : (Entries.keys members).all (· ∈ requestKeys) = true := by
      simpa using h.keys
    have hparams : (Entries.find? "params" members).all Value.isContainer = true := by
      cases hp : Entries.find? "params" members with
      | none => rfl
      | some p => exact h.params p hp
    simp [isRequest, hkeys, h.jsonrpc, h.method, hparams, Value.asString?]

/-! ## Decoding -/

theorem present_of_isContainer {o : Option Value} (h : ∀ p, o = some p → p.isContainer = true) :
    present o = o := by
  cases o with
  | none => rfl
  | some p =>
      have hp := h p rfl
      cases p <;> first | rfl | cases hp

theorem ofValue?_object {members : Members} {jsonrpc method : String}
    (hjsonrpc : Entries.find? "jsonrpc" members = some (.string jsonrpc))
    (hmethod : Entries.find? "method" members = some (.string method)) :
    Request.ofValue? (.object members) =
      some ⟨jsonrpc, method, present (Entries.find? "params" members),
        (Entries.find? "id" members).getD .null⟩ := by
  have hadmits : Request.layout.all (fun f => f.admits (Entries.find? f.name members)) = true := by
    simp [Request.layout, hjsonrpc, hmethod]
  rw [Request.ofValue?, slots_object, if_pos hadmits]
  simp [Request.layout, hjsonrpc, hmethod, Request.ofSlots]

/-- Params that are there are a container, so that none are lost as `null`. -/
theorem ValidMembers.ofValue? {members : Members} {method : String}
    (h : ValidMembers members method) :
    Request.ofValue? (.object members) =
      some ⟨version, method, Entries.find? "params" members,
        (Entries.find? "id" members).getD .null⟩ := by
  rw [ofValue?_object h.jsonrpc h.method, present_of_isContainer h.params]

/-! ## Encoding what was decoded -/

theorem ValidMembers.toValue {members : Members} {method : String}
    (h : ValidMembers members method) (hasc : Entries.Ascending members) :
    Request.toValue ⟨version, method, Entries.find? "params" members,
        (Entries.find? "id" members).getD .null⟩ =
      (Value.object members).addMissing "id" .null := by
  rcases Value.exists_addMissing "id" .null hasc with ⟨added, hadded, haddedAsc, hfind⟩
  rw [hadded]
  -- Both sides stand in key order, so they are compared key by key.
  refine congrArg Value.object (Entries.eq_of_find?_eq (Entries.ascending_ofList _) haddedAsc ?_)
  intro key
  refine (Request.member?_toValue _ key).trans ?_
  rw [hfind]
  by_cases hkey : key ∈ requestKeys
  · simp only [requestKeys, List.mem_cons, List.not_mem_nil, or_false] at hkey
    rcases hkey with rfl | rfl | rfl | rfl
    · simp [Request.layout, Request.fields, h.jsonrpc]
    · simp [Request.layout, Request.fields, h.method]
    · simp [Request.layout, Request.fields]
    · simp [Request.layout, Request.fields]
  · have hout : key ∉ Entries.keys members := fun hmem => hkey (h.keys key hmem)
    have hid : key ≠ "id" := fun heq => hkey (heq ▸ by decide)
    rw [fieldUnder_of_notMem hkey, if_neg hid, Entries.find?_eq_none_iff.2 hout]

theorem validMembers_members {r : Request} (hversion : r.jsonrpc = version)
    (hparams : ∀ p, r.params = some p → p.isContainer = true) :
    ValidMembers (Entries.ofList r.members) r.method := by
  have hfind : ∀ key, Entries.find? key (Entries.ofList r.members) =
      fieldUnder key Request.layout r.fields := r.member?_toValue
  refine ⟨?_, hversion ▸ hfind "jsonrpc", hfind "method", ?_⟩
  · intro key hmem
    by_cases hkey : key ∈ requestKeys
    · exact hkey
    · have hnone : fieldUnder key Request.layout r.fields = none := fieldUnder_of_notMem hkey _
      have hsome := Entries.mem_keys_iff.1 hmem
      simp [hfind, hnone] at hsome
  · intro p hp
    exact hparams p ((hfind "params").symm.trans hp)

/-- A request is put together again from its members. -/
theorem eq_of_members {r : Request} (hversion : r.jsonrpc = version) :
    (⟨version, r.method, Entries.find? "params" (Entries.ofList r.members),
      (Entries.find? "id" (Entries.ofList r.members)).getD .null⟩ : Request) = r := by
  have hparams : Entries.find? "params" (Entries.ofList r.members) = r.params :=
    r.member?_toValue "params"
  have hid : Entries.find? "id" (Entries.ofList r.members) = some r.id := r.member?_toValue "id"
  rw [hparams, hid, Option.getD_some, ← hversion]

/-! ## Agreement -/

theorem serveOne_of_ofValue? {σ : Type} {v : Value} {r : Request} (hvalid : isRequest v = true)
    (hr : Request.ofValue? v = some r) (d : Dispatcher σ) (s : σ) :
    serveOne d v s = (⟨(dispatch d r s).1.status, (dispatch d r s).1⟩, (dispatch d r s).2) := by
  simp [serveOne, hvalid, hr]

/-- A valid value is decoded to the request with its members, dispatched as that request, and given
back with a `null` id for a missing one when the request is encoded. The last is about values in key
order, as all are that were read (`ordered_of_readBytes`). A request of the right version and with
structured params, if any, is encoded to a valid value and decoded again. -/
theorem validity_agrees_with_decoding :
    (∀ v : Value, isRequest v = true →
      ∃ r : Request, Request.ofValue? v = some r
        ∧ r.jsonrpc = "2.0"
        ∧ v.member? "method" = some (.string r.method)
        ∧ r.params = v.member? "params"
        ∧ (∀ p, r.params = some p → p.isContainer = true)
        ∧ r.id = (v.member? "id").getD .null
        ∧ (∀ (σ : Type) (d : Dispatcher σ) (s : σ), serveOne d v s =
            (⟨(dispatch d r s).1.status, (dispatch d r s).1⟩, (dispatch d r s).2))
        ∧ (v.Ordered → r.toValue = v.addMissing "id" .null))
    ∧ ∀ r : Request, r.jsonrpc = "2.0" → (∀ p, r.params = some p → p.isContainer = true) →
        isRequest r.toValue = true ∧ Request.ofValue? r.toValue = some r := by
  refine ⟨?_, ?_⟩
  · intro v hvalid
    rcases isRequest_iff.1 hvalid with ⟨members, method, rfl, h⟩
    refine ⟨_, h.ofValue?, rfl, h.method, rfl, h.params, rfl, ?_, ?_⟩
    · intro σ d s
      exact serveOne_of_ofValue? hvalid h.ofValue? d s
    · intro hordered
      exact h.toValue (Value.ordered_object_iff.1 hordered).1
  · intro r hversion hparams
    have h : ValidMembers (Entries.ofList r.members) r.method :=
      validMembers_members hversion hparams
    refine ⟨isRequest_iff.2 ⟨_, _, rfl, h⟩, ?_⟩
    calc
      Request.ofValue? r.toValue
          = some ⟨version, r.method, Entries.find? "params" (Entries.ofList r.members),
              (Entries.find? "id" (Entries.ofList r.members)).getD .null⟩ := h.ofValue?
      _ = some r := congrArg some (eq_of_members hversion)

/-- A valid value without an id. -/
def withoutId : Value :=
  .object [("jsonrpc", .string "2.0"), ("method", .string "m"), ("params", .array [.null])]

theorem ordered_withoutId : withoutId.Ordered := by
  refine Value.ordered_object_iff.2 ⟨by decide, ?_⟩
  simp [Value.Ordered, Value.OrderedItems]

theorem validity_agrees_with_decoding_without_id :
    (∃ r, Request.ofValue? withoutId = some r
      ∧ r.params = some (.array [.null])
      ∧ r.id = .null
      ∧ r.toValue = .object [("id", .null), ("jsonrpc", .string "2.0"), ("method", .string "m"),
          ("params", .array [.null])])
    ∧ isRequest (Request.new "m" none (.bool true)).toValue = true := by
  refine ⟨?_, ?_⟩
  · have hvalid : isRequest withoutId = true := by
      decide
    have hadded : withoutId.addMissing "id" .null =
        .object [("id", .null), ("jsonrpc", .string "2.0"), ("method", .string "m"),
          ("params", .array [.null])] := by
      decide
    rcases validity_agrees_with_decoding.1 withoutId hvalid with
      ⟨r, hr, _, _, hparams, _, hid, _, hback⟩
    exact ⟨r, hr, hparams, hid, (hback ordered_withoutId).trans hadded⟩
  · have hparams : ∀ p, (Request.new "m" none (.bool true)).params = some p →
        p.isContainer = true := by
      intro p hp
      cases hp
    exact (validity_agrees_with_decoding.2 (Request.new "m" none (.bool true)) rfl hparams).1

end Rpc
end RpcHost
