import RpcHost.Proofs.Rpc.Batch

/-!
# Answers are well formed

What a client gets back is a response object or an array of them. `IsResponse` says what a response
object is as a value, whoever made it, and `ProperAnswer` what it owes to the value that it answers
and to the dispatcher: the right id, and a status that tells how the value was treated.
-/

namespace RpcHost

/-! ## Response objects -/

namespace Json
namespace Value

/-- The keys of an object. Other values have none. -/
def keys : Value → List String
  | .object members => Entries.keys members
  | _ => []

theorem mem_keys_iff {v : Value} {key : String} : key ∈ v.keys ↔ (v.member? key).isSome := by
  cases v with
  | object members => exact Entries.mem_keys_iff
  | _ => simp [keys, member?]

/-- Only keys under which something is found are there. -/
theorem mem_of_mem_keys {v : Value} {allowed : List String}
    (h : ∀ key, key ∉ allowed → v.member? key = none) {key : String} (hkey : key ∈ v.keys) :
    key ∈ allowed := by
  by_cases hallowed : key ∈ allowed
  · exact hallowed
  · have hsome := mem_keys_iff.1 hkey
    simp [h key hallowed] at hsome

theorem nodup_keys_ofMembers (members : List (String × Value)) : (ofMembers members).keys.Nodup :=
  (Entries.ascending_ofList members).nodup_keys

end Value
end Json

namespace Rpc

open Json Http

variable {σ : Type}

/-- The `error` of a response object. -/
structure IsFault (v : Value) : Prop where
  code : ∃ code : Int64, v.member? "code" = some (.number (.integer code.toInt))
  message : ∃ message, v.member? "message" = some (.string message)
  keys : ∀ key ∈ v.keys, key ∈ ["code", "message", "data"]
  nodup : v.keys.Nodup

structure IsResponse (v : Value) : Prop where
  version : v.member? "jsonrpc" = some (.string "2.0")
  id : (v.member? "id").isSome
  /-- Exactly one of the two is there. A `null` result is there. -/
  result_iff_no_error : (v.member? "result").isSome ↔ ¬ (v.member? "error").isSome
  fault : ∀ e, v.member? "error" = some e → IsFault e
  keys : ∀ key ∈ v.keys, key ∈ ["jsonrpc", "id", "result", "error"]
  nodup : v.keys.Nodup

theorem Fault.isFault_toValue (f : Fault) : IsFault f.toValue := by
  refine ⟨⟨f.code, f.member?_toValue "code"⟩, ⟨f.message, f.member?_toValue "message"⟩, ?_,
    Value.nodup_keys_ofMembers _⟩
  intro key hmem
  refine Value.mem_of_mem_keys ?_ hmem
  intro other hother
  exact (f.member?_toValue other).trans (fieldUnder_of_notMem hother _)

theorem Response.isResponse_toValue {r : Response} (hversion : r.jsonrpc = "2.0")
    (hone : r.result.isSome ↔ ¬ r.fault.isSome) : IsResponse r.toValue := by
  refine ⟨?_, ?_, ?_, ?_, ?_, Value.nodup_keys_ofMembers _⟩
  · exact hversion ▸ r.member?_toValue "jsonrpc"
  · simp [Response.layout, Response.fieldsBy]
  · simpa [Response.layout, Response.fieldsBy] using hone
  · intro e he
    have hfault : r.fault.map Fault.toValue = some e := (r.member?_toValue "error").symm.trans he
    rcases Option.map_eq_some_iff.1 hfault with ⟨f, _, rfl⟩
    exact f.isFault_toValue
  · intro key hmem
    refine Value.mem_of_mem_keys ?_ hmem
    intro other hother
    exact (r.member?_toValue other).trans (fieldUnder_of_notMem hother _)

theorem isResponse_success (id result : Value) : IsResponse (Response.success id result).toValue :=
  Response.isResponse_toValue rfl (by simp [Response.success])

theorem isResponse_failure (id : Value) (f : Fault) : IsResponse (Response.failure id f).toValue :=
  Response.isResponse_toValue rfl (by simp [Response.failure])

/-- However a call ends, it is answered by a response object. -/
theorem Outcome.isResponse (id : Value) (o : Outcome) : IsResponse (o.response id).toValue := by
  cases o with
  | result v => exact isResponse_success id v
  | fault f => exact isResponse_failure id f
  | crash => exact isResponse_failure id _

/-- An array is no response, so that a batch of answers cannot be taken for a single one. -/
theorem IsResponse.ne_array {v : Value} (h : IsResponse v) (items : List Value) :
    v ≠ .array items := by
  rintro rfl
  have hversion := h.version
  cases hversion

/-! ## Statuses -/

namespace Outcome

/-- Every way in which a call can end has one status. -/
theorem code_status (id : Value) (o : Outcome) :
    (o.response id).status.code =
      match o with
      | .result _ => 200
      | .fault f => if f.code = Fault.methodNotFound then 404 else 500
      | .crash => 500 := by
  cases o with
  | result v => rfl
  | fault f =>
      have hstatus : ((Outcome.fault f).response id).status = faultStatus f.code := rfl
      by_cases h : f.code = Fault.methodNotFound <;> simp [hstatus, faultStatus, h, Status.code]
  | crash => rfl

@[simp] theorem id_response (id : Value) (o : Outcome) : (o.response id).id = id := by
  cases o <;> rfl

theorem code_eq_ok_iff (id : Value) (o : Outcome) :
    (o.response id).status.code = 200 ↔ ((o.response id).toValue.member? "result").isSome := by
  have hresult : (o.response id).toValue.member? "result" = (o.response id).result :=
    Response.member?_toValue _ "result"
  rw [code_status, hresult]
  cases o with
  | result v => simp [response, Response.success]
  | fault f =>
      by_cases h : f.code = Fault.methodNotFound <;> simp [h, response, Response.failure]
  | crash => simp [response, Response.failure]

theorem code_ne_badRequest (id : Value) (o : Outcome) : (o.response id).status.code ≠ 400 := by
  rw [code_status]
  cases o with
  | fault f => by_cases h : f.code = Fault.methodNotFound <;> simp [h]
  | _ => simp

theorem code_eq_notFound_iff (id : Value) (o : Outcome) :
    (o.response id).status.code = 404 ↔
      ∃ f, o = .fault f ∧ f.code = Fault.methodNotFound := by
  rw [code_status]
  cases o with
  | fault f => by_cases h : f.code = Fault.methodNotFound <;> simp [h]
  | _ => simp

theorem code_eq_serverError_iff (id : Value) (o : Outcome) :
    (o.response id).status.code = 500 ↔
      o = .crash ∨ ∃ f, o = .fault f ∧ f.code ≠ Fault.methodNotFound := by
  rw [code_status]
  cases o with
  | fault f => by_cases h : f.code = Fault.methodNotFound <;> simp [h]
  | _ => simp

end Outcome

/-! ## Answers to values -/

/-- The ids that are given back to a value that is no request. -/
inductive IsPlainId : Value → Prop where
  | null : IsPlainId .null
  | string (s : String) : IsPlainId (.string s)
  | number (n : Number) : IsPlainId (.number n)

/-- What is owed to a value that is served from the state `s`. -/
structure ProperAnswer (d : Dispatcher σ) (s : σ) (v : Value) (status : Status)
    (envelope : Value) : Prop where
  response : IsResponse envelope
  /-- A request gets its own id back, of whatever kind, and `null` for none. -/
  id_of_request : isRequest v = true →
    envelope.member? "id" = some ((v.member? "id").getD .null)
  id_of_plain : isRequest v = false → ∀ id, v.member? "id" = some id → IsPlainId id →
    envelope.member? "id" = some id
  id_of_not_plain : isRequest v = false → (∀ id, v.member? "id" = some id → ¬ IsPlainId id) →
    envelope.member? "id" = some .null
  ok_iff : status.code = 200 ↔ (envelope.member? "result").isSome
  badRequest_iff : status.code = 400 ↔ isRequest v = false
  notFound_iff : status.code = 404 ↔
    ∃ r f, request? v = some r ∧ (d r s).1 = .fault f ∧ f.code = -32601
  serverError_iff : status.code = 500 ↔
    ∃ r, request? v = some r
      ∧ ((d r s).1 = .crash ∨ ∃ f, (d r s).1 = .fault f ∧ f.code ≠ -32601)

theorem echoId_of_plain {v id : Value} (h : v.member? "id" = some id) (hid : IsPlainId id) :
    echoId v = id := by
  cases hid <;> simp [echoId, h]

theorem echoId_of_not_plain {v : Value} (h : ∀ id, v.member? "id" = some id → ¬ IsPlainId id) :
    echoId v = .null := by
  cases hid : v.member? "id" with
  | none => simp [echoId, hid]
  | some id =>
      -- A plain `null` needs no case of its own, since it is answered by `null` as well.
      have hplain := h id hid
      cases id with
      | string s => exact absurd (.string s) hplain
      | number n => exact absurd (.number n) hplain
      | _ => simp [echoId, hid]

theorem isRequest_of_request? {v : Value} {r : Request} (h : request? v = some r) :
    isRequest v = true := by
  by_cases hv : isRequest v = true
  · exact hv
  · simp [request?, hv] at h

theorem id_of_request? {v : Value} {r : Request} (h : request? v = some r) :
    r.id = (v.member? "id").getD .null := by
  rcases isRequest_iff.1 (isRequest_of_request? h) with ⟨members, method, rfl, hmembers⟩
  rw [hmembers.request?_eq] at h
  cases h
  rfl

theorem properAnswer_reject (d : Dispatcher σ) (s : σ) {v : Value} (h : isRequest v = false) :
    ProperAnswer d s v (reject v).status (reject v).response.toValue := by
  have hnone : request? v = none := request?_eq_none_iff.2 h
  have hid : (reject v).response.toValue.member? "id" = some (echoId v) :=
    Response.member?_toValue _ "id"
  have hresult : (reject v).response.toValue.member? "result" = none :=
    Response.member?_toValue _ "result"
  have hcode : (reject v).status.code = 400 := rfl
  -- Without a request there was no call, and no status that depends on one.
  refine ⟨isResponse_failure _ _, ?_, ?_, ?_, ?_, ?_, ?_, ?_⟩
  · intro hv
    exact absurd (h.symm.trans hv) (by decide)
  · intro _ id hv hplain
    simpa [echoId_of_plain hv hplain] using hid
  · intro _ hplain
    simpa [echoId_of_not_plain hplain] using hid
  · simp [hcode, hresult]
  · simp [hcode, h]
  · simp [hcode, hnone]
  · simp [hcode, hnone]

theorem properAnswer_dispatch (d : Dispatcher σ) (s : σ) {v : Value} {r : Request}
    (h : request? v = some r) :
    ProperAnswer d s v (dispatch d r s).1.status (dispatch d r s).1.toValue := by
  have hv := isRequest_of_request? h
  have hresponse : (dispatch d r s).1 = (d r s).1.response r.id := rfl
  have hid : (dispatch d r s).1.toValue.member? "id" = some r.id := by
    rw [← Outcome.id_response r.id (d r s).1]
    exact Response.member?_toValue _ "id"
  refine ⟨Outcome.isResponse _ _, ?_, ?_, ?_, Outcome.code_eq_ok_iff _ _, ?_, ?_, ?_⟩
  · intro _
    simpa [id_of_request? h] using hid
  · intro hrejected
    exact absurd (hrejected.symm.trans hv) (by decide)
  · intro hrejected
    exact absurd (hrejected.symm.trans hv) (by decide)
  · have hcode := Outcome.code_ne_badRequest r.id (d r s).1
    simp [hresponse, hcode, hv]
  · have hcode := Outcome.code_eq_notFound_iff r.id (d r s).1
    rw [hresponse, hcode, h]
    simp [Fault.methodNotFound]
  · have hcode := Outcome.code_eq_serverError_iff r.id (d r s).1
    rw [hresponse, hcode, h]
    simp [Fault.methodNotFound]

/-- Requests and other values alike are answered properly. -/
theorem serveOne_proper (d : Dispatcher σ) (v : Value) (s : σ) :
    ProperAnswer d s v (serveOne d v s).1.status (serveOne d v s).1.response.toValue := by
  rw [serveOne_eq]
  cases h : request? v with
  | none => exact properAnswer_reject d s (request?_eq_none_iff.1 h)
  | some r => exact properAnswer_dispatch d s h

/-! ## Answers to bodies -/

theorem envelope_isArray_iff (d : Dispatcher σ) (body : Bytes) (s : σ) :
    (∃ envelopes, (process d body s).1.envelope = .array envelopes) ↔
      ∃ items, readBytes body = .ok (.array items) := by
  constructor
  · -- All other answers are responses.
    rintro ⟨envelopes, henvelopes⟩
    cases hread : readBytes body with
    | error e =>
        rw [process_unreadable d hread] at henvelopes
        exact absurd henvelopes ((isResponse_failure _ _).ne_array _)
    | ok v =>
        cases v with
        | array items => exact ⟨items, rfl⟩
        | _ =>
            rw [process_single d hread (by intro items h; cases h)] at henvelopes
            exact absurd henvelopes ((serveOne_proper d _ s).response.ne_array _)
  · rintro ⟨items, hread⟩
    exact ⟨_, congrArg (·.1.envelope) (process_batch d hread s)⟩

/-- Every body is answered by a response or an array of them, with the right ids and statuses. -/
theorem every_answer_is_proper (d : Dispatcher σ) (body : Bytes) (s : σ) :
    -- an array is answered by an array, and nothing else is
    ((∃ envelopes, (process d body s).1.envelope = .array envelopes) ↔
      ∃ items, readBytes body = .ok (.array items))
    -- what cannot be read is answered without an id
    ∧ (∀ e, readBytes body = .error e →
        IsResponse (process d body s).1.envelope
        ∧ (process d body s).1.envelope.member? "id" = some .null
        ∧ (process d body s).1.status.code = 500)
    ∧ (∀ v, readBytes body = .ok v → (∀ items, v ≠ .array items) →
        ProperAnswer d s v (process d body s).1.status (process d body s).1.envelope)
    -- an item of an array is answered as it is alone, from the state that those before it left
    ∧ (∀ items, readBytes body = .ok (.array items) → ∃ served : List Served,
        (process d body s).1.envelope = .array (served.map (·.response.toValue))
        ∧ (process d body s).1.status.code = (served.map (·.status.code)).foldl max 200
        ∧ served.length = items.length
        ∧ ∀ i v, items[i]? = some v → ∃ one, served[i]? = some one
          ∧ ProperAnswer d (stateAfter d (items.take i) s) v one.status one.response.toValue) := by
  refine ⟨envelope_isArray_iff d body s, ?_, ?_, ?_⟩
  · intro e hread
    rw [process_unreadable d hread]
    exact ⟨isResponse_failure _ _, Response.member?_toValue _ "id", rfl⟩
  · intro v hread hv
    simpa [process_single d hread hv, Answer.single] using serveOne_proper d v s
  · intro items hread
    rw [process_batch d hread]
    refine ⟨servedInOrder d items s, rfl, code_batch _, length_servedInOrder d items s, ?_⟩
    intro i v hi
    refine ⟨(serveOne d v (stateAfter d (items.take i) s)).1, ?_, serveOne_proper d v _⟩
    rw [getElem?_servedInOrder, hi]
    rfl

/-- A body that breaks off, a value that is no request, and a batch with a crash in it. -/
theorem every_answer_is_proper_to_each_kind :
    (process faltering (Text.utf8 "[") 0).1.status.code = 500
    ∧ (process faltering (Text.utf8 "\x7b\"id\":\"a\"\x7d") 0).1.envelope.member? "id" =
        some (.string "a")
    ∧ ∃ served : List Served,
        (process faltering (Text.utf8 (Value.array callTwice).render) 0).1.envelope =
          .array (served.map (·.response.toValue))
        ∧ served.length = 3
        ∧ ∃ one, served[0]? = some one
          ∧ one.status.code = 500
          ∧ one.response.toValue.member? "id" = some call.id := by
  have hbroken : readBytes (Text.utf8 "[") = .error .ended :=
    (readBytes_utf8 _).trans (by cbv)
  have hobject : readBytes (Text.utf8 "\x7b\"id\":\"a\"\x7d") =
      .ok (.object [("id", .string "a")]) :=
    (readBytes_utf8 _).trans (by cbv)
  refine ⟨?_, ?_, ?_⟩
  · exact ((every_answer_is_proper faltering _ 0).2.1 _ hbroken).2.2
  · have hproper := (every_answer_is_proper faltering _ 0).2.2.1 _ hobject
      (by intro items h; cases h)
    exact hproper.id_of_plain (by decide) _ rfl (.string "a")
  · rcases (every_answer_is_proper faltering _ 0).2.2.2 _ readBytes_callTwice with
      ⟨served, henvelope, _, hlength, hitems⟩
    rcases hitems 0 call.toValue rfl with ⟨one, hone, hproper⟩
    have hrequest : request? call.toValue = some call := by
      decide
    refine ⟨served, henvelope, hlength, one, hone, ?_, ?_⟩
    · exact hproper.serverError_iff.2 ⟨call, hrequest, .inl rfl⟩
    · exact hproper.id_of_request (by decide)

end Rpc
end RpcHost
