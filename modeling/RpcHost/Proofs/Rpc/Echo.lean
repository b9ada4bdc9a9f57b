import RpcHost.Proofs.Rpc.Nesting

/-!
# What the methods give back

The methods that are there from the start give the data of a request back: `echo` all of it, `ping`
the params, and a method that is not there no more than the id. `Answered` says so in terms of the
members of a valid value. Nothing is lost or added where the value is decoded (`Decodes`), so that
an echo is a request again, and one whose echo is itself. The main statement is
`echo_and_ping_keep_data`.
-/

namespace RpcHost

namespace Json.Value

theorem addMissing_of_member? {v w : Value} {key : String} (h : (v.member? key).isSome) :
    v.addMissing key w = v := by
  cases v with
  | object members => exact if_pos h
  | _ => rfl

end Json.Value

namespace Rpc

open Json Http MethodTable

variable {τ : Type} {v : Value} {r : Request}

/-! ## From a value to its request -/

/-- What a valid value is decoded to, in terms of its members. -/
structure Decodes (v : Value) (r : Request) : Prop where
  request : request? v = some r
  method : v.member? "method" = some (.string r.method)
  params : (v.member? "params").getD .null = r.paramsOrNull
  id : (v.member? "id").getD .null = r.id
  toValue : v.addMissing "id" .null = r.toValue

theorem Decodes.method_eq {name : String} (h : Decodes v r)
    (hv : v.member? "method" = some (.string name)) : r.method = name := by
  rw [h.method] at hv
  injection Option.some.inj hv

theorem decodes_toValue (h : request? r.toValue = some r) : Decodes r.toValue r := by
  have hparams : r.toValue.member? "params" = r.params := r.member?_toValue "params"
  have hid : r.toValue.member? "id" = some r.id := r.member?_toValue "id"
  refine ⟨h, r.member?_toValue "method", ?_, ?_, ?_⟩
  · rw [hparams, Request.paramsOrNull]
  · rw [hid, Option.getD_some]
  · exact Value.addMissing_of_member? (by rw [hid, Option.isSome_some])

/-- The request has all that the value has, and as a value it stands for itself. -/
theorem exists_decodes (hv : isRequest v = true) (hordered : v.Ordered) :
    ∃ r, Decodes v r ∧ Decodes r.toValue r ∧ r.toValue.Ordered := by
  rcases isRequest_iff.1 hv with ⟨members, method, rfl, h⟩
  have hback := h.toValue (Value.ordered_object_iff.1 hordered).1
  refine ⟨_, ⟨h.request?_eq, h.method, rfl, rfl, hback.symm⟩, ?_, ?_⟩
  · exact decodes_toValue (request?_toValue rfl h.params)
  · exact nesting_ordered.toValue (n := 0) (nesting_ordered.request hordered h.request?_eq)

/-! ## From a request to its answer -/

theorem builtinOutcome_echo (h : r.method = "echo") : builtinOutcome r = .result r.toValue := by
  rw [builtinOutcome, h]
  rfl

theorem builtinOutcome_ping (h : r.method = "ping") :
    builtinOutcome r =
      .result (.object [("message", .string "OK"), ("params", r.paramsOrNull)]) := by
  rw [builtinOutcome, h]
  cbv

theorem builtinOutcome_unknown (h : r.method ∉ Entries.keys builtinRuns) :
    builtinOutcome r = .fault .unknownMethod := by
  rw [builtinOutcome, Entries.find?_eq_none_iff.2 h]
  rfl

theorem toValue_success (id result : Value) :
    (Response.success id result).toValue =
      .object [("id", id), ("jsonrpc", .string "2.0"), ("result", result)] := by
  cbv

theorem toValue_failure_unknownMethod (id : Value) :
    (Response.failure id .unknownMethod).toValue =
      .object [("error", .object [("code", .number (.integer (-32601))),
        ("message", .string "Invalid Request")]), ("id", id), ("jsonrpc", .string "2.0")] := by
  cbv

/-- What a request is answered, with the table left as it was. -/
def builtinServed (r : Request) : Served :=
  ⟨((builtinOutcome r).response r.id).status, (builtinOutcome r).response r.id⟩

theorem serveOne_builtin (hr : request? v = some r) (state : τ) :
    serveOne serve v (builtin state) = (builtinServed r, builtin state) := by
  rw [serveOne_eq, hr]
  simp [dispatch, builtinServed]

/-- What a valid value is answered, in terms of its members. -/
structure Answered (v : Value) (served : Served) : Prop where
  echo : v.member? "method" = some (.string "echo") →
    served.status = .ok
    ∧ served.response.toValue = .object [("id", (v.member? "id").getD .null),
        ("jsonrpc", .string "2.0"), ("result", v.addMissing "id" .null)]
  ping : v.member? "method" = some (.string "ping") →
    served.status = .ok
    ∧ served.response.toValue = .object [("id", (v.member? "id").getD .null),
        ("jsonrpc", .string "2.0"), ("result", .object [("message", .string "OK"),
          ("params", (v.member? "params").getD .null)])]
  unknown : ∀ method, v.member? "method" = some (.string method) →
    method ∉ ["build_info", "echo", "ping", "unimplemented"] →
    served.status = .notFound
    ∧ served.response.toValue = .object [("error", .object [
        ("code", .number (.integer (-32601))), ("message", .string "Invalid Request")]),
        ("id", (v.member? "id").getD .null), ("jsonrpc", .string "2.0")]

theorem Decodes.answered (h : Decodes v r) : Answered v (builtinServed r) := by
  refine ⟨?_, ?_, ?_⟩
  · intro hv
    rw [builtinServed, builtinOutcome_echo (h.method_eq hv), h.id, h.toValue]
    exact ⟨rfl, toValue_success _ _⟩
  · intro hv
    rw [builtinServed, builtinOutcome_ping (h.method_eq hv), h.id, h.params]
    exact ⟨rfl, toValue_success _ _⟩
  · intro name hv hunknown
    have houtcome : builtinOutcome r = .fault .unknownMethod :=
      builtinOutcome_unknown (h.method_eq hv ▸ hunknown)
    rw [builtinServed, houtcome, h.id]
    exact ⟨rfl, toValue_failure_unknownMethod _⟩

/-! ## There and back -/

theorem stateAfter_builtin (vs : List Value) (state : τ) :
    stateAfter serve vs (builtin state) = builtin state :=
  (nesting_ordered.addsLevel_serve state).stateAfter rfl vs

/-- An item of a batch is answered at its place as it is alone. -/
theorem answer_builtin_item {items : List Value} {i : Nat} (hi : items[i]? = some v)
    (hr : request? v = some r) (state : τ) :
    ∃ all, answer serve (.array items) (builtin state) = (.batch all, builtin state)
      ∧ all[i]? = some (builtinServed r) := by
  refine ⟨servedInOrder serve items (builtin state), ?_, ?_⟩
  · rw [answer_array, stateAfter_builtin]
  · rw [getElem?_servedInOrder, hi, stateAfter_builtin, Option.map_some, serveOne_builtin hr]

theorem answer_builtin (hr : request? v = some r) (state : τ) :
    answer serve v (builtin state) = (.single (builtinServed r), builtin state) := by
  have hobject : ∀ items, v ≠ .array items := by
    rintro items rfl
    cases hr
  rw [answer_of_ne_array serve hobject, serveOne_builtin hr]

/-- A valid value, alone or at any place of a batch, is answered with its own data. With the id that
was missing it is a valid value again and is answered the same, so that an echo echoes itself. The
values are in key order, as all are that are read (`ordered_of_readBytes`). -/
theorem echo_and_ping_keep_data (hv : isRequest v = true) (hordered : v.Ordered) (state : τ) :
    ∃ served : Served, Answered v served
      ∧ answer serve v (builtin state) = (.single served, builtin state)
      ∧ (∀ (items : List Value) (i : Nat), items[i]? = some v → ∃ all : List Served,
          answer serve (.array items) (builtin state) = (.batch all, builtin state)
          ∧ all[i]? = some served)
      -- the echo of an echo
      ∧ (v.member? "method" = some (.string "echo") → ∃ w,
          w = v.addMissing "id" .null ∧ served.response.result = some w
          ∧ isRequest w = true ∧ w.Ordered ∧ w.member? "method" = some (.string "echo")
          ∧ answer serve w (builtin state) = (.single served, builtin state))
      -- the bodies in which values come
      ∧ ∀ body whole, readBytes body = .ok whole →
          process serve body (builtin state) = answer serve whole (builtin state) := by
  rcases exists_decodes hv hordered with ⟨r, hdecodes, hback, hbackOrdered⟩
  refine ⟨builtinServed r, hdecodes.answered, answer_builtin hdecodes.request state, ?_, ?_, ?_⟩
  · intro items i hi
    exact answer_builtin_item hi hdecodes.request state
  · intro hecho
    have hname : r.method = "echo" := hdecodes.method_eq hecho
    refine ⟨r.toValue, hdecodes.toValue.symm, ?_, isRequest_of_request? hback.request, hbackOrdered,
      ?_, answer_builtin hback.request state⟩
    · rw [builtinServed, builtinOutcome_echo hname]
      rfl
    · rw [hback.method, hname]
  · intro body whole hread
    exact process_of_read serve hread _

/-- A call of `echo` without an id. -/
def echoCall : Value :=
  .object [("jsonrpc", .string "2.0"), ("method", .string "echo"), ("params", .array [.null])]

def echoed : Value :=
  .object [("id", .null), ("jsonrpc", .string "2.0"), ("method", .string "echo"),
    ("params", .array [.null])]

/-- The call comes behind a value that is no request. -/
theorem echo_and_ping_keep_data_behind_other_item :
    ∃ (all : List Served) (served : Served),
      process serve (Text.utf8 (Value.array [.null, echoCall]).render) (builtin ()) =
        (.batch all, builtin ())
      ∧ all[1]? = some served ∧ served.response.result = some echoed
      ∧ answer serve echoed (builtin ()) = (.single served, builtin ()) := by
  have hread : readBytes (Text.utf8 (Value.array [.null, echoCall]).render) =
      .ok (.array [.null, echoCall]) :=
    (readBytes_utf8 _).trans (by cbv)
  have hordered : echoCall.Ordered :=
    Value.ordered_array_iff.1 (ordered_of_readBytes hread) echoCall (by simp)
  have hechoed : echoCall.addMissing "id" .null = echoed := by
    decide
  rcases echo_and_ping_keep_data (show isRequest echoCall = true by decide) hordered () with
    ⟨served, _, _, hbatch, hecho, hbody⟩
  rcases hbatch [.null, echoCall] 1 rfl with ⟨all, hanswer, hserved⟩
  rcases hecho rfl with ⟨w, rfl, hresult, _, _, _, hagain⟩
  rw [hechoed] at hresult hagain
  exact ⟨all, served, (hbody _ _ hread).trans hanswer, hserved, hresult, hagain⟩

end Rpc
end RpcHost
