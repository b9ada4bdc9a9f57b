import RpcHost.Proofs.Http.Routes

/-!
# Cross-origin access

Whether other origins are let in shows in three fields of a reply and in nothing else. For each
route it is said which fields the flag adds (`grants`, `grants_eq`). The main statement,
`cross_origin_access_adds_its_fields_alone`, compares replies to one request with and without it.
-/

namespace RpcHost
namespace Http

open Rpc

variable {σ : Type} {r : Request}

/-! ## Fields about other origins -/

def crossOriginNames : List String :=
  ["access-control-allow-origin", "access-control-allow-methods", "access-control-allow-headers"]

/-- The fields that are there because other origins are let in. -/
def grants (cors : Bool) (r : Request) : List Field :=
  if r.path = rpcPath ∧ r.method = "OPTIONS" then
    grantedHeaders cors r ++ grantedMethods cors ++ anyOrigin cors
  else if r.path = rpcPath ∧ r.method = "POST" then anyOrigin cors
  else []

@[simp] theorem grants_off (r : Request) : grants false r = [] := by
  unfold grants
  split
  · rfl
  · split <;> rfl

theorem name_of_mem_grants {cors : Bool} {f : Field} (h : f ∈ grants cors r) :
    f.name ∈ crossOriginNames := by
  cases cors with
  | false => simp at h
  | true =>
      have hpreflight : ∀ f ∈ grantedHeaders true r ++ grantedMethods true ++ anyOrigin true,
          f.name ∈ crossOriginNames := by
        simp [grantedHeaders, grantedMethods, anyOrigin, Field.ofText, crossOriginNames,
          or_imp, forall_and]
      unfold grants at h
      split at h
      · exact hpreflight f h
      · split at h
        · exact hpreflight f (List.mem_append_right _ h)
        · cases h

theorem grants_eq (cors : Bool) (r : Request) :
    grants cors r =
      match Route.of r.method r.path with
      | .preflight => grantedHeaders cors r ++ grantedMethods cors ++ anyOrigin cors
      | .call => anyOrigin cors
      | .fixed _ _ => [] := by
  simp only [grants, ← Route.of_eq_preflight_iff, ← Route.of_eq_call_iff]
  cases Route.of r.method r.path <;> simp

/-- What a request is answered without its grants does not depend on the flag. -/
theorem handle_eq_grants_append (d : Dispatcher σ) (r : Request) (s : σ) :
    ∃ status fields body s', (∀ f ∈ fields, f.name ∉ crossOriginNames)
      ∧ ∀ cors, handle d cors r s = (⟨status, grants cors r ++ fields, body⟩, s') := by
  simp only [handle_eq, grants_eq]
  cases Route.of r.method r.path with
  | preflight =>
      exact ⟨.ok, [.ofText "allow" allowedMethods, .ofText "content-type" "application/json"], [],
        s, by decide, fun _ => rfl⟩
  | call =>
      refine ⟨(process d r.body s).1.status, [.ofText "content-type" "application/json"],
        Text.utf8 (process d r.body s).1.envelope.render, (process d r.body s).2, by decide, ?_⟩
      intro cors
      rw [jsonReply_eq]
  | fixed status text =>
      exact ⟨status, [.ofText "content-type" "text/plain"], Text.utf8 text, s, by decide,
        fun _ => rfl⟩

/-! ## What they say -/

/-- The values of all fields with this name, in their order. -/
def fieldValues (name : String) (fields : List Field) : List Bytes :=
  (fields.filter (·.name = name)).map (·.value)

def Reply.values (reply : Reply) (name : String) : List Bytes :=
  fieldValues name reply.fields

/-- The fields of a reply that are not about other origins. -/
def Reply.ordinaryFields (reply : Reply) : List Field :=
  reply.fields.filter fun f => f.name ∉ crossOriginNames

/-- The values of all fields that were given under a name, in whatever case its letters are. -/
def valuesGiven (name : String) (given : List (String × Bytes)) : List Bytes :=
  (given.filter fun f => lowerCase f.1 = lowerCase name).map (·.2)

theorem fieldValues_grants_append {fields : List Field} {name : String}
    (hname : name ∈ crossOriginNames) (h : ∀ f ∈ fields, f.name ∉ crossOriginNames) (cors : Bool)
    (r : Request) :
    fieldValues name (grants cors r ++ fields) = fieldValues name (grants cors r) := by
  have hnone : fields.filter (·.name = name) = [] := by
    refine List.filter_eq_nil_iff.2 ?_
    intro f hf
    have hne : f.name ≠ name := fun heq => h f hf (heq ▸ hname)
    simpa using hne
  rw [fieldValues, List.filter_append, hnone, List.append_nil, fieldValues]

theorem filter_grants_append {fields : List Field} (h : ∀ f ∈ fields, f.name ∉ crossOriginNames)
    (cors : Bool) (r : Request) :
    (grants cors r ++ fields).filter (fun f => f.name ∉ crossOriginNames) = fields := by
  have hnone : (grants cors r).filter (fun f => f.name ∉ crossOriginNames) = [] := by
    refine List.filter_eq_nil_iff.2 ?_
    intro f hf
    simpa using name_of_mem_grants hf
  have hall : fields.filter (fun f => f.name ∉ crossOriginNames) = fields := by
    refine List.filter_eq_self.2 ?_
    intro f hf
    simpa using h f hf
  rw [List.filter_append, hnone, hall, List.nil_append]

theorem fieldValues_grants (r : Request) :
    fieldValues "access-control-allow-origin" (grants true r) =
      (if r.path = rpcPath ∧ (r.method = "OPTIONS" ∨ r.method = "POST") then [Text.utf8 "*"]
        else [])
    ∧ fieldValues "access-control-allow-methods" (grants true r) =
      (if r.path = rpcPath ∧ r.method = "OPTIONS" then [Text.utf8 allowedMethods] else [])
    ∧ fieldValues "access-control-allow-headers" (grants true r) =
      (if r.path = rpcPath ∧ r.method = "OPTIONS" then r.values "access-control-request-headers"
        else []) := by
  by_cases hpath : r.path = rpcPath
  · by_cases hoptions : r.method = "OPTIONS"
    · simp [grants, hpath, hoptions, fieldValues, grantedHeaders, grantedMethods, anyOrigin,
        Field.ofText, List.filter_map, Function.comp_def]
    · by_cases hpost : r.method = "POST"
      · simp [grants, hpath, hpost, fieldValues, anyOrigin, Field.ofText]
      · simp [grants, hoptions, hpost, fieldValues]
  · simp [grants, hpath, fieldValues]

/-! ## Requests as they are given -/

/-- A field that can stand in a request, under the name and with the value that were given. -/
def IsProperField (f : String × Bytes) : Prop :=
  isToken f.1 = true ∧ f.2.all isValueByte = true

def Field.ofGiven (f : String × Bytes) : Field :=
  ⟨lowerCase f.1, f.2⟩

theorem Field.make_eq_ok_iff {f : String × Bytes} {field : Field} :
    Field.make f.1 f.2 = .ok field ↔ IsProperField f ∧ field = .ofGiven f := by
  unfold Field.make IsProperField
  cases isToken f.1 with
  | false => simp
  | true =>
      cases f.2.all isValueByte with
      | false => simp
      | true => simp [Field.ofGiven, eq_comm]

theorem mapM_make_eq_ok_iff {given : List (String × Bytes)} {fields : List Field} :
    given.mapM (fun f => Field.make f.1 f.2) = .ok fields ↔
      (∀ f ∈ given, IsProperField f) ∧ fields = given.map .ofGiven := by
  induction given generalizing fields with
  | nil => simp [pure, Except.pure, eq_comm]
  | cons f given ih =>
      rw [List.mapM_cons, List.forall_mem_cons, List.map_cons]
      constructor
      · intro h
        rcases bind_eq_ok_iff.1 h with ⟨field, hfield, h⟩
        rcases bind_eq_ok_iff.1 h with ⟨others, hothers, heq⟩
        cases heq
        rcases Field.make_eq_ok_iff.1 hfield with ⟨hproper, rfl⟩
        rcases ih.1 hothers with ⟨hrest, rfl⟩
        exact ⟨⟨hproper, hrest⟩, rfl⟩
      · rintro ⟨⟨hproper, hrest⟩, rfl⟩
        refine bind_eq_ok_iff.2 ⟨_, Field.make_eq_ok_iff.2 ⟨hproper, rfl⟩, ?_⟩
        exact bind_eq_ok_iff.2 ⟨_, ih.2 ⟨hrest, rfl⟩, rfl⟩

theorem Request.make_eq_ok_iff {method path : String} {given : List (String × Bytes)}
    {body : Bytes} :
    Request.make method path given body = .ok r ↔
      isToken method = true ∧ (∀ f ∈ given, IsProperField f)
      ∧ r = ⟨⟨method, path, given.map .ofGiven⟩, body⟩ := by
  unfold Request.make
  cases isToken method with
  | false => simp [throw, throwThe, MonadExceptOf.throw, bind, Except.bind]
  | true =>
      constructor
      · intro h
        rcases bind_eq_ok_iff.1 h with ⟨fields, hfields, heq⟩
        cases heq
        rcases mapM_make_eq_ok_iff.1 hfields with ⟨hproper, rfl⟩
        exact ⟨rfl, hproper, rfl⟩
      · rintro ⟨_, hproper, rfl⟩
        exact bind_eq_ok_iff.2 ⟨_, mapM_make_eq_ok_iff.2 ⟨hproper, rfl⟩, rfl⟩

theorem values_ofGiven (name method path : String) (given : List (String × Bytes)) :
    (⟨method, path, given.map .ofGiven⟩ : Head).values (lowerCase name) =
      valuesGiven name given := by
  rw [Head.values, List.filter_map, List.map_map]
  rfl

/-! ## The flag -/

/-- To let other origins in changes neither status nor body nor state, and adds no fields but those
about other origins, which are not there otherwise. The header names that are granted are those that
the request asks for, each value byte for byte and all of them in their order. -/
theorem cross_origin_access_adds_its_fields_alone {method path : String}
    {given : List (String × Bytes)} {body : Bytes}
    (h : Request.make method path given body = .ok r) (d : Dispatcher σ) (s : σ) :
    (handle d true r s).1.status = (handle d false r s).1.status
    ∧ (handle d true r s).1.body = (handle d false r s).1.body
    ∧ (handle d true r s).2 = (handle d false r s).2
    ∧ (handle d true r s).1.ordinaryFields = (handle d false r s).1.fields
    ∧ (∀ name ∈ crossOriginNames, (handle d false r s).1.values name = [])
    -- the fields about other origins
    ∧ (handle d true r s).1.values "access-control-allow-origin" =
      (if path = "/rpc" ∧ (method = "OPTIONS" ∨ method = "POST") then [Text.utf8 "*"] else [])
    ∧ (handle d true r s).1.values "access-control-allow-methods" =
      (if path = "/rpc" ∧ method = "OPTIONS" then [Text.utf8 "GET,POST,OPTIONS"] else [])
    ∧ (handle d true r s).1.values "access-control-allow-headers" =
      (if path = "/rpc" ∧ method = "OPTIONS" then
        valuesGiven "Access-Control-Request-Headers" given else []) := by
  rcases Request.make_eq_ok_iff.1 h with ⟨_, _, hr⟩
  have hpath : r.path = path := by rw [hr]
  have hmethod : r.method = method := by rw [hr]
  have hasked : r.values "access-control-request-headers" =
      valuesGiven "Access-Control-Request-Headers" given := by
    have hname : lowerCase "Access-Control-Request-Headers" = "access-control-request-headers" := by
      cbv
    rw [hr, ← hname]
    exact values_ofGiven _ method path given
  rcases handle_eq_grants_append d r s with ⟨status, fields, _, s', hfields, hreply⟩
  rcases fieldValues_grants r with ⟨horigin, hmethods, hheaders⟩
  have hvalues : ∀ name ∈ crossOriginNames, ∀ cors,
      (handle d cors r s).1.values name = fieldValues name (grants cors r) := by
    intro name hname cors
    rw [hreply]
    exact fieldValues_grants_append hname hfields cors r
  rw [hpath, hmethod] at horigin hmethods hheaders
  refine ⟨by rw [hreply, hreply], by rw [hreply, hreply], by rw [hreply, hreply], ?_, ?_, ?_, ?_,
    ?_⟩
  · rw [hreply, hreply, Reply.ordinaryFields, filter_grants_append hfields, grants_off]
    rfl
  · intro name hname
    rw [hvalues name hname, grants_off]
    rfl
  · rw [hvalues _ (by decide), horigin]
    rfl
  · rw [hvalues _ (by decide), hmethods]
    rfl
  · rw [hvalues _ (by decide), hheaders, hasked]
    rfl

/-- Fields that ask for headers twice, with letters in any case. -/
def preflightFields : List (String × Bytes) := [
  ("Access-Control-Request-Headers", Text.utf8 "X-One, x-two"),
  ("accept", Text.utf8 "*/*"),
  ("ACCESS-control-request-HEADERS", Text.utf8 "\t")]

theorem valuesGiven_preflightFields :
    valuesGiven "Access-Control-Request-Headers" preflightFields =
      [Text.utf8 "X-One, x-two", Text.utf8 "\t"] := by
  have hmixed : lowerCase "Access-Control-Request-Headers" = "access-control-request-headers" := by
    cbv
  have hother : lowerCase "accept" = "accept" := by
    cbv
  have hlouder : lowerCase "ACCESS-control-request-HEADERS" = "access-control-request-headers" := by
    cbv
  simp [valuesGiven, preflightFields, hmixed, hother, hlouder]

/-- A preflight is granted what it asks for, and a call whose body cannot be read is let in. -/
theorem cross_origin_access_adds_its_fields_alone_to_each_kind :
    (∃ r, Request.make "OPTIONS" "/rpc" preflightFields [] = .ok r
      ∧ (handle counting true r 0).1.values "access-control-allow-headers" =
        [Text.utf8 "X-One, x-two", Text.utf8 "\t"])
    ∧ ∃ r, Request.make "POST" "/rpc" preflightFields [91] = .ok r
      ∧ (handle counting true r 0).1.values "access-control-allow-origin" = [Text.utf8 "*"]
      ∧ (handle counting true r 0).1.values "access-control-allow-headers" = [] := by
  have hproper : ∀ f ∈ preflightFields, IsProperField f := by
    simp only [preflightFields, List.forall_mem_cons, IsProperField]
    decide
  have hpreflight := Request.make_eq_ok_iff.2
    ⟨show isToken "OPTIONS" = true by decide, hproper, Eq.refl (⟨⟨_, "/rpc", _⟩, []⟩ : Request)⟩
  have hcall := Request.make_eq_ok_iff.2
    ⟨show isToken "POST" = true by decide, hproper, Eq.refl (⟨⟨_, "/rpc", _⟩, [91]⟩ : Request)⟩
  rcases cross_origin_access_adds_its_fields_alone hpreflight counting 0 with
    ⟨_, _, _, _, _, _, _, hgranted⟩
  rcases cross_origin_access_adds_its_fields_alone hcall counting 0 with
    ⟨_, _, _, _, _, horigin, _, hnothing⟩
  refine ⟨⟨_, hpreflight, hgranted.trans ?_⟩, _, hcall, horigin, hnothing⟩
  exact (if_pos ⟨rfl, rfl⟩).trans valuesGiven_preflightFields

end Http
end RpcHost
