import RpcHost.Proofs.Http.Replies

/-!
# What each route reads

The method and the path alone decide what becomes of a request (`Route.of`, `handle_eq`). From there
each route has its own part to read: a call the body, a preflight the header names that are asked
for, and all others nothing. The main statement, `each_route_reads_its_own_part`, compares replies
to requests of one method and one path that differ elsewhere. What a call is answered is carried by
its reply, and read back if it is not too deep for the reader: `deepest_echo_is_not_read_back`.
-/

namespace RpcHost
namespace Http

open Json Rpc MethodTable

variable {σ : Type} {method path : String} {cors : Bool}

/-! ## Routes -/

/-- What becomes of a request. -/
inductive Route where
  | preflight
  | call
  | fixed (status : Status) (text : String)
  deriving DecidableEq, Repr

def Route.of (method path : String) : Route :=
  if path = rpcPath then
    if method = "OPTIONS" then .preflight
    else if method = "POST" then .call
    else .fixed .badRequest "bad request"
  else if path = testPath ∧ method = "GET" then .fixed .ok "Testing 1,2,3"
  else .fixed .notFound "not found"

/-- All that can become of a request: only a call reaches the dispatcher. -/
theorem handle_eq (d : Dispatcher σ) (cors : Bool) (r : Request) (s : σ) :
    handle d cors r s =
      match Route.of r.method r.path with
      | .preflight => (preflight cors r, s)
      | .call => (jsonReply cors (process d r.body s).1, (process d r.body s).2)
      | .fixed status text => (.plain status text, s) := by
  by_cases hpath : r.path = rpcPath
  · -- The liveness probe comes first, but it has another path.
    have hprobe : ¬ (r.path = testPath ∧ r.method = "GET") := by
      rw [hpath]
      rintro ⟨htest, _⟩
      exact absurd htest (by decide)
    rw [handle, Route.of, if_neg hprobe, if_neg (not_not_intro hpath), if_pos hpath]
    split
    · rfl
    · split <;> rfl
  · rw [handle, Route.of, if_neg hpath, if_pos hpath]
    split <;> rfl

theorem Route.of_eq_call_iff :
    Route.of method path = .call ↔ path = rpcPath ∧ method = "POST" := by
  unfold Route.of
  split_ifs <;> simp_all

theorem Route.of_eq_preflight_iff :
    Route.of method path = .preflight ↔ path = rpcPath ∧ method = "OPTIONS" := by
  unfold Route.of
  split_ifs <;> simp_all

theorem Route.of_elsewhere (hpath : path ≠ rpcPath)
    (hprobe : ¬ (path = testPath ∧ method = "GET")) :
    Route.of method path = .fixed .notFound "not found" := by
  rw [Route.of, if_neg hpath, if_neg hprobe]

theorem Route.of_other_method (hpath : path = rpcPath) (hoptions : method ≠ "OPTIONS")
    (hpost : method ≠ "POST") : Route.of method path = .fixed .badRequest "bad request" := by
  rw [Route.of, if_pos hpath, if_neg hoptions, if_neg hpost]

/-! ## What is read -/

/-- A preflight reads no other fields than those with the header names that are asked for. -/
theorem preflight_congr {r other : Request} (cors : Bool)
    (h : r.values "access-control-request-headers" =
      other.values "access-control-request-headers") :
    preflight cors r = preflight cors other := by
  simp only [preflight, grantedHeaders, h]

/-- Without a call the dispatcher is left alone, and neither it nor the body shows in the reply. -/
theorem handle_of_ne_call (h : Route.of method path ≠ .call) (cors : Bool) (fields : List Field) :
    ∃ reply, ∀ (σ : Type) (d : Dispatcher σ) (body : Bytes) (s : σ),
      handle d cors ⟨⟨method, path, fields⟩, body⟩ s = (reply, s) := by
  cases hroute : Route.of method path with
  | preflight =>
      refine ⟨preflight cors ⟨⟨method, path, fields⟩, []⟩, ?_⟩
      intro σ d body s
      rw [handle_eq, hroute]
      exact congrArg (·, s) (preflight_congr cors rfl)
  | call => exact absurd hroute h
  | fixed status text =>
      refine ⟨.plain status text, ?_⟩
      intro σ d body s
      rw [handle_eq, hroute]

/-- Fields show in the reply to a preflight, and if no other origins are let in not even there. -/
theorem handle_fields (h : Route.of method path = .preflight → cors = false) (d : Dispatcher σ)
    (fields others : List Field) (body : Bytes) (s : σ) :
    handle d cors ⟨⟨method, path, fields⟩, body⟩ s =
      handle d cors ⟨⟨method, path, others⟩, body⟩ s := by
  rw [handle_eq, handle_eq]
  cases hroute : Route.of method path with
  | preflight =>
      rw [h hroute]
      rfl
  | call => rfl
  | fixed status text => rfl

/-! ## Two requests of one method and one path -/

/-- Each part of a request shows in the replies of its own route alone. Only a call reads the body
and reaches the dispatcher, and its reply carries what is made of the body whatever its fields are;
read as JSON again, that is the envelope itself if it has words for numbers and at most 127 levels.
Fields show in the reply to a preflight alone, and only while other origins are let in. -/
theorem each_route_reads_its_own_part (method path : String) (cors : Bool) :
    (¬ (path = "/rpc" ∧ method = "POST") → ∀ fields, ∃ reply,
      ∀ (σ : Type) (d : Dispatcher σ) body s,
        handle d cors ⟨⟨method, path, fields⟩, body⟩ s = (reply, s)
        ∧ ∀ calls, handle d.recorded cors ⟨⟨method, path, fields⟩, body⟩ (s, calls) =
            (reply, s, calls))
    -- a call
    ∧ (path = "/rpc" ∧ method = "POST" → ∀ (σ : Type) (d : Dispatcher σ) body s, ∃ reply,
        (∀ fields, handle d cors ⟨⟨method, path, fields⟩, body⟩ s =
          (reply, (process d body s).2))
        ∧ Carries reply (process d body s).1
        ∧ reply.json? = (readString (process d body s).1.envelope.render).toOption
        ∧ (KeepsOrder d → (process d body s).1.envelope.Ordered))
    -- fields
    ∧ (¬ (path = "/rpc" ∧ method = "OPTIONS" ∧ cors = true) →
        ∀ (σ : Type) (d : Dispatcher σ) fields others body s,
          handle d cors ⟨⟨method, path, fields⟩, body⟩ s =
            handle d cors ⟨⟨method, path, others⟩, body⟩ s)
    ∧ (path = "/rpc" ∧ method = "OPTIONS" →
        ∀ (σ : Type) (d : Dispatcher σ) fields others body s,
          (⟨method, path, fields⟩ : Head).values "access-control-request-headers" =
            (⟨method, path, others⟩ : Head).values "access-control-request-headers" →
          handle d cors ⟨⟨method, path, fields⟩, body⟩ s =
            handle d cors ⟨⟨method, path, others⟩, body⟩ s)
    -- all other routes
    ∧ ∀ (σ : Type) (d : Dispatcher σ) fields body s,
        (path = "/test" ∧ method = "GET" →
          handle d cors ⟨⟨method, path, fields⟩, body⟩ s = (.plain .ok "Testing 1,2,3", s))
        ∧ (path ≠ "/rpc" → ¬ (path = "/test" ∧ method = "GET") →
          handle d cors ⟨⟨method, path, fields⟩, body⟩ s = (.plain .notFound "not found", s))
        ∧ (path = "/rpc" → method ≠ "OPTIONS" → method ≠ "POST" →
          handle d cors ⟨⟨method, path, fields⟩, body⟩ s =
            (.plain .badRequest "bad request", s)) := by
  refine ⟨?_, ?_, ?_, ?_, ?_⟩
  · intro hcall fields
    rcases handle_of_ne_call (mt Route.of_eq_call_iff.1 hcall) cors fields with ⟨reply, hreply⟩
    exact ⟨reply, fun σ d body s =>
      ⟨hreply σ d body s, fun calls => hreply _ d.recorded body (s, calls)⟩⟩
  · rintro ⟨rfl, rfl⟩ σ d body s
    refine ⟨jsonReply cors (process d body s).1, fun fields => handle_callOf d cors fields body s,
      carries_jsonReply cors _, json?_jsonReply cors _, fun hd => ordered_process hd body s⟩
  · intro hfields σ d fields others body s
    refine handle_fields ?_ d fields others body s
    intro hroute
    rcases Route.of_eq_preflight_iff.1 hroute with ⟨hpath, hmethod⟩
    exact Bool.eq_false_iff.2 fun hcors => hfields ⟨hpath, hmethod, hcors⟩
  · rintro hpreflight σ d fields others body s hasked
    rw [handle_eq, handle_eq, Route.of_eq_preflight_iff.2 hpreflight]
    exact congrArg (·, s) (preflight_congr cors hasked)
  · intro σ d fields body s
    refine ⟨?_, ?_, ?_⟩
    · rintro ⟨rfl, rfl⟩
      rfl
    · intro hpath hprobe
      rw [handle_eq, Route.of_elsewhere hpath hprobe]
    · intro hpath hoptions hpost
      rw [handle_eq, Route.of_other_method hpath hoptions hpost]

/-- A preflight whose body is no JSON, a call, and two requests that look like one. -/
theorem each_route_reads_its_own_part_of_some :
    (∃ reply, handle counting true ⟨⟨"OPTIONS", "/rpc", []⟩, [91]⟩ 0 = (reply, 0)
      ∧ handle serve true ⟨⟨"OPTIONS", "/rpc", []⟩, []⟩ (builtin ()) = (reply, builtin ()))
    ∧ (∃ reply, handle counting true ⟨⟨"POST", "/rpc", []⟩, Text.utf8 call.text⟩ 3 = (reply, 4)
      ∧ reply.json? = some (Response.success call.id .null).toValue)
    ∧ handle counting true ⟨⟨"POST", "/rpc/", []⟩, Text.utf8 call.text⟩ 3 =
        (.plain .notFound "not found", 3)
    ∧ handle counting true ⟨⟨"post", "/rpc", []⟩, Text.utf8 call.text⟩ 3 =
        (.plain .badRequest "bad request", 3) := by
  have hprocess : process counting (Text.utf8 call.text) 3 =
      (.single ⟨.ok, .success call.id .null⟩, 4) := by
    have hread : readBytes (Text.utf8 call.text) = .ok call.toValue :=
      (readBytes_utf8 _).trans (by cbv)
    rw [process_single counting hread (by rintro items ⟨⟩)]
    cbv
  refine ⟨?_, ?_, ?_, ?_⟩
  · rcases (each_route_reads_its_own_part "OPTIONS" "/rpc" true).1 (by decide) [] with
      ⟨reply, hreply⟩
    exact ⟨reply, (hreply Nat counting [91] 0).1, (hreply _ serve [] (builtin ())).1⟩
  · rcases (each_route_reads_its_own_part "POST" "/rpc" true).2.1 ⟨rfl, rfl⟩ Nat counting
      (Text.utf8 call.text) 3 with ⟨reply, hreply, _, hread, _⟩
    rw [hprocess] at hreply hread
    refine ⟨reply, hreply [], hread.trans ?_⟩
    cbv
  · rcases each_route_reads_its_own_part "POST" "/rpc/" true with ⟨_, _, _, _, hplain⟩
    exact (hplain Nat counting [] _ 3).2.1 (by decide) (by decide)
  · rcases each_route_reads_its_own_part "post" "/rpc" true with ⟨_, _, _, _, hplain⟩
    exact (hplain Nat counting [] _ 3).2.2 rfl (by decide) (by decide)

def deepestEcho : Bytes :=
  Text.utf8 (nestedEcho 125).toValue.render

/-- The body is as deep as the reader goes, and its echo is one level deeper. -/
theorem deepest_echo_is_not_read_back :
    (handle serve false (callOf [] deepestEcho) (builtin ())).1.json? ≠
      some (process serve deepestEcho (builtin ())).1.envelope := by
  have hunread := json?_echo (request?_nestedEcho 125) rfl (fits_nestedEcho 125)
    (Nat.le_of_eq (depth_nestedEcho 125).symm) (readBytes_nestedEcho (Nat.le_refl 127)) false [] ()
  rw [deepestEcho, hunread]
  rintro ⟨⟩

end Http
end RpcHost
