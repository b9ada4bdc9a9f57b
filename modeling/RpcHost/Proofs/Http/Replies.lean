import Mathlib
import RpcHost.Http.Routes
import RpcHost.Proofs.Json.Record
import RpcHost.Proofs.Rpc.Nesting
import RpcHost.Proofs.Rpc.RoundTrip

/-!
# Replies are read back

What goes out as the body of a reply comes in by the same reader. Every envelope goes out as it is,
and is read back if the reader goes that deep (`Carries`). The main statement, `replies_read_back`,
adds how many levels a body may have so that its answer is read back. The limit is exact: the echo
of a body that is as deep as the reader goes cannot be read any more (`json?_echo`).
-/

namespace RpcHost
namespace Http

open Json Rpc MethodTable

variable {σ τ : Type}

/-- A call: `POST /rpc` with these fields and this body. -/
def callOf (fields : List Field) (body : Bytes) : Request :=
  ⟨⟨"POST", rpcPath, fields⟩, body⟩

theorem handle_callOf (d : Dispatcher σ) (cors : Bool) (fields : List Field) (body : Bytes)
    (s : σ) : handle d cors (callOf fields body) s =
      (jsonReply cors (process d body s).1, (process d body s).2) := by
  have hpath : ¬ ((callOf fields body).path = testPath ∧ (callOf fields body).method = "GET") := by
    rintro ⟨hpath, _⟩
    exact absurd (show rpcPath = testPath from hpath) (by decide)
  rw [handle, if_neg hpath]
  rfl

/-! ## What a reply carries -/

/-- The reply goes out with the status of the answer and with its envelope, and no envelope makes it
fail. It is read back as that envelope if the reader goes that deep, and not at all otherwise;
numbers have to be 64-bit words, and the members of all objects inside are sorted. -/
structure Carries (reply : Reply) (a : Answer) : Prop where
  status : reply.status = a.status
  body : reply.body = Text.utf8 a.envelope.render
  contentType : Field.ofText "content-type" "application/json" ∈ reply.fields
  ne_internalError : reply ≠ .plain .serverError "internal error"
  json?_iff : a.envelope.Ordered → a.envelope.WordNumbers →
    (reply.json? = some a.envelope ↔ a.envelope.depth ≤ 127)
  json?_none_iff : a.envelope.Ordered → a.envelope.WordNumbers →
    (reply.json? = none ↔ 127 < a.envelope.depth)

theorem json?_jsonReply (cors : Bool) (a : Answer) :
    (jsonReply cors a).json? = (readString a.envelope.render).toOption := by
  rw [Reply.json?, jsonReply_eq, readBytes_utf8]

theorem carries_jsonReply (cors : Bool) (a : Answer) : Carries (jsonReply cors a) a := by
  have hcontent : Field.ofText "content-type" "application/json" ∈ (jsonReply cors a).fields := by
    rw [jsonReply_eq]
    exact List.mem_append_right _ List.mem_cons_self
  refine ⟨by rw [jsonReply_eq], by rw [jsonReply_eq], hcontent, ?_, ?_, ?_⟩
  · -- A plain reply is of another type of content.
    intro hplain
    rw [hplain] at hcontent
    have hsame := congrArg Field.value (List.mem_singleton.1 hcontent)
    exact absurd hsame (by decide)
  · intro hordered hwords
    rw [json?_jsonReply, toOption_eq_some_iff]
    exact (readString_isOk_iff_depth hordered hwords (spelledBy_render hwords)).1
  · intro hordered hwords
    rw [json?_jsonReply, toOption_eq_none_iff]
    exact (readString_isOk_iff_depth hordered hwords (spelledBy_render hwords)).2

/-! ## The methods that are there from the start -/

/-- A dispatcher that puts ordered values together to ordered values. -/
def KeepsOrder (d : Dispatcher σ) : Prop :=
  AddsLevel (fun _ v => v.Ordered) (fun _ => True) d

theorem ordered_process {d : Dispatcher σ} (hd : KeepsOrder d) (body : Bytes) (s : σ) :
    (process d body s).1.envelope.Ordered :=
  nesting_ordered.process (n := 0) hd trivial fun _ => ordered_of_readBytes

/-- An echo is deeper than what it echoes. -/
theorem depth_lt_of_echo {r : Rpc.Request} (hr : request? r.toValue = some r)
    (hname : r.method = "echo") {body : Bytes} (hread : readBytes body = .ok r.toValue)
    (state : τ) :
    r.toValue.depth < (process serve body (builtin state)).1.envelope.depth := by
  have hresponse : (dispatch serve r (builtin state)).1 = .success r.id r.toValue := by
    rw [dispatch, serve_builtin, MethodTable.builtinOutcome, hname]
    rfl
  have henvelope : (process serve body (builtin state)).1.envelope =
      (Response.success r.id r.toValue).toValue := by
    have hsingle : ∀ items, r.toValue ≠ .array items := by
      intro items heq
      cases heq
    rw [process_single serve hread hsingle, serveOne_eq, hr]
    exact congrArg Response.toValue hresponse
  have hresult : (Response.success r.id r.toValue).toValue.member? "result" = some r.toValue :=
    Response.member?_toValue _ "result"
  rw [henvelope]
  exact Value.depth_lt_of_member? hresult

/-- The echo of a request that is as deep as the reader goes cannot be read. -/
theorem json?_echo {r : Rpc.Request} (hr : request? r.toValue = some r) (hname : r.method = "echo")
    (hfits : r.toValue.Fits 127) (hdepth : 127 ≤ r.toValue.depth) {body : Bytes}
    (hread : readBytes body = .ok r.toValue) (cors : Bool) (fields : List Field) (state : τ) :
    (handle serve cors (callOf fields body) (builtin state)).1.json? = none := by
  have hbody : ∀ v, readBytes body = .ok v → v.Fits 127 := by
    intro v hv
    rw [hread] at hv
    exact Except.ok.inj hv ▸ hfits
  have henvelope := nesting_fits.process (nesting_fits.addsLevel_serve state) rfl hbody
  have hdeeper := depth_lt_of_echo hr hname hread state
  -- The envelope is ordered and has words alone, so it is its depth that stops the reader.
  rw [handle_callOf]
  exact ((carries_jsonReply cors _).json?_none_iff henvelope.ordered henvelope.words).2 (by omega)

/-- So many arrays around each other. -/
def nested : Nat → Value
  | 0 => .null
  | n + 1 => .array [nested n]

theorem fits_nested (n : Nat) : (nested n).Fits n := by
  induction n with
  | zero => exact nesting_fits.null
  | succ n ih => exact nesting_fits.array (List.forall_mem_singleton.2 ih)

theorem depth_nested (n : Nat) : (nested n).depth = n := by
  induction n with
  | zero => rfl
  | succ n ih => simp [nested, Value.depth, Value.depthItems, ih]

/-- A request to echo so many arrays around each other, and one more. -/
def nestedEcho (n : Nat) : Rpc.Request :=
  .new "echo" (some (nested (n + 1))) .null

theorem fits_nestedEcho (n : Nat) : (nestedEcho n).toValue.Fits (n + 2) := by
  refine nesting_fits.toValue ⟨nesting_fits.mono (Nat.zero_le _) nesting_fits.null, ?_⟩
  intro p hp
  cases hp
  exact fits_nested (n + 1)

theorem depth_nestedEcho (n : Nat) : (nestedEcho n).toValue.depth = n + 2 := by
  have hparams : (nestedEcho n).toValue.member? "params" = some (nested (n + 1)) :=
    (nestedEcho n).member?_toValue "params"
  have hlower := Value.depth_lt_of_member? hparams
  have hupper := (fits_nestedEcho n).shallow
  rw [depth_nested] at hlower
  omega

theorem request?_nestedEcho (n : Nat) :
    request? (nestedEcho n).toValue = some (nestedEcho n) := by
  refine request?_toValue rfl ?_
  intro p hp
  cases hp
  rfl

/-- What is written of such a request is read as it, as deep as the reader goes. -/
theorem readBytes_nestedEcho {n : Nat} (h : n + 2 ≤ 127) :
    readBytes (Text.utf8 (nestedEcho n).toValue.render) = .ok (nestedEcho n).toValue :=
  (readBytes_utf8 _).trans (readString_of_spelledBy
    (nesting_fits.mono h (fits_nestedEcho n)) (spelledBy_render (fits_nestedEcho n).words))

/-- Every answer to a call goes out as it is and is read back if the reader goes that deep. The
methods that are there from the start answer one level above the body, and three levels at least; so
what they answer is read back for every body of up to 126 levels, and not for every body of 127. -/
theorem replies_read_back :
    (∀ (σ : Type) (d : Dispatcher σ) cors fields body s,
      Carries (handle d cors (callOf fields body) s).1 (process d body s).1
      ∧ (handle d cors (callOf fields body) s).2 = (process d body s).2
      ∧ (KeepsOrder d → (process d body s).1.envelope.Ordered))
    ∧ (∀ cors a, Carries (jsonReply cors a) a)
    -- the methods that are there from the start
    ∧ (∀ (τ : Type) (state : τ) body,
        (process serve body (builtin state)).2 = builtin state
        ∧ ∀ v, readBytes body = .ok v →
            (process serve body (builtin state)).1.envelope.depth ≤ max 3 (v.depth + 1))
    ∧ (∀ (τ : Type) (state : τ) cors fields body,
        (∀ v, readBytes body = .ok v → v.WordNumbers ∧ v.depth ≤ 126) →
        (handle serve cors (callOf fields body) (builtin state)).1.json? =
          some (process serve body (builtin state)).1.envelope)
    -- one level more is too much for some bodies that are read
    ∧ ∃ body v, readBytes body = .ok v ∧ v.WordNumbers ∧ v.depth = 127
      ∧ ∀ (τ : Type) (state : τ) cors fields,
          (handle serve cors (callOf fields body) (builtin state)).1.json? = none := by
  refine ⟨?_, carries_jsonReply, ?_, ?_, ?_⟩
  · intro σ d cors fields body s
    rw [handle_callOf]
    exact ⟨carries_jsonReply cors _, rfl, fun hd => ordered_process hd body s⟩
  · intro τ state body
    refine ⟨(nesting_depth.addsLevel_serve state).process rfl body, ?_⟩
    intro v hv
    refine nesting_depth.process (nesting_depth.addsLevel_serve state) rfl ?_
    intro w hw
    rw [hv] at hw
    exact Nat.le_of_eq (congrArg Value.depth (Except.ok.inj hw)).symm
  · intro τ state cors fields body hbody
    have hfits : (process serve body (builtin state)).1.envelope.Fits 127 := by
      refine nesting_fits.process (n := 126) (nesting_fits.addsLevel_serve state) rfl ?_
      intro v hv
      exact ⟨ordered_of_readBytes hv, (hbody v hv).1, (hbody v hv).2⟩
    rw [handle_callOf]
    exact ((carries_jsonReply cors _).json?_iff hfits.ordered hfits.words).2 hfits.shallow
  · have hread := readBytes_nestedEcho (n := 125) (Nat.le_refl 127)
    have hfits := fits_nestedEcho 125
    have hdepth := depth_nestedEcho 125
    refine ⟨_, _, hread, hfits.words, hdepth, ?_⟩
    intro τ state cors fields
    exact json?_echo (request?_nestedEcho 125) rfl hfits (Nat.le_of_eq hdepth.symm) hread cors
      fields state

theorem keepsOrder_counting : KeepsOrder counting where
  outcome _ _ := trivial
  stays _ := trivial

/-- The echo of 126 levels is an envelope of 127, which are read, and one more level is not. -/
theorem replies_read_back_up_to_the_limit :
    (∃ body, readBytes body = .ok (nestedEcho 124).toValue
      ∧ (process serve body (builtin ())).1.envelope.depth = 127
      ∧ (handle serve true (callOf [] body) (builtin ())).1.json? =
          some (process serve body (builtin ())).1.envelope
      ∧ (process counting body 0).1.envelope.Ordered)
    ∧ (jsonReply true ⟨.ok, nested 127⟩).json? = some (nested 127)
    ∧ (jsonReply true ⟨.ok, nested 128⟩).json? = none := by
  rcases replies_read_back with ⟨hevery, hcarries, hdepth, hback, _⟩
  have hlevels := depth_nestedEcho 124
  refine ⟨?_, ?_, ?_⟩
  · have hbody : ∃ body, readBytes body = .ok (nestedEcho 124).toValue :=
      ⟨_, readBytes_nestedEcho (by omega)⟩
    rcases hbody with ⟨body, hread⟩
    have hlower := depth_lt_of_echo (request?_nestedEcho 124) rfl hread ()
    have hupper := (hdepth Unit () body).2 _ hread
    refine ⟨body, hread, by omega, hback Unit () true [] body ?_, ?_⟩
    · intro v hv
      rw [hread] at hv
      rw [← Except.ok.inj hv]
      exact ⟨(fits_nestedEcho 124).words, Nat.le_of_eq hlevels⟩
    · exact (hevery Nat counting true [] body 0).2.2 keepsOrder_counting
  · exact ((hcarries true _).json?_iff (fits_nested 127).ordered (fits_nested 127).words).2
      (Nat.le_of_eq (depth_nested 127))
  · exact ((hcarries true _).json?_none_iff (fits_nested 128).ordered (fits_nested 128).words).2
      (Nat.le_of_eq (depth_nested 128).symm)

end Http
end RpcHost
