import Mathlib
import RpcHost.Http.Body
import RpcHost.Proofs.Http.Target
import RpcHost.Proofs.Rpc.Serving

/-!
# Bodies in frames

What has been collected never exceeds the limit, so a body is turned away just if all its frames
together exceed it, wherever they are cut (`collectFrames_eq`). The main statement,
`frames_leave_no_trace`, is that a body within the limit is answered as if it had come in one piece,
and any other without a call.
-/

namespace RpcHost
namespace Http

open Rpc

variable {σ : Type}

/-! ## Collecting frames -/

/-- What is collected of a body within the limit. -/
def BodyEnd.collected (body : Bytes) : BodyEnd → Collected
  | .complete => .body body
  | .broken => .broken
  | .silent => .silent

@[simp] theorem collectFrames_nil (limit : Nat) (ending : BodyEnd) (body : Bytes) :
    collectFrames limit ending body [] = ending.collected body := by
  cases ending <;> rfl

theorem collectFrames_eq {limit : Nat} (ending : BodyEnd) {body : Bytes} (h : body.length ≤ limit)
    (frames : List Bytes) :
    collectFrames limit ending body frames =
      if limit < (body ++ frames.flatten).length then .tooLarge
      else ending.collected (body ++ frames.flatten) := by
  -- The bytes that were let in stay within the limit, so the next frame has a budget again.
  induction frames generalizing body with
  | nil => simp [Nat.not_lt.2 h]
  | cons frame frames ih =>
      by_cases hframe : limit < body.length + frame.length
      · have hall : limit < (body ++ (frame :: frames).flatten).length := by
          simp only [List.flatten_cons, List.length_append]
          omega
        rw [if_pos hall, collectFrames, if_pos hframe]
      · have hbody : (body ++ frame).length ≤ limit := by
          rw [List.length_append]
          omega
        rw [collectFrames, if_neg hframe, ih hbody, List.flatten_cons, List.append_assoc]

/-- A total that exceeds the limit at some point exceeds it in the end. -/
theorem exists_exceeding_iff {limit : Nat} {frames : List Bytes} :
    (∃ front, front <+: frames ∧ limit < front.flatten.length) ↔ limit < frames.flatten.length := by
  constructor
  · rintro ⟨front, hfront, hexceeds⟩
    exact Nat.lt_of_lt_of_le hexceeds hfront.flatten.length_le
  · intro hexceeds
    exact ⟨frames, List.prefix_rfl, hexceeds⟩

/-! ## Replies -/

theorem respond_eq (d : Dispatcher σ) (cors : Bool) (limit : Nat) (head : Head)
    (delivery : Delivery) (s : σ) :
    respond d cors limit head delivery s =
      if limit < delivery.frames.flatten.length then
        (.plain .payloadTooLarge "payload too large", s)
      else
        match delivery.ending with
        | .complete => handle d cors { head with body := delivery.frames.flatten } s
        | .broken => (.plain .badRequest "bad request", s)
        | .silent => (.plain .requestTimeout "request timeout", s) := by
  have hempty : ([] : Bytes).length ≤ limit := Nat.zero_le limit
  have hcollected := collectFrames_eq delivery.ending hempty delivery.frames
  by_cases hexceeds : limit < delivery.frames.flatten.length
  · rw [List.nil_append, if_pos hexceeds] at hcollected
    rw [if_pos hexceeds, respond, Delivery.collect, hcollected]
  · rw [List.nil_append, if_neg hexceeds] at hcollected
    rw [if_neg hexceeds, respond, Delivery.collect, hcollected]
    cases delivery.ending <;> rfl

/-- The request is answered with this text in plain, and the dispatcher is not called. -/
structure TurnsAway (cors : Bool) (limit : Nat) (head : Head) (delivery : Delivery) (code : Nat)
    (text : String) (d : Dispatcher σ) (s : σ) : Prop where
  code : (respond d cors limit head delivery s).1.status.code = code
  fields : (respond d cors limit head delivery s).1.fields = [.ofText "content-type" "text/plain"]
  body : (respond d cors limit head delivery s).1.body = Text.utf8 text
  state : (respond d cors limit head delivery s).2 = s
  calls : ∀ calls, (respond d.recorded cors limit head delivery (s, calls)).2 = (s, calls)

theorem turnsAway_of_plain {cors : Bool} {limit : Nat} {head : Head} {delivery : Delivery}
    {text : String} (status : Status)
    (h : ∀ {τ : Type} (d : Dispatcher τ) (s : τ),
      respond d cors limit head delivery s = (.plain status text, s))
    (d : Dispatcher σ) (s : σ) :
    TurnsAway cors limit head delivery status.code text d s where
  code := by rw [h]; rfl
  fields := by rw [h]; rfl
  body := by rw [h]; rfl
  state := by rw [h]
  calls calls := by rw [h]

/-- A body that exceeds the limit with any of its frames, or else breaks off, is turned away without
a call. Any other is answered by the routes as if it had come in one piece, however it was cut; the
path that they go by has no query. -/
theorem frames_leave_no_trace (d : Dispatcher σ) (cors : Bool) (limit : Nat) (head : Head)
    (delivery : Delivery) (s : σ) :
    ((∃ front, front <+: delivery.frames ∧ limit < front.flatten.length) →
      TurnsAway cors limit head delivery 413 "payload too large" d s)
    ∧ ((∀ front, front <+: delivery.frames → front.flatten.length ≤ limit) →
      (delivery.ending = .broken → TurnsAway cors limit head delivery 400 "bad request" d s)
      ∧ (delivery.ending = .complete →
        respond d cors limit head delivery s =
          handle d cors { head with body := delivery.frames.flatten } s))
    ∧ (∀ other : Delivery, other.frames.flatten = delivery.frames.flatten →
        other.ending = delivery.ending →
        respond d cors limit head other s = respond d cors limit head delivery s)
    -- the path that the routes see is that of the target in front of its query
    ∧ (∀ bytes opening rest, readOpening bytes = .ok (opening, rest) →
        ∃ target, HasTarget bytes target
          ∧ readTarget (beforeQuery target.toList) = some opening.head.path)
    ∧ ∀ target path, readTarget ('/' :: target) = some path →
        path = String.ofList (beforeQuery ('/' :: target)) := by
  refine ⟨?_, ?_, ?_, fun _ _ _ => path_of_readOpening, fun _ _ => readTarget_slash⟩
  · intro hexceeds
    refine turnsAway_of_plain .payloadTooLarge ?_ d s
    intro τ d s
    rw [respond_eq, if_pos (exists_exceeding_iff.1 hexceeds)]
  · intro hwithin
    have hall := Nat.not_lt.2 (hwithin delivery.frames List.prefix_rfl)
    refine ⟨?_, ?_⟩
    · intro hending
      refine turnsAway_of_plain .badRequest ?_ d s
      intro τ d s
      rw [respond_eq, if_neg hall, hending]
    · intro hending
      rw [respond_eq, if_neg hall, hending]
  · intro other hframes hending
    rw [respond_eq, respond_eq, hframes, hending]

def callHead : Head := ⟨"POST", rpcPath, []⟩

/-- The empty batch in pieces, two bytes in all. -/
def emptyBatch (ending : BodyEnd) : Delivery := ⟨[[91], [], [93]], ending⟩

theorem within_emptyBatch (ending : BodyEnd) :
    ∀ front, front <+: (emptyBatch ending).frames → front.flatten.length ≤ 2 := by
  intro front hfront
  exact hfront.flatten.length_le

/-- An opening whose target has a query. -/
def queriedOpening : Bytes :=
  Text.utf8 "POST /rpc?x HTTP/1.1\r\n\r\n"

theorem readOpening_queriedOpening :
    readOpening queriedOpening = .ok (⟨.current, callHead, .sized 0⟩, []) := by
  cbv

/-- Two bytes are within a limit of two, and one byte is not within a limit of none. -/
theorem frames_leave_no_trace_at_the_limit :
    TurnsAway true 0 ⟨"GET", testPath, []⟩ ⟨[[], [91]], .complete⟩ 413 "payload too large"
      counting 0
    ∧ TurnsAway true 2 callHead (emptyBatch .broken) 400 "bad request" counting 0
    ∧ respond counting true 2 callHead (emptyBatch .complete) 0 =
        handle counting true { callHead with body := [91, 93] } 0
    ∧ respond counting true 2 callHead ⟨[[91, 93]], .complete⟩ 0 =
        respond counting true 2 callHead (emptyBatch .complete) 0
    ∧ (∃ target, HasTarget queriedOpening target
      ∧ readTarget (beforeQuery target.toList) = some rpcPath)
    ∧ rpcPath = String.ofList (beforeQuery ['/', 'r', 'p', 'c', '?', 'x']) := by
  have hturned := frames_leave_no_trace counting true 0 ⟨"GET", testPath, []⟩
    ⟨[[], [91]], .complete⟩ 0
  have hbroken := frames_leave_no_trace counting true 2 callHead (emptyBatch .broken) 0
  have hcomplete := frames_leave_no_trace counting true 2 callHead (emptyBatch .complete) 0
  have htarget : readTarget ['/', 'r', 'p', 'c', '?', 'x'] = some rpcPath := by
    decide
  refine ⟨hturned.1 ⟨_, List.prefix_rfl, by decide⟩, (hbroken.2.1 (within_emptyBatch _)).1 rfl,
    (hcomplete.2.1 (within_emptyBatch _)).2 rfl, hcomplete.2.2.1 _ rfl rfl,
    hcomplete.2.2.2.1 _ _ _ readOpening_queriedOpening, hcomplete.2.2.2.2 _ _ htarget⟩

end Http
end RpcHost
