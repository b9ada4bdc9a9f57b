import Mathlib
import RpcHost.Proofs.Rpc.Serving

/-!
# Batches

A body that reads as an array is answered item by item. The main statement, `batch_is_in_order_run`,
says that the answer holds at each place what the item there is served from the state that the items
before it left, with the worst status of all; that the valid items are dispatched once each and in
order, whatever becomes of the others; and that a batch falls apart at any place into two batches.
-/

namespace RpcHost
namespace Rpc

open Json Http

variable {σ : Type}

/-! ## The status of a batch -/

theorem code_foldl_worse (served : List Served) (worst : Status) :
    (served.foldl (fun worst s => worst.worse s.status) worst).code =
      (served.map (·.status.code)).foldl max worst.code := by
  induction served generalizing worst with
  | nil => rfl
  | cons one rest ih => simpa using ih (worst.worse one.status)

theorem code_batch (served : List Served) :
    (Answer.batch served).status.code = (served.map (·.status.code)).foldl max 200 :=
  code_foldl_worse served .ok

/-- No status is better than the one that an empty batch has. -/
theorem le_code (status : Status) : 200 ≤ status.code := by
  cases status <;> decide

theorem code_batch_append (front back : List Served) :
    (Answer.batch (front ++ back)).status.code =
      max (Answer.batch front).status.code (Answer.batch back).status.code := by
  -- A batch starts from 200, and the second one adds nothing by starting from there again.
  have hstart : (Answer.batch front).status.code =
      max (Answer.batch front).status.code 200 := by
    have := le_code (Answer.batch front).status
    omega
  calc
    (Answer.batch (front ++ back)).status.code
        = (back.map (·.status.code)).foldl max (Answer.batch front).status.code := by
          rw [code_batch, code_batch, List.map_append, List.foldl_append]
    _ = (back.map (·.status.code)).foldl max (max (Answer.batch front).status.code 200) := by
          rw [← hstart]
    _ = max (Answer.batch front).status.code ((back.map (·.status.code)).foldl max 200) :=
          List.foldl_assoc
    _ = max (Answer.batch front).status.code (Answer.batch back).status.code := by
          rw [code_batch back]

/-! ## The run of a batch -/

/-- Recording the calls changes no answer and no state. -/
theorem process_recorded (d : Dispatcher σ) {body : Bytes} {xs : List Value}
    (h : readBytes body = .ok (.array xs)) (s : σ) (calls : List Request) :
    process d.recorded body (s, calls) =
      ((process d body s).1, (process d body s).2, calls ++ xs.filterMap request?) := by
  have hserved : servedInOrder d.recorded xs (s, calls) = servedInOrder d xs s := by
    have hfst := congrArg Prod.fst (serveAll_recorded d xs s calls)
    simpa using hfst
  have hstate : stateAfter d.recorded xs (s, calls) =
      (stateAfter d xs s, calls ++ xs.filterMap request?) := by
    have hsnd := congrArg Prod.snd (serveAll_recorded d xs s calls)
    simpa using hsnd
  rw [process_batch d.recorded h, process_batch d h, hserved, hstate]

theorem process_append (d : Dispatcher σ) {body more both : Bytes} {xs ys : List Value}
    (hbody : readBytes body = .ok (.array xs)) (hmore : readBytes more = .ok (.array ys))
    (hboth : readBytes both = .ok (.array (xs ++ ys))) (s : σ) :
    ∃ front back,
      (process d body s).1.envelope = .array front
      ∧ (process d more (process d body s).2).1.envelope = .array back
      ∧ (process d both s).1.envelope = .array (front ++ back)
      ∧ (process d both s).1.status.code =
          max (process d body s).1.status.code
            (process d more (process d body s).2).1.status.code
      ∧ (process d both s).2 = (process d more (process d body s).2).2 := by
  rw [process_batch d hbody, process_batch d hmore, process_batch d hboth,
    servedInOrder_append, stateAfter_append]
  refine ⟨_, _, rfl, rfl, ?_, code_batch_append _ _, rfl⟩
  simp [Answer.batch]

/-- A body that reads as an array is answered in order. The dispatcher, `d`, is any machine; what it
is called with is seen from outside by recording its calls. -/
theorem batch_is_in_order_run (d : Dispatcher σ) (s : σ) {body : Bytes} {xs : List Value}
    (hbody : readBytes body = .ok (.array xs)) :
    -- place by place, what each item is served from the state that those before it left
    (process d body s).1.envelope = .array ((servedInOrder d xs s).map (·.response.toValue))
    ∧ (process d body s).1.status.code =
        ((servedInOrder d xs s).map (·.status.code)).foldl max 200
    ∧ (process d body s).2 = stateAfter d xs s
    -- which is what an item gets that is sent alone from that state
    ∧ (∀ i v, xs[i]? = some v → (∀ items, v ≠ .array items) →
        ∀ alone, readBytes alone = .ok v → ∃ served,
          (servedInOrder d xs s)[i]? = some served
          ∧ process d alone (stateAfter d (xs.take i) s) =
              (.single served, stateAfter d (xs.take (i + 1)) s))
    -- the valid items are dispatched, once each and in order, and no others
    ∧ (∀ calls, ∃ requests, requests.map some = (xs.filter isRequest).map Request.ofValue?
        ∧ process d.recorded body (s, calls) =
            ((process d body s).1, (process d body s).2, calls ++ requests))
    -- two batches one after the other are one batch
    ∧ (∀ ys more both, readBytes more = .ok (.array ys) →
        readBytes both = .ok (.array (xs ++ ys)) → ∃ front back,
          (process d body s).1.envelope = .array front
          ∧ (process d more (process d body s).2).1.envelope = .array back
          ∧ (process d both s).1.envelope = .array (front ++ back)
          ∧ (process d both s).1.status.code =
              max (process d body s).1.status.code
                (process d more (process d body s).2).1.status.code
          ∧ (process d both s).2 = (process d more (process d body s).2).2) := by
  have hprocess := process_batch d hbody s
  refine ⟨?_, ?_, ?_, ?_, ?_, ?_⟩
  · simp [hprocess, Answer.batch]
  · simpa [hprocess] using code_batch (servedInOrder d xs s)
  · simp [hprocess]
  · intro i v hi hne alone halone
    refine ⟨(serveOne d v (stateAfter d (xs.take i) s)).1, ?_, ?_⟩
    · rw [getElem?_servedInOrder, hi]
      rfl
    · rw [process_single d halone hne, stateAfter_take_succ hi]
  · intro calls
    exact ⟨xs.filterMap request?, map_filterMap_request? xs, process_recorded d hbody s calls⟩
  · intro ys more both hmore hboth
    exact process_append d hbody hmore hboth s

/-- Crashes when it is called first and answers later calls with the number of those before. -/
def faltering : Dispatcher Nat := fun _ calls =>
  (if calls = 0 then .crash else .result (.number (.integer calls)), calls + 1)

def call : Request :=
  .new "m" none (.number (.integer 1))

/-- A call, a value that is no request, and the call again. -/
def callTwice : List Value :=
  [call.toValue, .number (.integer 5), call.toValue]

theorem readBytes_callTwice :
    readBytes (Text.utf8 (Value.array callTwice).render) = .ok (.array callTwice) :=
  (readBytes_utf8 _).trans (by cbv)

/-- The crash comes first. It costs the batch its status and no later item its answer. -/
theorem batch_is_in_order_run_past_crash :
    (process faltering (Text.utf8 (Value.array callTwice).render) 0).1.envelope =
        .array [(Response.failure call.id (.internal "Internal error")).toValue,
          (Response.failure .null .rejected).toValue,
          (Response.success call.id (.number (.integer 1))).toValue]
    ∧ (process faltering (Text.utf8 (Value.array callTwice).render) 0).1.status.code = 500
    ∧ (process faltering (Text.utf8 (Value.array callTwice).render) 0).2 = 2
    ∧ (process faltering (Text.utf8 call.text) 1).1 =
        .single ⟨.ok, .success call.id (.number (.integer 1))⟩
    ∧ (process faltering.recorded (Text.utf8 (Value.array callTwice).render) (0, [])).2 =
        (2, [call, call])
    ∧ (process faltering (Text.utf8 "[5,5]") 0).1.status.code =
        max (process faltering (Text.utf8 "[5]") 0).1.status.code
          (process faltering (Text.utf8 "[5]")
            (process faltering (Text.utf8 "[5]") 0).2).1.status.code := by
  rcases batch_is_in_order_run faltering 0 readBytes_callTwice with
    ⟨henvelope, hstatus, hstate, halone, hcalls, _⟩
  refine ⟨?_, ?_, ?_, ?_, ?_, ?_⟩
  · exact henvelope.trans (by cbv)
  · exact hstatus.trans (by cbv)
  · exact hstate.trans (by cbv)
  · have hcall : readBytes (Text.utf8 call.text) = .ok call.toValue :=
      (readBytes_utf8 _).trans (by cbv)
    rcases halone 2 call.toValue rfl (by intro items h; cases h) _ hcall with
      ⟨served, hserved, hprocess⟩
    have hlast : (servedInOrder faltering callTwice 0)[2]? =
        some ⟨.ok, .success call.id (.number (.integer 1))⟩ := by
      cbv
    have hone := Option.some.inj (hserved.symm.trans hlast)
    have hleft : stateAfter faltering (callTwice.take 2) 0 = 1 := by
      cbv
    rw [hleft] at hprocess
    simp [hprocess, hone]
  · rcases hcalls [] with ⟨requests, hrequests, hrecorded⟩
    have hdecoded : (callTwice.filter isRequest).map Request.ofValue? = [call, call].map some := by
      cbv
    have hboth : requests = [call, call] :=
      (List.map_inj_right fun _ _ h => Option.some.inj h).1 (hrequests.trans hdecoded)
    have hleft : stateAfter faltering callTwice 0 = 2 := by
      cbv
    simp [hrecorded, hboth, hstate, hleft]
  · have hfive : readBytes (Text.utf8 "[5]") = .ok (.array [.number (.integer 5)]) :=
      (readBytes_utf8 _).trans (by cbv)
    have hfives : readBytes (Text.utf8 "[5,5]") =
        .ok (.array ([.number (.integer 5)] ++ [.number (.integer 5)])) :=
      (readBytes_utf8 _).trans (by cbv)
    rcases batch_is_in_order_run faltering 0 hfive with ⟨_, _, _, _, _, hboth⟩
    rcases hboth _ _ _ hfive hfives with ⟨_, _, _, _, _, hworst, _⟩
    exact hworst

end Rpc
end RpcHost
