import RpcHost.Proofs.Rpc.Decoding

/-!
# Serving values in order

A dispatcher that serves values one after the other is a machine: each value is served from the
state that the values before it left. `servedInOrder` says so place by place, and `serveAll_eq` that
the recursion over a batch computes it. `Dispatcher.recorded` keeps the requests that reach a
dispatcher, so that a statement about calls is a statement about a state. What `process` does with a
body then follows from what the body reads as.
-/

namespace RpcHost
namespace Rpc

open Json Http

variable {σ : Type}

/-! ## One value -/

/-- The request that a value stands for, if it stands for one. -/
def request? (v : Value) : Option Request :=
  if isRequest v then Request.ofValue? v else none

theorem ValidMembers.request?_eq {members : Members} {method : String}
    (h : ValidMembers members method) :
    request? (.object members) =
      some ⟨version, method, Entries.find? "params" members,
        (Entries.find? "id" members).getD .null⟩ := by
  have hvalid : isRequest (.object members) = true := isRequest_iff.2 ⟨_, _, rfl, h⟩
  rw [request?, if_pos hvalid, h.ofValue?]

theorem exists_request?_of_isRequest {v : Value} (h : isRequest v = true) :
    ∃ r, Request.ofValue? v = some r ∧ request? v = some r := by
  rcases isRequest_iff.1 h with ⟨members, method, rfl, hmembers⟩
  exact ⟨_, hmembers.ofValue?, hmembers.request?_eq⟩

theorem request?_eq_none_iff {v : Value} : request? v = none ↔ isRequest v = false := by
  by_cases h : isRequest v = true
  · rcases exists_request?_of_isRequest h with ⟨r, _, hr⟩
    simp [hr, h]
  · simp [request?, h]

/-- A request of the right version with structured params stands for itself. -/
theorem request?_toValue {r : Request} (hversion : r.jsonrpc = version)
    (hparams : ∀ p, r.params = some p → p.isContainer = true) : request? r.toValue = some r := by
  have hmembers : ValidMembers (Entries.ofList r.members) r.method :=
    validMembers_members hversion hparams
  rw [Request.toValue, Value.ofMembers, hmembers.request?_eq, eq_of_members hversion]

/-- A request is dispatched, and nothing else is. -/
theorem serveOne_eq (d : Dispatcher σ) (v : Value) (s : σ) :
    serveOne d v s =
      match request? v with
      | some r => (⟨(dispatch d r s).1.status, (dispatch d r s).1⟩, (dispatch d r s).2)
      | none => (reject v, s) := by
  by_cases h : isRequest v = true
  · rcases exists_request?_of_isRequest h with ⟨r, hdecoded, hr⟩
    rw [hr]
    exact serveOne_of_ofValue? h hdecoded d s
  · simp [serveOne, request?, h]

/-! ## Many values -/

/-- The state in which serving some values leaves a dispatcher. -/
def stateAfter (d : Dispatcher σ) (vs : List Value) (s : σ) : σ :=
  vs.foldl (fun s v => (serveOne d v s).2) s

/-- What each of some values is answered, from the state that those before it left. -/
def servedInOrder (d : Dispatcher σ) (vs : List Value) (s : σ) : List Served :=
  vs.mapIdx fun i v => (serveOne d v (stateAfter d (vs.take i) s)).1

theorem stateAfter_append (d : Dispatcher σ) (vs ws : List Value) (s : σ) :
    stateAfter d (vs ++ ws) s = stateAfter d ws (stateAfter d vs s) :=
  List.foldl_append

theorem stateAfter_take_succ {vs : List Value} {i : Nat} {v : Value} (h : vs[i]? = some v)
    (d : Dispatcher σ) (s : σ) :
    stateAfter d (vs.take (i + 1)) s = (serveOne d v (stateAfter d (vs.take i) s)).2 := by
  have htake : vs.take (i + 1) = vs.take i ++ [v] := by
    simp [List.take_add_one, h]
  calc
    stateAfter d (vs.take (i + 1)) s
        = stateAfter d (vs.take i ++ [v]) s := by simp [htake]
    _ = stateAfter d [v] (stateAfter d (vs.take i) s) := stateAfter_append d _ [v] s

theorem servedInOrder_cons (d : Dispatcher σ) (v : Value) (vs : List Value) (s : σ) :
    servedInOrder d (v :: vs) s =
      (serveOne d v s).1 :: servedInOrder d vs (serveOne d v s).2 := by
  simp [servedInOrder, List.mapIdx_cons, stateAfter]

theorem servedInOrder_append (d : Dispatcher σ) (vs ws : List Value) (s : σ) :
    servedInOrder d (vs ++ ws) s =
      servedInOrder d vs s ++ servedInOrder d ws (stateAfter d vs s) := by
  -- The rest starts from the state that the first value leaves.
  induction vs generalizing s with
  | nil => rfl
  | cons v vs ih =>
      rw [List.cons_append, servedInOrder_cons, servedInOrder_cons, ih]
      rfl

@[simp] theorem length_servedInOrder (d : Dispatcher σ) (vs : List Value) (s : σ) :
    (servedInOrder d vs s).length = vs.length :=
  List.length_mapIdx

theorem getElem?_servedInOrder (d : Dispatcher σ) (vs : List Value) (s : σ) (i : Nat) :
    (servedInOrder d vs s)[i]? =
      vs[i]?.map fun v => (serveOne d v (stateAfter d (vs.take i) s)).1 :=
  List.getElem?_mapIdx

theorem serveAll_cons (d : Dispatcher σ) (v : Value) (vs : List Value) (s : σ) :
    serveAll d (v :: vs) s =
      ((serveOne d v s).1 :: (serveAll d vs (serveOne d v s).2).1,
        (serveAll d vs (serveOne d v s).2).2) :=
  rfl

@[simp] theorem serveAll_eq (d : Dispatcher σ) (vs : List Value) (s : σ) :
    serveAll d vs s = (servedInOrder d vs s, stateAfter d vs s) := by
  induction vs generalizing s with
  | nil => rfl
  | cons v vs ih =>
      rw [serveAll_cons, ih, servedInOrder_cons]
      rfl

/-! ## Calls -/

/-- The dispatcher that also keeps the requests it is called with, the latest one last. -/
def Dispatcher.recorded (d : Dispatcher σ) : Dispatcher (σ × List Request) :=
  fun r s => ((d r s.1).1, (d r s.1).2, s.2 ++ [r])

/-- Answers with null and counts its calls. -/
def counting : Dispatcher Nat := fun _ calls => (.result .null, calls + 1)

theorem serveOne_recorded (d : Dispatcher σ) (v : Value) (s : σ) (calls : List Request) :
    serveOne d.recorded v (s, calls) =
      ((serveOne d v s).1, (serveOne d v s).2, calls ++ (request? v).toList) := by
  rw [serveOne_eq, serveOne_eq]
  cases request? v with
  | none => simp
  | some r => rfl

theorem serveAll_recorded (d : Dispatcher σ) (vs : List Value) (s : σ) (calls : List Request) :
    serveAll d.recorded vs (s, calls) =
      ((serveAll d vs s).1, (serveAll d vs s).2, calls ++ vs.filterMap request?) := by
  -- The first value changes both the state and the calls that the rest starts with.
  induction vs generalizing s calls with
  | nil => simp [serveAll]
  | cons v vs ih =>
      rw [serveAll_cons, serveOne_recorded, ih, serveAll_cons]
      cases h : request? v <;> simp [h]

/-- The requests among some values are those that are valid, decoded and in the same order. -/
theorem map_filterMap_request? (vs : List Value) :
    (vs.filterMap request?).map some = (vs.filter isRequest).map Request.ofValue? := by
  induction vs with
  | nil => rfl
  | cons v vs ih =>
      by_cases h : isRequest v = true
      · rcases exists_request?_of_isRequest h with ⟨r, hdecoded, hr⟩
        simp [h, hr, hdecoded, ih]
      · have hnone : request? v = none := by simp [request?, h]
        simp [h, hnone, ih]

/-! ## Answers to what was read -/

theorem process_of_read (d : Dispatcher σ) {body : Bytes} {v : Value} (h : readBytes body = .ok v)
    (s : σ) : process d body s = answer d v s := by
  simp [process, h]

theorem process_unreadable (d : Dispatcher σ) {body : Bytes} {e : ReadError}
    (h : readBytes body = .error e) (s : σ) : process d body s = (.unreadable, s) := by
  simp [process, h]

/-- Bodies that read as one value are answered alike. -/
theorem process_congr (d : Dispatcher σ) {body other : Bytes} {v : Value}
    (hbody : readBytes body = .ok v) (hother : readBytes other = .ok v) (s : σ) :
    process d body s = process d other s :=
  (process_of_read d hbody s).trans (process_of_read d hother s).symm

theorem answer_array (d : Dispatcher σ) (items : List Value) (s : σ) :
    answer d (.array items) s = (.batch (servedInOrder d items s), stateAfter d items s) := by
  have hanswer : answer d (.array items) s =
      (.batch (serveAll d items s).1, (serveAll d items s).2) := rfl
  simpa only [serveAll_eq] using hanswer

theorem answer_of_ne_array (d : Dispatcher σ) {v : Value} (h : ∀ items, v ≠ .array items) (s : σ) :
    answer d v s = (.single (serveOne d v s).1, (serveOne d v s).2) := by
  cases v with
  | array items => exact absurd rfl (h items)
  | _ => rfl

theorem process_single (d : Dispatcher σ) {body : Bytes} {v : Value} (h : readBytes body = .ok v)
    (hv : ∀ items, v ≠ .array items) (s : σ) :
    process d body s = (.single (serveOne d v s).1, (serveOne d v s).2) :=
  calc
    process d body s = answer d v s := process_of_read d h s
    _ = (.single (serveOne d v s).1, (serveOne d v s).2) := answer_of_ne_array d hv s

theorem process_batch (d : Dispatcher σ) {body : Bytes} {xs : List Value}
    (h : readBytes body = .ok (.array xs)) (s : σ) :
    process d body s = (.batch (servedInOrder d xs s), stateAfter d xs s) :=
  calc
    process d body s = answer d (.array xs) s := process_of_read d h s
    _ = (.batch (servedInOrder d xs s), stateAfter d xs s) := answer_array d xs s

end Rpc
end RpcHost
