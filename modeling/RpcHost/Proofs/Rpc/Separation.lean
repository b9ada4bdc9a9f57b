import RpcHost.Proofs.Rpc.Batch
import RpcHost.Rpc.MethodTable

/-!
# Methods do not disturb each other

A table serves many bodies, one after the other. What it answers to the requests for one name hangs
on those requests alone, and on the method that is registered under that name: `Method.alone` is
that method with nothing around it, and `responsesFor_eq` says that the table answers as it does. So
two runs that show a method the same requests get the same responses from it, which is
`methods_do_not_disturb_each_other`.
-/

namespace RpcHost
namespace Rpc

open Json

variable {σ τ : Type}

/-! ## Many bodies -/

/-- The answers to some bodies, processed one after the other. -/
def processAll (d : Dispatcher σ) : List Bytes → σ → List Answer × σ
  | [], s => ([], s)
  | body :: rest, s =>
      let (answer, s) := process d body s
      let (answers, s) := processAll d rest s
      (answer :: answers, s)

/-- The values that a body asks to be served. -/
def itemsOf (body : Bytes) : List Value :=
  match readBytes body with
  | .ok (.array items) => items
  | .ok v => [v]
  | .error _ => []

/-- The envelopes in an answer, one for each item that was served. -/
def Answer.envelopes (a : Answer) : List Value :=
  match a.envelope with
  | .array envelopes => envelopes
  | envelope => [envelope]

/-- The request for a method that a value stands for, if it stands for one. -/
def requestFor? (name : String) (v : Value) : Option Request :=
  (request? v).filter (·.method = name)

/-- The valid requests for a method in a body. -/
def requestsFor (name : String) (body : Bytes) : List Request :=
  (itemsOf body).filterMap (requestFor? name)

/-- Of some items and the envelopes for them, the envelopes for the valid requests for a method. -/
def repliesTo (name : String) (items envelopes : List Value) : List Value :=
  (items.zip envelopes).filterMap fun (v, envelope) => (requestFor? name v).map fun _ => envelope

/-- What a table responds to the requests for a method, over some bodies. -/
def responsesFor (name : String) (bodies : List Bytes) (table : MethodTable τ) : List Value :=
  (bodies.zip (processAll MethodTable.serve bodies table).1).flatMap fun (body, a) =>
    repliesTo name (itemsOf body) a.envelopes

/-- The envelopes of what was served. -/
def envelopesOf (served : List Served) : List Value :=
  served.map (·.response.toValue)

theorem repliesTo_append (name : String) {items envelopes : List Value}
    (h : items.length = envelopes.length) (more others : List Value) :
    repliesTo name (items ++ more) (envelopes ++ others) =
      repliesTo name items envelopes ++ repliesTo name more others := by
  rw [repliesTo, List.zip_append h, List.filterMap_append]
  rfl

theorem envelopesOf_append (front back : List Served) :
    envelopesOf (front ++ back) = envelopesOf front ++ envelopesOf back :=
  List.map_append

theorem length_envelopesOf (d : Dispatcher σ) (items : List Value) (s : σ) :
    (envelopesOf (servedInOrder d items s)).length = items.length :=
  (List.length_map _).trans (length_servedInOrder d items s)

/-- However a body reads, its items are served in order. -/
theorem process_items (d : Dispatcher σ) (body : Bytes) (s : σ) (name : String) :
    repliesTo name (itemsOf body) (process d body s).1.envelopes =
        repliesTo name (itemsOf body) (envelopesOf (servedInOrder d (itemsOf body) s))
      ∧ (process d body s).2 = stateAfter d (itemsOf body) s := by
  -- The body is unreadable, a batch, or a single value.
  cases hread : readBytes body with
  | error e =>
      have hnone : itemsOf body = [] := by
        simp [itemsOf, hread]
      rw [hnone, process_unreadable d hread]
      exact ⟨rfl, rfl⟩
  | ok v =>
      by_cases harray : ∃ items, v = .array items
      · rcases harray with ⟨items, rfl⟩
        have hitems : itemsOf body = items := by
          simp [itemsOf, hread]
        rw [hitems, process_batch d hread]
        exact ⟨rfl, rfl⟩
      · have hsingle : ∀ items, v ≠ .array items := by
          intro items heq
          exact harray ⟨items, heq⟩
        have hitems : itemsOf body = [v] := by
          cases v with
          | array items => exact absurd rfl (hsingle items)
          | _ => simp [itemsOf, hread]
        rw [hitems, process_single d hread hsingle]
        exact ⟨rfl, rfl⟩

/-! ## One method by itself -/

/-- A method with nothing around it, or the place where none is registered. -/
def Method.alone : Dispatcher (Option (Method τ)) := fun r place =>
  match place with
  | some m => ((m.call r).1, some (m.call r).2)
  | none => (unknownMethod r, none)

/-- What some requests are responded, one after the other. -/
def respondAll (d : Dispatcher σ) : List Request → σ → List Response
  | [], _ => []
  | r :: rest, s => (dispatch d r s).1 :: respondAll d rest (dispatch d r s).2

@[simp] theorem length_respondAll (d : Dispatcher σ) (requests : List Request) (s : σ) :
    (respondAll d requests s).length = requests.length := by
  induction requests generalizing s with
  | nil => rfl
  | cons r rest ih => simp [respondAll, ih]

/-- A table leaves a request to the method that the request names. -/
theorem dispatch_serve (r : Request) (table : MethodTable τ) :
    (dispatch MethodTable.serve r table).1 =
        (dispatch Method.alone r (Entries.find? r.method table)).1
      ∧ Entries.find? r.method (dispatch MethodTable.serve r table).2 =
        (dispatch Method.alone r (Entries.find? r.method table)).2 := by
  cases hmethod : Entries.find? r.method table with
  | none => simp [dispatch, MethodTable.serve, Method.alone, hmethod]
  | some m => simp [dispatch, MethodTable.serve, Method.alone, hmethod]

/-- A request changes no method but the one that it names, even if that one fails or crashes. -/
theorem find?_dispatch_serve_of_ne {r : Request} {name : String} (h : r.method ≠ name)
    (table : MethodTable τ) :
    Entries.find? name (dispatch MethodTable.serve r table).2 = Entries.find? name table := by
  cases hmethod : Entries.find? r.method table with
  | none => simp [dispatch, MethodTable.serve, hmethod]
  | some m =>
      have hinsert := Entries.find?_insert_of_ne h.symm (m.call r).2 table
      simpa [dispatch, MethodTable.serve, hmethod] using hinsert

theorem requestFor?_eq_none (name : String) {v : Value} (h : request? v = none) :
    requestFor? name v = none := by
  simp [requestFor?, h]

theorem requestFor?_of_request? {name : String} {v : Value} {r : Request}
    (h : request? v = some r) :
    requestFor? name v = if r.method = name then some r else none := by
  by_cases hname : r.method = name <;> simp [requestFor?, h, hname]

/-- Among the values that a table serves, the requests for one method are responded as the method
alone responds. -/
theorem repliesTo_servedInOrder (name : String) (items : List Value) (table : MethodTable τ) :
    repliesTo name items (envelopesOf (servedInOrder MethodTable.serve items table)) =
      (respondAll Method.alone (items.filterMap (requestFor? name))
        (Entries.find? name table)).map Response.toValue := by
  -- What the two runs share is the method under the name, whatever else the table goes through.
  induction items generalizing table with
  | nil => rfl
  | cons v items ih =>
      rw [servedInOrder_cons, serveOne_eq]
      cases hrequest : request? v with
      | none =>
          have hnone := requestFor?_eq_none name hrequest
          rw [List.filterMap_cons_none hnone, ← ih table]
          exact List.filterMap_cons_none (by simp [hnone])
      | some r =>
          by_cases hname : r.method = name
          · have hsome : requestFor? name v = some r := by
              simp [requestFor?_of_request? hrequest, hname]
            rcases dispatch_serve r table with ⟨hresponse, hplace⟩
            rw [hname] at hresponse hplace
            rw [List.filterMap_cons_some hsome, respondAll, List.map_cons, ← hresponse, ← hplace,
              ← ih]
            exact List.filterMap_cons_some (by simp [hsome])
          · have hnone : requestFor? name v = none := by
              simp [requestFor?_of_request? hrequest, hname]
            rw [List.filterMap_cons_none hnone, ← find?_dispatch_serve_of_ne hname table, ← ih]
            exact List.filterMap_cons_none (by simp [hnone])

/-! ## Two runs -/

/-- How the items were grouped into bodies does not show. -/
theorem responsesFor_eq_repliesTo (name : String) (bodies : List Bytes) (table : MethodTable τ) :
    responsesFor name bodies table =
      repliesTo name (bodies.flatMap itemsOf)
        (envelopesOf (servedInOrder MethodTable.serve (bodies.flatMap itemsOf) table)) := by
  induction bodies generalizing table with
  | nil => rfl
  | cons body rest ih =>
      rcases process_items MethodTable.serve body table name with ⟨hreplies, hstate⟩
      have hlength := length_envelopesOf MethodTable.serve (itemsOf body) table
      calc
        responsesFor name (body :: rest) table
            = repliesTo name (itemsOf body) (process MethodTable.serve body table).1.envelopes
                ++ responsesFor name rest (process MethodTable.serve body table).2 := rfl
        _ = repliesTo name (itemsOf body)
                (envelopesOf (servedInOrder MethodTable.serve (itemsOf body) table))
              ++ repliesTo name (rest.flatMap itemsOf)
                (envelopesOf (servedInOrder MethodTable.serve (rest.flatMap itemsOf)
                  (stateAfter MethodTable.serve (itemsOf body) table))) := by
          rw [hreplies, hstate, ih]
        _ = repliesTo name ((body :: rest).flatMap itemsOf)
              (envelopesOf
                (servedInOrder MethodTable.serve ((body :: rest).flatMap itemsOf) table)) := by
          rw [List.flatMap_cons, servedInOrder_append, envelopesOf_append,
            repliesTo_append name hlength.symm]

theorem responsesFor_eq (name : String) (bodies : List Bytes) (table : MethodTable τ) :
    responsesFor name bodies table =
      (respondAll Method.alone (bodies.flatMap (requestsFor name))
        (Entries.find? name table)).map Response.toValue := by
  have hrequests : (bodies.flatMap itemsOf).filterMap (requestFor? name) =
      bodies.flatMap (requestsFor name) :=
    List.filterMap_flatMap
  rw [responsesFor_eq_repliesTo, repliesTo_servedInOrder, hrequests]

/-- Two runs over tables that agree on a method, with the same requests for it, are responded the
same by it, whatever else the two runs hold. -/
theorem methods_do_not_disturb_each_other (name : String) {table other : MethodTable τ}
    (hmethod : Entries.find? name table = Entries.find? name other) {bodies others : List Bytes}
    (hrequests : bodies.flatMap (requestsFor name) = others.flatMap (requestsFor name)) :
    responsesFor name bodies table = responsesFor name others other
    -- one response for each request
    ∧ (responsesFor name bodies table).length = (bodies.flatMap (requestsFor name)).length := by
  refine ⟨?_, ?_⟩
  · rw [responsesFor_eq, responsesFor_eq, hmethod, hrequests]
  · rw [responsesFor_eq, List.length_map, length_respondAll]

/-- Answers each call with the number of those before. -/
def numbering : Dispatcher Nat := fun _ calls => (.result (.number (.integer calls)), calls + 1)

def twoMethods : MethodTable Nat :=
  ([] : MethodTable Nat)
    |> MethodTable.register "n" ⟨0, numbering⟩
    |> MethodTable.register "x" ⟨0, faltering⟩

def asked (method : String) (id : Int) : Request :=
  .new method none (.number (.integer id))

/-- A call, a crash, a value that is no request, and another call. -/
def mixedItems : List Value :=
  [(asked "n" 1).toValue, (asked "x" 2).toValue, .null, (asked "n" 3).toValue]

/-- What cannot be read, and after it one batch. -/
def mixedBodies : List Bytes :=
  [Text.utf8 "\x7b", Text.utf8 (Value.array mixedItems).render]

/-- The calls alone, each in a body of its own. -/
def plainBodies : List Bytes :=
  [Text.utf8 (asked "n" 1).text, Text.utf8 (asked "n" 3).text]

theorem requestsFor_mixedBodies :
    mixedBodies.flatMap (requestsFor "n") = [asked "n" 1, asked "n" 3] := by
  simp only [mixedBodies, List.flatMap_cons, List.flatMap_nil, requestsFor, itemsOf, readBytes_utf8]
  cbv

theorem requestsFor_plainBodies :
    plainBodies.flatMap (requestsFor "n") = [asked "n" 1, asked "n" 3] := by
  simp only [plainBodies, List.flatMap_cons, List.flatMap_nil, requestsFor, itemsOf, readBytes_utf8]
  cbv

/-- The crash between the calls shows in neither answer. -/
theorem methods_do_not_disturb_each_other_past_crash :
    mixedBodies.flatMap (requestsFor "n") = plainBodies.flatMap (requestsFor "n")
    ∧ responsesFor "n" mixedBodies twoMethods = responsesFor "n" plainBodies twoMethods
    ∧ (responsesFor "n" mixedBodies twoMethods).length = 2 := by
  have hrequests := requestsFor_mixedBodies.trans requestsFor_plainBodies.symm
  have hmethod : Entries.find? "n" twoMethods = Entries.find? "n" twoMethods := rfl
  rcases methods_do_not_disturb_each_other "n" hmethod hrequests with ⟨hsame, hlength⟩
  refine ⟨hrequests, hsame, ?_⟩
  rw [hlength, requestsFor_mixedBodies]
  rfl

end Rpc
end RpcHost
