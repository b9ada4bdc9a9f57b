import RpcHost.Proofs.Json.Depth
import RpcHost.Proofs.Rpc.Answers
import RpcHost.Proofs.Rpc.Builtin

/-!
# How deep answers nest

An envelope puts levels around what it answers with. How many they are does not depend on what is
asked of the values inside, so it is found once for every property that goes up and down with the
levels (`Nesting`): to nest no deeper than a bound is one, to be read back is another, and to be
ordered is one for which the level does not matter. A dispatcher that adds one level to what it is
sent (`AddsLevel`) makes envelopes that are one level deeper than the body (`Nesting.answer`), and
the methods that are there from the start are such a dispatcher.
-/

namespace RpcHost

namespace Json.Value

theorem exists_members_of_member? {v w : Value} {key : String} (h : v.member? key = some w) :
    ∃ members, v = .object members ∧ (key, w) ∈ members := by
  cases v with
  | object members => exact ⟨members, rfl, Entries.mem_of_find? h⟩
  | _ => cases h

theorem depth_lt_of_member? {v w : Value} {key : String} (h : v.member? key = some w) :
    w.depth < v.depth := by
  rcases exists_members_of_member? h with ⟨members, rfl, hmem⟩
  exact Nat.lt_succ_of_le (depthMembers_le_iff.1 (Nat.le_refl _) _ hmem)

end Json.Value

namespace Rpc

open Json

/-! ## Properties by levels -/

/-- A property of values by levels. It goes one level up with a container that is put around values,
and one level down to a value that stands in a container. -/
structure Nesting (P : Nat → Value → Prop) : Prop where
  mono : ∀ {m n : Nat} {v : Value}, m ≤ n → P m v → P n v
  null : P 0 .null
  string : ∀ s, P 0 (.string s)
  word : ∀ {i : Int}, (Number.integer i).IsWord → P 0 (.number (.integer i))
  array : ∀ {n : Nat} {items : List Value}, (∀ v ∈ items, P n v) → P (n + 1) (.array items)
  ofMembers : ∀ {n : Nat} {members : List (String × Value)}, (∀ m ∈ members, P n m.2) →
    P (n + 1) (.ofMembers members)
  item : ∀ {n : Nat} {items : List Value}, P (n + 1) (.array items) → ∀ v ∈ items, P n v
  member : ∀ {n : Nat} {v w : Value} {key : String}, P (n + 1) v → v.member? key = some w → P n w

theorem nesting_depth : Nesting fun n v => v.depth ≤ n where
  mono hle h := h.trans hle
  null := Nat.le_refl 0
  string _ := Nat.le_refl 0
  word _ := Nat.le_refl 0
  array h := Value.depth_array_le_iff.2 h
  ofMembers h := Value.depth_object_le_iff.2 fun m hm => h m (Entries.mem_of_mem_ofList hm)
  item h := Value.depth_array_le_iff.1 h
  member h hw := Nat.le_of_lt_succ (Nat.lt_of_lt_of_le (Value.depth_lt_of_member? hw) h)

theorem nesting_ordered : Nesting fun _ v => v.Ordered where
  mono _ h := h
  null := trivial
  string _ := trivial
  word _ := trivial
  array h := Value.ordered_array_iff.2 h
  ofMembers h := Value.ordered_object_iff.2
    ⟨Entries.ascending_ofList _, fun m hm => h m (Entries.mem_of_mem_ofList hm)⟩
  item h := Value.ordered_array_iff.1 h
  member := by
    intro n v w key h hw
    rcases Value.exists_members_of_member? hw with ⟨members, rfl, hmem⟩
    exact (Value.ordered_object_iff.1 h).2 _ hmem

theorem nesting_fits : Nesting fun n v => v.Fits n where
  mono hle h := ⟨h.ordered, h.words, nesting_depth.mono hle h.shallow⟩
  null := ⟨trivial, trivial, Nat.le_refl 0⟩
  string _ := ⟨trivial, trivial, Nat.le_refl 0⟩
  word h := ⟨trivial, h, Nat.le_refl 0⟩
  array h := ⟨nesting_ordered.array (n := 0) fun v hv => (h v hv).ordered,
    Value.wordNumbersItems_iff.2 fun v hv => (h v hv).words,
    nesting_depth.array fun v hv => (h v hv).shallow⟩
  ofMembers h := ⟨nesting_ordered.ofMembers (n := 0) fun m hm => (h m hm).ordered,
    Value.wordNumbersMembers_iff.2 fun m hm => (h m (Entries.mem_of_mem_ofList hm)).words,
    nesting_depth.ofMembers fun m hm => (h m hm).shallow⟩
  item h := h.items.2
  member := by
    intro n v w key h hw
    rcases Value.exists_members_of_member? hw with ⟨members, rfl, hmem⟩
    exact h.members.2.2 _ hmem

variable {P : Nat → Value → Prop} {n : Nat} {v : Value} {σ τ : Type}

/-! ## Envelopes -/

theorem isWord_code (code : Int64) : (Number.integer code.toInt).IsWord := by
  have hlow := code.le_toInt
  have hhigh := code.toInt_lt
  constructor <;> omega

/-- What a call ends with is on this level: its result, or its fault as a value. -/
def Outcome.Within (P : Nat → Value → Prop) (n : Nat) : Outcome → Prop
  | .result v => P n v
  | .fault f => P n f.toValue
  | .crash => True

/-- A record has one level more than what its fields hold. -/
theorem Nesting.recordOf (h : Nesting P) {layout : Layout} {found : Slots}
    (hfound : ∀ v, some v ∈ found → P n v) : P (n + 1) (recordOf layout found) := by
  refine h.ofMembers ?_
  intro m hm
  rcases List.mem_filterMap.1 hm with ⟨⟨f, slot⟩, hslot, hm⟩
  rcases Option.map_eq_some_iff.1 hm with ⟨v, rfl, rfl⟩
  exact hfound v (List.of_mem_zip hslot).2

/-- A fault without data has one level. -/
theorem Nesting.fault (h : Nesting P) {f : Fault} (hdata : f.data = none) : P 1 f.toValue := by
  rw [f.toValue_eq]
  refine h.recordOf ?_
  simp [Fault.fields, hdata, h.word (isWord_code f.code), h.string]

theorem Nesting.success (h : Nesting P) {id result : Value} (hid : P n id) (hresult : P n result) :
    P (n + 1) (Response.success id result).toValue := by
  rw [Response.toValue_eq]
  refine h.recordOf ?_
  simp [Response.fieldsBy, Response.success, h.mono (Nat.zero_le n) (h.string version), hid,
    hresult]

theorem Nesting.failure (h : Nesting P) {id : Value} {f : Fault} (hid : P n id)
    (hfault : P n f.toValue) : P (n + 1) (Response.failure id f).toValue := by
  rw [Response.toValue_eq]
  refine h.recordOf ?_
  simp [Response.fieldsBy, Response.failure, h.mono (Nat.zero_le n) (h.string version), hid,
    hfault]

/-- A response has one level more than what it is made of. -/
theorem Nesting.response (h : Nesting P) {id : Value} (hid : P n id) {o : Outcome}
    (ho : o.Within P (n + 1)) : P (n + 2) (o.response id).toValue := by
  have hid' : P (n + 1) id := h.mono (Nat.le_succ n) hid
  cases o with
  | result v => exact h.success hid' ho
  | fault f => exact h.failure hid' ho
  | crash => exact h.failure hid' (h.mono (Nat.le_add_left 1 n) (h.fault rfl))

/-- The id in a rejection is a scalar, or none at all. -/
theorem Nesting.reject (h : Nesting P) (hv : P (n + 1) v) :
    P (n + 2) (reject v).response.toValue := by
  have hid : P n (echoId v) := by
    unfold echoId
    split
    · rename_i hfound
      exact h.member hv hfound
    · rename_i hfound
      exact h.member hv hfound
    · exact h.mono (Nat.zero_le n) h.null
  exact h.response (o := .fault .rejected) hid (h.mono (Nat.le_add_left 1 n) (h.fault rfl))

/-! ## Requests -/

/-- The parts of a request stand one level below it. -/
structure Request.Within (P : Nat → Value → Prop) (n : Nat) (r : Request) : Prop where
  id : P n r.id
  params : ∀ p, r.params = some p → P n p

theorem Nesting.request (h : Nesting P) (hv : P (n + 1) v) {r : Request}
    (hr : request? v = some r) : r.Within P n := by
  rcases isRequest_iff.1 (isRequest_of_request? hr) with ⟨members, method, rfl, hmembers⟩
  rw [hmembers.request?_eq] at hr
  cases hr
  refine ⟨?_, ?_⟩
  · cases hid : Entries.find? "id" members with
    | none => exact h.mono (Nat.zero_le _) h.null
    | some id => exact h.member hv hid
  · intro p hp
    exact h.member hv hp

/-- A request that is put together from parts has one level more than they have. -/
theorem Nesting.toValue (h : Nesting P) {r : Request} (hr : r.Within P n) :
    P (n + 1) r.toValue := by
  have hstring : ∀ s, P n (.string s) := fun s => h.mono (Nat.zero_le n) (h.string s)
  rw [r.toValue_eq]
  refine h.recordOf ?_
  cases hparams : r.params with
  | none => simp [Request.fields, hparams, hstring, hr.id]
  | some p => simp [Request.fields, hparams, hstring, hr.id, hr.params p hparams]

/-! ## Answers -/

/-- In the states `I`, which it never leaves, the dispatcher adds no more than one level to the
parts of a request. -/
structure AddsLevel (P : Nat → Value → Prop) (I : σ → Prop) (d : Dispatcher σ) : Prop where
  outcome : ∀ {n : Nat} {r : Request} {s : σ}, I s → r.Within P n → (d r s).1.Within P (n + 1)
  stays : ∀ {r : Request} {s : σ}, I s → I (d r s).2

section Answers

variable {I : σ → Prop} {d : Dispatcher σ} {s : σ}

theorem AddsLevel.serveOne (hd : AddsLevel P I d) (hs : I s) (v : Value) :
    I (serveOne d v s).2 := by
  rw [serveOne_eq]
  cases request? v with
  | none => exact hs
  | some r => exact hd.stays hs

theorem AddsLevel.stateAfter (hd : AddsLevel P I d) (hs : I s) (vs : List Value) :
    I (stateAfter d vs s) := by
  induction vs generalizing s with
  | nil => exact hs
  | cons v vs ih => exact ih (hd.serveOne hs v)

theorem Nesting.serveOne (h : Nesting P) (hd : AddsLevel P I d) (hs : I s) (hv : P (n + 1) v) :
    P (n + 2) (serveOne d v s).1.response.toValue := by
  rw [serveOne_eq]
  cases hr : request? v with
  | none => exact h.reject hv
  | some r =>
      have hwithin := h.request hv hr
      exact h.response hwithin.id (hd.outcome hs hwithin)

theorem Nesting.answer (h : Nesting P) (hd : AddsLevel P I d) (hs : I s) (hv : P n v) :
    P (max 3 (n + 1)) (answer d v s).1.envelope := by
  by_cases hv' : ∃ items, v = .array items
  · rcases hv' with ⟨items, rfl⟩
    -- The array of responses is as much deeper than they are as the body is than its items.
    have hitems : ∀ item ∈ items, P (max 1 (n - 1)) item := by
      intro item hitem
      exact h.mono (Nat.le_max_right 1 (n - 1))
        (h.item (h.mono (show n ≤ n - 1 + 1 by omega) hv) item hitem)
    have hlevel : max 1 (n - 1) = max 1 (n - 1) - 1 + 1 := by
      omega
    rw [answer_array]
    refine h.mono (show max 1 (n - 1) - 1 + 2 + 1 ≤ _ by omega) (h.array ?_)
    intro response hresponse
    rcases List.mem_map.1 hresponse with ⟨served, hserved, rfl⟩
    rcases List.getElem?_of_mem hserved with ⟨i, hi⟩
    rw [getElem?_servedInOrder] at hi
    rcases Option.map_eq_some_iff.1 hi with ⟨item, hitem, rfl⟩
    have hbelow := hitems item (List.mem_of_getElem? hitem)
    rw [hlevel] at hbelow
    exact h.serveOne hd (hd.stateAfter hs _) hbelow
  · rw [answer_of_ne_array d (fun items heq => hv' ⟨items, heq⟩)]
    have hv'' : P (n - 1 + 1) v := h.mono (by omega) hv
    exact h.mono (show n - 1 + 2 ≤ _ by omega) (h.serveOne hd hs hv'')

theorem AddsLevel.answer (hd : AddsLevel P I d) (hs : I s) (v : Value) : I (answer d v s).2 := by
  by_cases hv : ∃ items, v = .array items
  · rcases hv with ⟨items, rfl⟩
    rw [answer_array]
    exact hd.stateAfter hs items
  · rw [answer_of_ne_array d (fun items heq => hv ⟨items, heq⟩)]
    exact hd.serveOne hs v

/-- The envelope for a body is at most one level above it, and at most three for one that cannot be
read. -/
theorem Nesting.process (h : Nesting P) (hd : AddsLevel P I d) (hs : I s) {body : Bytes}
    (hbody : ∀ v, readBytes body = .ok v → P n v) :
    P (max 3 (n + 1)) (process d body s).1.envelope := by
  cases hread : readBytes body with
  | error e =>
      rw [process_unreadable d hread]
      exact h.mono (show 0 + 2 ≤ _ by omega)
        (h.response (o := .fault .unreadable) h.null (h.fault rfl))
  | ok v =>
      rw [process_of_read d hread]
      exact h.answer hd hs (hbody v hread)

theorem AddsLevel.process (hd : AddsLevel P I d) (hs : I s) (body : Bytes) :
    I (process d body s).2 := by
  cases hread : readBytes body with
  | error e =>
      rw [process_unreadable d hread]
      exact hs
  | ok v =>
      rw [process_of_read d hread]
      exact hd.answer hs v

end Answers

/-! ## The methods that are there from the start -/

open MethodTable

theorem Nesting.ping (h : Nesting P) {r : Request} (hr : r.Within P n) :
    (ping r).Within P (n + 1) := by
  have hparams : P n r.paramsOrNull := by
    unfold Request.paramsOrNull
    cases hp : r.params with
    | none => exact h.mono (Nat.zero_le n) h.null
    | some p => exact hr.params p hp
  refine h.ofMembers ?_
  simp [h.mono (Nat.zero_le n) (h.string "OK"), hparams]

theorem Nesting.buildInfo (h : Nesting P) (r : Request) : (buildInfo r).Within P 1 := by
  refine h.ofMembers ?_
  simp [h.string]

/-- No method nests deeper than the request, or than one level. -/
theorem Nesting.builtinOutcome (h : Nesting P) {r : Request} (hr : r.Within P n) :
    (MethodTable.builtinOutcome r).Within P (n + 1) := by
  have hfault : ∀ {f : Fault}, f.data = none → (Outcome.fault f).Within P (n + 1) := by
    intro f hdata
    exact h.mono (Nat.le_add_left 1 n) (h.fault hdata)
  cases hrun : Entries.find? r.method builtinRuns with
  | none =>
      rw [MethodTable.builtinOutcome, hrun]
      exact hfault rfl
  | some run =>
      rw [MethodTable.builtinOutcome, hrun]
      have hmem := Entries.mem_of_find? hrun
      simp only [builtinRuns, List.mem_cons, Prod.mk.injEq, List.not_mem_nil, or_false] at hmem
      rcases hmem with ⟨_, rfl⟩ | ⟨_, rfl⟩ | ⟨_, rfl⟩ | ⟨_, rfl⟩
      · exact h.mono (Nat.le_add_left 1 n) (h.buildInfo r)
      · exact h.toValue hr
      · exact h.ping hr
      · exact hfault rfl

/-- The table that is there from the start stays as it is. -/
theorem Nesting.addsLevel_serve (h : Nesting P) (state : τ) :
    AddsLevel P (· = builtin state) serve where
  outcome := by
    rintro n r s rfl hr
    rw [serve_builtin]
    exact h.builtinOutcome hr
  stays := by
    rintro r s rfl
    rw [serve_builtin]

end Rpc
end RpcHost
