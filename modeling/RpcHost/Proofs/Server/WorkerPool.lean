import RpcHost.Server.WorkerPool

/-!
# Workers under any interleaving

What an event can do to a pool is written down once, in `PoolStep`, and what it does to one worker
in `WorkerStep`. From them follows what one event keeps, and by induction over the events what any
interleaving keeps: `Accords` ties the pool to the events that led to it. Two more inductions say
how long a worker stays with a connection, and that a worker that has left its loop stays out of it.
The main statement is `pool_is_safe_under_any_interleaving`.
-/

namespace RpcHost
namespace Server

variable {κ : Type} {carrier : Carrier κ}

/-- The worker that an event is about. -/
def PoolEvent.worker? : PoolEvent κ → Option Nat
  | .turn i | .pass i | .accept i _ | .move i _ _ _ | .drain i _ => some i
  | .arrive | .stop | .await | .finish => none

namespace Pool

variable {p q : Pool κ} {e : PoolEvent κ} {events : List (PoolEvent κ)} {size : Nat}
  {i j : Nat} {c : Connection} {k : κ} {d : Bool}

/-! ## What an event does -/

/-- Everything that an event can do. -/
inductive PoolStep (carrier : Carrier κ) (p : Pool κ) : PoolEvent κ → Pool κ → Prop where
  | arrived : PoolStep carrier p .arrive
      { p with queue := p.queue ++ [p.arrived], arrived := p.arrived + 1 }
  | stopped : PoolStep carrier p .stop { p with stopped := true }
  | entered {i : Nat} (hidle : p.workers[i]? = some .idle) (hdown : p.stopped = false) :
      PoolStep carrier p (.turn i) (p.setWorker i .ready)
  | left {i : Nat} (hidle : p.workers[i]? = some .idle) (hup : p.stopped = true) :
      PoolStep carrier p (.turn i) (p.setWorker i .gone)
  | passed {i : Nat} (hready : p.workers[i]? = some .ready) :
      PoolStep carrier p (.pass i) (p.setWorker i .idle)
  | accepted {i : Nat} {c : Connection} {rest : List Connection}
      (hready : p.workers[i]? = some .ready) (hqueue : p.queue = c :: rest) :
      PoolStep carrier p (.accept i c)
        ({ p with queue := rest }.setWorker i (.serving c carrier.opened false))
  | moved {i : Nat} {c : Connection} {k k' : κ} {m : Move} {d : Bool}
      (hserving : p.workers[i]? = some (.serving c k d)) (hmove : carrier.moves k m k' = true)
      (hlast : m.isLast = false) :
      PoolStep carrier p (.move i c m k') (p.setWorker i (.serving c k' d))
  | ended {i : Nat} {c : Connection} {k k' : κ} {m : Move} {d : Bool}
      (hserving : p.workers[i]? = some (.serving c k d)) (hmove : carrier.moves k m k' = true)
      (hlast : m.isLast = true) :
      PoolStep carrier p (.move i c m k') (p.setWorker i .idle)
  | drained {i : Nat} {c : Connection} {k : κ}
      (hserving : p.workers[i]? = some (.serving c k false)) (hup : p.stopped = true) :
      PoolStep carrier p (.drain i c) (p.setWorker i (.serving c (carrier.drain k) true))
  | awaited (hgone : p.workers[p.awaited]? = some .gone) :
      PoolStep carrier p .await { p with awaited := p.awaited + 1 }
  | finished (hall : p.awaited = p.workers.length) : PoolStep carrier p .finish p

theorem poolStep_turn (h : p.step? carrier (.turn i) = some q) :
    PoolStep carrier p (.turn i) q := by
  simp only [step?] at h
  split at h
  · rename_i hidle
    cases hstopped : p.stopped with
    | true =>
        simp only [hstopped, if_true] at h
        cases h
        exact .left hidle hstopped
    | false =>
        simp only [hstopped, Bool.false_eq_true, if_false] at h
        cases h
        exact .entered hidle hstopped
  · cases h

theorem poolStep_accept (h : p.step? carrier (.accept i c) = some q) :
    PoolStep carrier p (.accept i c) q := by
  simp only [step?] at h
  split at h
  · rename_i next rest hready hqueue
    split at h
    · rename_i hnext
      cases h
      exact .accepted hready (hnext ▸ hqueue)
    · cases h
  · cases h

theorem poolStep_move {m : Move} (h : p.step? carrier (.move i c m k) = some q) :
    PoolStep carrier p (.move i c m k) q := by
  simp only [step?] at h
  split at h
  · rename_i served old draining hserving
    split at h
    · rename_i hmove
      rcases hmove with ⟨rfl, hmove⟩
      cases hlast : m.isLast with
      | true =>
          simp only [hlast, if_true] at h
          cases h
          exact .ended hserving hmove hlast
      | false =>
          simp only [hlast, Bool.false_eq_true, if_false] at h
          cases h
          exact .moved hserving hmove hlast
    · cases h
  · cases h

theorem poolStep_drain (h : p.step? carrier (.drain i c) = some q) :
    PoolStep carrier p (.drain i c) q := by
  simp only [step?] at h
  split at h
  · rename_i served old hserving
    split at h
    · rename_i hup
      rcases hup with ⟨rfl, hup⟩
      cases h
      exact .drained hserving hup
    · cases h
  · cases h

theorem poolStep_of_step? (h : p.step? carrier e = some q) : PoolStep carrier p e q := by
  cases e with
  | arrive =>
      cases h
      exact .arrived
  | stop =>
      cases h
      exact .stopped
  | turn i => exact poolStep_turn h
  | pass i =>
      simp only [step?] at h
      split at h
      · rename_i hready
        cases h
        exact .passed hready
      · cases h
  | accept i c => exact poolStep_accept h
  | move i c m k => exact poolStep_move h
  | drain i c => exact poolStep_drain h
  | await =>
      simp only [step?] at h
      split at h
      · rename_i hgone
        cases h
        exact .awaited hgone
      · cases h
  | finish =>
      simp only [step?] at h
      split at h
      · rename_i hall
        cases h
        exact .finished hall
      · cases h

/-! ## What an event does to one worker -/

theorem getElem?_setWorker_self {old : Worker κ} (hi : p.workers[i]? = some old) (w : Worker κ) :
    (p.setWorker i w).workers[i]? = some w := by
  have hlt : i < p.workers.length := (List.getElem?_eq_some_iff.1 hi).1
  simp [setWorker, hlt]

theorem getElem?_setWorker_of_ne (h : i ≠ j) (w : Worker κ) :
    (p.setWorker i w).workers[j]? = p.workers[j]? := by
  simp [setWorker, h]

/-- What an event does to the worker that it is about. -/
inductive WorkerStep (carrier : Carrier κ) (stopped : Bool) :
    PoolEvent κ → Worker κ → Worker κ → Prop where
  | entered {i : Nat} (hdown : stopped = false) : WorkerStep carrier stopped (.turn i) .idle .ready
  | left {i : Nat} (hup : stopped = true) : WorkerStep carrier stopped (.turn i) .idle .gone
  | passed {i : Nat} : WorkerStep carrier stopped (.pass i) .ready .idle
  | accepted {i : Nat} {c : Connection} :
      WorkerStep carrier stopped (.accept i c) .ready (.serving c carrier.opened false)
  | moved {i : Nat} {c : Connection} {k k' : κ} {m : Move} {d : Bool}
      (hmove : carrier.moves k m k' = true) :
      WorkerStep carrier stopped (.move i c m k') (.serving c k d) (.serving c k' d)
  | ended {i : Nat} {c : Connection} {k k' : κ} {m : Move} {d : Bool} (hlast : m.isLast = true) :
      WorkerStep carrier stopped (.move i c m k') (.serving c k d) .idle
  | drained {i : Nat} {c : Connection} {k : κ} (hup : stopped = true) :
      WorkerStep carrier stopped (.drain i c) (.serving c k false)
        (.serving c (carrier.drain k) true)

namespace PoolStep

theorem workerStep (h : PoolStep carrier p e q) (hi : e.worker? = some i) :
    ∃ w w', p.workers[i]? = some w ∧ q.workers[i]? = some w'
      ∧ WorkerStep carrier p.stopped e w w' := by
  cases h with
  | entered hidle hdown =>
      cases hi
      exact ⟨_, _, hidle, getElem?_setWorker_self hidle _, .entered hdown⟩
  | left hidle hup =>
      cases hi
      exact ⟨_, _, hidle, getElem?_setWorker_self hidle _, .left hup⟩
  | passed hready =>
      cases hi
      exact ⟨_, _, hready, getElem?_setWorker_self hready _, .passed⟩
  | @accepted _ _ rest hready =>
      cases hi
      have hset := getElem?_setWorker_self (p := { p with queue := rest }) hready
      exact ⟨_, _, hready, hset _, .accepted⟩
  | moved hserving hmove =>
      cases hi
      exact ⟨_, _, hserving, getElem?_setWorker_self hserving _, .moved hmove⟩
  | ended hserving _ hlast =>
      cases hi
      exact ⟨_, _, hserving, getElem?_setWorker_self hserving _, .ended hlast⟩
  | drained hserving hup =>
      cases hi
      exact ⟨_, _, hserving, getElem?_setWorker_self hserving _, .drained hup⟩
  | _ => cases hi

/-- An event leaves all workers alone that it is not about. -/
theorem worker_of_ne (h : PoolStep carrier p e q) (hj : e.worker? ≠ some j) :
    q.workers[j]? = p.workers[j]? := by
  have hne : ∀ i, some i ≠ some j → i ≠ j := by
    intro i hij heq
    exact hij (congrArg some heq)
  cases h with
  | entered => exact getElem?_setWorker_of_ne (hne _ hj) _
  | left => exact getElem?_setWorker_of_ne (hne _ hj) _
  | passed => exact getElem?_setWorker_of_ne (hne _ hj) _
  | accepted => exact getElem?_setWorker_of_ne (hne _ hj) _
  | moved => exact getElem?_setWorker_of_ne (hne _ hj) _
  | ended => exact getElem?_setWorker_of_ne (hne _ hj) _
  | drained => exact getElem?_setWorker_of_ne (hne _ hj) _
  | _ => rfl

theorem length_workers (h : PoolStep carrier p e q) : q.workers.length = p.workers.length := by
  cases h <;> simp [setWorker]

/-- The flag stays up. -/
theorem stopped_of_stopped (h : PoolStep carrier p e q) (hup : p.stopped = true) :
    q.stopped = true := by
  cases h with
  | stopped => rfl
  | _ => exact hup

/-- A worker that has left its loop stays out of it. -/
theorem gone_of_gone (h : PoolStep carrier p e q) (hgone : p.workers[i]? = some .gone) :
    q.workers[i]? = some .gone := by
  by_cases hi : e.worker? = some i
  · rcases h.workerStep hi with ⟨w, w', hw, _, hstep⟩
    cases hw.symm.trans hgone
    -- All events about a worker need it in its loop.
    cases hstep
  · exact (h.worker_of_ne hi).trans hgone

/-- A worker stays with its connection until that is over. -/
theorem over_or_serving (h : PoolStep carrier p e q)
    (hserving : p.workers[i]? = some (.serving c k d)) :
    (∃ m k', m.isLast = true ∧ e = .move i c m k') ∨
      ∃ k' d', q.workers[i]? = some (.serving c k' d') := by
  by_cases hi : e.worker? = some i
  · rcases h.workerStep hi with ⟨w, w', hw, hw', hstep⟩
    cases hw.symm.trans hserving
    cases hstep with
    | moved hmove => exact .inr ⟨_, _, hw'⟩
    | ended hlast =>
        cases hi
        exact .inl ⟨_, _, hlast, rfl⟩
    | drained hup => exact .inr ⟨_, _, hw'⟩
  · exact .inr ⟨k, d, (h.worker_of_ne hi).trans hserving⟩

/-- How a worker came to serve a connection in its state. -/
theorem serving_before (h : PoolStep carrier p e q)
    (hserving : q.workers[i]? = some (.serving c k d)) :
    (p.workers[i]? = some (.serving c k d) ∧ e.worker? ≠ some i)
    ∨ (e = .accept i c ∧ k = carrier.opened)
    ∨ (∃ m old, e = .move i c m k ∧ p.workers[i]? = some (.serving c old d)
        ∧ carrier.moves old m k = true)
    ∨ ∃ old, e = .drain i c ∧ p.workers[i]? = some (.serving c old false)
        ∧ k = carrier.drain old := by
  by_cases hi : e.worker? = some i
  · rcases h.workerStep hi with ⟨w, w', hw, hw', hstep⟩
    cases hw'.symm.trans hserving
    cases hstep with
    | accepted =>
        cases hi
        exact .inr (.inl ⟨rfl, rfl⟩)
    | moved hmove =>
        cases hi
        exact .inr (.inr (.inl ⟨_, _, rfl, hw, hmove⟩))
    | drained hup =>
        cases hi
        exact .inr (.inr (.inr ⟨_, rfl, hw, rfl⟩))
  · exact .inl ⟨(h.worker_of_ne hi).symm.trans hserving, hi⟩

end PoolStep

/-! ## Interleavings and their parts -/

theorem after?_cons_eq_some_iff :
    p.after? carrier (e :: events) = some q ↔
      ∃ mid, p.step? carrier e = some mid ∧ mid.after? carrier events = some q :=
  Option.bind_eq_some_iff

theorem after?_append_eq_some_iff {front back : List (PoolEvent κ)} :
    p.after? carrier (front ++ back) = some q ↔
      ∃ mid, p.after? carrier front = some mid ∧ mid.after? carrier back = some q := by
  rw [after?, List.foldlM_append]
  exact Option.bind_eq_some_iff

/-- The pool before an event, right after it, and at the end. -/
theorem exists_step_of_after? {front back : List (PoolEvent κ)}
    (h : p.after? carrier (front ++ e :: back) = some q) :
    ∃ before after, p.after? carrier front = some before ∧ PoolStep carrier before e after
      ∧ after.after? carrier back = some q := by
  rcases after?_append_eq_some_iff.1 h with ⟨before, hfront, hrest⟩
  rcases after?_cons_eq_some_iff.1 hrest with ⟨after, hstep, hback⟩
  exact ⟨before, after, hfront, poolStep_of_step? hstep, hback⟩

/-- What every event keeps, all events keep. -/
theorem after?_induction {P : Pool κ → Prop}
    (hstep : ∀ p e q, PoolStep carrier p e q → P p → P q)
    (h : p.after? carrier events = some q) (hp : P p) : P q := by
  induction events generalizing p with
  | nil =>
      cases h
      exact hp
  | cons e events ih =>
      rcases after?_cons_eq_some_iff.1 h with ⟨mid, he, hevents⟩
      exact ih hevents (hstep p e mid (poolStep_of_step? he) hp)

theorem gone_of_after? (h : p.after? carrier events = some q)
    (hgone : p.workers[i]? = some .gone) : q.workers[i]? = some .gone :=
  after?_induction (P := fun p => p.workers[i]? = some .gone)
    (fun _ _ _ hstep hgone => hstep.gone_of_gone hgone) h hgone

theorem stopped_of_after? (h : p.after? carrier events = some q) (hup : p.stopped = true) :
    q.stopped = true :=
  after?_induction (P := fun p => p.stopped = true)
    (fun _ _ _ hstep hup => hstep.stopped_of_stopped hup) h hup

/-- While its connection is not over, a worker serves it. -/
theorem over_or_serving_of_after? (h : p.after? carrier events = some q)
    (hserving : p.workers[i]? = some (.serving c k d)) :
    (∃ m k', m.isLast = true ∧ .move i c m k' ∈ events) ∨
      ∃ k' d', q.workers[i]? = some (.serving c k' d') := by
  induction events generalizing p k d with
  | nil =>
      cases h
      exact .inr ⟨k, d, hserving⟩
  | cons e events ih =>
      rcases after?_cons_eq_some_iff.1 h with ⟨mid, he, hevents⟩
      rcases (poolStep_of_step? he).over_or_serving hserving with
        ⟨m, k', hlast, rfl⟩ | ⟨k', d', hmid⟩
      · exact .inl ⟨m, k', hlast, List.mem_cons_self⟩
      · rcases ih hevents hmid with ⟨m, k'', hlast, hmem⟩ | hend
        · exact .inl ⟨m, k'', hlast, List.mem_cons_of_mem _ hmem⟩
        · exact .inr hend

/-! ## What the events tell about a pool -/

theorem mem_accepted_iff : c ∈ accepted events ↔ ∃ i, .accept i c ∈ events := by
  constructor
  · intro h
    rcases List.mem_filterMap.1 h with ⟨e, he, hc⟩
    cases e with
    | accept i c' =>
        cases hc
        exact ⟨i, he⟩
    | _ => cases hc
  · rintro ⟨i, h⟩
    exact List.mem_filterMap.2 ⟨_, h, rfl⟩

theorem mem_handed_iff : c ∈ handed events ↔ ∃ i k, .move i c .hand k ∈ events := by
  constructor
  · intro h
    rcases List.mem_filterMap.1 h with ⟨e, he, hc⟩
    cases e with
    | move i c' m k =>
        cases m with
        | hand =>
            cases hc
            exact ⟨i, k, he⟩
        | _ => cases hc
    | _ => cases hc
  · rintro ⟨i, k, h⟩
    exact List.mem_filterMap.2 ⟨_, h, rfl⟩

theorem mem_movesOn_iff {m : Move} : m ∈ movesOn i c events ↔ ∃ k, .move i c m k ∈ events := by
  constructor
  · intro h
    rcases List.mem_filterMap.1 h with ⟨e, he, hm⟩
    cases e with
    | move j c' m' k =>
        by_cases hsame : j = i ∧ c' = c
        · rcases hsame with ⟨rfl, rfl⟩
          simp only [and_self, if_true, Option.some.injEq] at hm
          exact ⟨k, hm ▸ he⟩
        · simp [hsame] at hm
    | _ => cases hm
  · rintro ⟨k, h⟩
    exact List.mem_filterMap.2 ⟨_, h, by simp⟩

/-- A connection that was accepted once was accepted by one worker. -/
theorem eq_of_nodup_accepted (hnodup : (accepted events).Nodup) (hi : .accept i c ∈ events)
    (hj : .accept j c ∈ events) : i = j := by
  induction events with
  | nil => cases hi
  | cons e events ih =>
      by_cases he : ∃ l, e = .accept l c
      · rcases he with ⟨l, rfl⟩
        -- No other event can be about the same connection.
        have honly : ∀ l', PoolEvent.accept l' c ∈ PoolEvent.accept l c :: events → l' = l := by
          intro l' hmem
          rcases List.mem_cons.1 hmem with heq | hrest
          · cases heq
            rfl
          · exact absurd (mem_accepted_iff.2 ⟨l', hrest⟩) (List.nodup_cons.1 hnodup).1
        exact (honly i hi).trans (honly j hj).symm
      · have htail : (accepted events).Nodup := by
          cases e with
          | accept => exact (List.nodup_cons.1 hnodup).2
          | _ => exact hnodup
        have hin : ∀ l, PoolEvent.accept l c ∈ e :: events → PoolEvent.accept l c ∈ events := by
          intro l hmem
          rcases List.mem_cons.1 hmem with rfl | hrest
          · exact absurd ⟨l, rfl⟩ he
          · exact hrest
        exact ih htail (hin i hi) (hin j hj)

/-- What the events that led to a pool tell about it. -/
structure Accords (carrier : Carrier κ) (size : Nat) (events : List (PoolEvent κ)) (p : Pool κ) :
    Prop where
  length : p.workers.length = size
  /-- Connections are accepted in the order in which they arrive. -/
  queue : accepted events ++ p.queue = List.range p.arrived
  /-- The state of a connection is what its moves have led to. -/
  served : ∀ i c k d, p.workers[i]? = some (.serving c k d) →
    .accept i c ∈ events ∧ carrier.Reaches (movesOn i c events) k
  moved : ∀ i c m k, .move i c m k ∈ events → .accept i c ∈ events
  handedOnce : (handed events).Nodup
  stopped : p.stopped = true → .stop ∈ events
  gone : ∀ i : Nat, p.workers[i]? = some .gone → p.stopped = true
  awaited : ∀ i, i < p.awaited → p.workers[i]? = some .gone

theorem accords_start (carrier : Carrier κ) (size : Nat) :
    Accords carrier size [] (start size) := by
  have hidle : ∀ (i : Nat) (w : Worker κ), (start size).workers[i]? = some w → w = .idle := by
    intro i w hw
    exact List.eq_of_mem_replicate (List.mem_of_getElem? hw)
  refine ⟨List.length_replicate, rfl, ?_, ?_, List.nodup_nil, ?_, ?_, ?_⟩
  · intro i c k d hserving
    cases hidle i _ hserving
  · intro i c m k hmem
    cases hmem
  · intro hup
    cases hup
  · intro i hgone
    cases hidle i _ hgone
  · intro i hi
    exact absurd hi (Nat.not_lt_zero i)

theorem movesOn_move (events : List (PoolEvent κ)) (i : Nat) (c : Connection) (m : Move) (k : κ) :
    movesOn i c (events ++ [.move i c m k]) = movesOn i c events ++ [m] := by
  simp [movesOn]

theorem movesOn_of_not_move (h : ∀ m k, e ≠ .move i c m k) (events : List (PoolEvent κ)) :
    movesOn i c (events ++ [e]) = movesOn i c events := by
  have hnone : movesOn i c [e] = [] := by
    rw [List.eq_nil_iff_forall_not_mem]
    intro m hm
    rcases mem_movesOn_iff.1 hm with ⟨k, hmem⟩
    exact h m k (List.mem_singleton.1 hmem).symm
  rw [movesOn, List.filterMap_append]
  exact (congrArg _ hnone).trans (List.append_nil _)

namespace Accords

/-- A connection that waits to be accepted has not been accepted yet. -/
theorem not_mem_accepted (h : Accords carrier size events p) {rest : List Connection}
    (hqueue : p.queue = c :: rest) : c ∉ accepted events := by
  have hnodup : (accepted events ++ c :: rest).Nodup := by
    rw [← hqueue, h.queue]
    exact List.nodup_range
  intro hmem
  exact (List.nodup_append.1 hnodup).2.2 c hmem c List.mem_cons_self rfl

theorem nodup_accepted (h : Accords carrier size events p) : (accepted events).Nodup := by
  have hnodup : (accepted events ++ p.queue).Nodup := by
    rw [h.queue]
    exact List.nodup_range
  exact (List.nodup_append.1 hnodup).1

/-- A connection that can hand over its request has not done so before. -/
theorem not_mem_handed (hlawful : carrier.Lawful) (h : Accords carrier size events p) {k' : κ}
    (hserving : p.workers[i]? = some (.serving c k d)) (hmove : carrier.moves k .hand k' = true) :
    c ∉ handed events := by
  intro hmem
  rcases h.served i c k d hserving with ⟨haccept, hreaches⟩
  rcases mem_handed_iff.1 hmem with ⟨j, old, hold⟩
  -- Only the worker that accepted a connection moves it.
  have hij : j = i := eq_of_nodup_accepted h.nodup_accepted (h.moved j c .hand old hold) haccept
  subst hij
  exact hlawful.single hreaches hmove (mem_movesOn_iff.2 ⟨old, hold⟩)

theorem queue_step (h : Accords carrier size events p) (hstep : PoolStep carrier p e q) :
    accepted (events ++ [e]) ++ q.queue = List.range q.arrived := by
  have hquiet : accepted [e] = [] → q.queue = p.queue → q.arrived = p.arrived →
      accepted (events ++ [e]) ++ q.queue = List.range q.arrived := by
    intro hnone hqueue harrived
    have hsame : accepted (events ++ [e]) = accepted events := by
      rw [accepted, List.filterMap_append]
      exact (congrArg _ hnone).trans (List.append_nil _)
    rw [hsame, hqueue, harrived, h.queue]
  cases hstep with
  | arrived =>
      calc
        accepted (events ++ [.arrive]) ++ (p.queue ++ [p.arrived])
            = (accepted events ++ p.queue) ++ [p.arrived] := by simp [accepted]
        _ = List.range (p.arrived + 1) := by rw [h.queue, List.range_succ]
  | @accepted i c rest hready hqueue =>
      calc
        accepted (events ++ [.accept i c]) ++ rest
            = accepted events ++ c :: rest := by simp [accepted]
        _ = List.range p.arrived := by rw [← hqueue, h.queue]
  | _ => exact hquiet rfl rfl rfl

theorem served_step (h : Accords carrier size events p) (hstep : PoolStep carrier p e q) :
    ∀ i c k d, q.workers[i]? = some (.serving c k d) →
      .accept i c ∈ events ++ [e] ∧ carrier.Reaches (movesOn i c (events ++ [e])) k := by
  intro i c k d hserving
  rcases hstep.serving_before hserving with
    ⟨hold, hother⟩ | ⟨rfl, rfl⟩ | ⟨m, old, rfl, hold, hmove⟩ | ⟨old, rfl, hold, rfl⟩
  · rcases h.served i c k d hold with ⟨haccept, hreaches⟩
    have hquiet : ∀ m k', e ≠ .move i c m k' := by
      rintro m k' rfl
      exact hother rfl
    rw [movesOn_of_not_move hquiet]
    exact ⟨List.mem_append_left _ haccept, hreaches⟩
  · -- Nothing has happened on a connection before it is accepted.
    have hnone : movesOn i c events = [] := by
      rw [List.eq_nil_iff_forall_not_mem]
      intro m hm
      rcases mem_movesOn_iff.1 hm with ⟨k', hmem⟩
      cases hstep with
      | accepted hready hqueue =>
          exact h.not_mem_accepted hqueue (mem_accepted_iff.2 ⟨i, h.moved i c m k' hmem⟩)
    rw [movesOn_of_not_move (by intro m k' heq; cases heq), hnone]
    exact ⟨List.mem_append_right _ List.mem_cons_self, .opened⟩
  · rcases h.served i c old d hold with ⟨haccept, hreaches⟩
    rw [movesOn_move]
    exact ⟨List.mem_append_left _ haccept, hreaches.moved hmove⟩
  · rcases h.served i c old false hold with ⟨haccept, hreaches⟩
    rw [movesOn_of_not_move (by intro m k' heq; cases heq)]
    exact ⟨List.mem_append_left _ haccept, hreaches.drained⟩

theorem moved_step (h : Accords carrier size events p) (hstep : PoolStep carrier p e q) :
    ∀ i c m k, .move i c m k ∈ events ++ [e] → .accept i c ∈ events ++ [e] := by
  intro i c m k hmem
  rcases List.mem_append.1 hmem with hold | hnew
  · exact List.mem_append_left _ (h.moved i c m k hold)
  · have hserving : ∃ old d, p.workers[i]? = some (.serving c old d) := by
      cases List.mem_singleton.1 hnew
      cases hstep with
      | moved hserving => exact ⟨_, _, hserving⟩
      | ended hserving => exact ⟨_, _, hserving⟩
    rcases hserving with ⟨old, d, hserving⟩
    exact List.mem_append_left _ (h.served i c old d hserving).1

theorem handed_step (hlawful : carrier.Lawful) (h : Accords carrier size events p)
    (hstep : PoolStep carrier p e q) : (handed (events ++ [e])).Nodup := by
  have happend : handed (events ++ [e]) = handed events ++ handed [e] :=
    List.filterMap_append
  by_cases hhand : ∃ i c k, e = .move i c .hand k
  · rcases hhand with ⟨i, c, k, rfl⟩
    have hout : c ∉ handed events := by
      cases hstep with
      | moved hserving hmove => exact h.not_mem_handed hlawful hserving hmove
      | ended hserving hmove => exact h.not_mem_handed hlawful hserving hmove
    rw [happend]
    exact List.nodup_append.2 ⟨h.handedOnce, List.pairwise_singleton _ c, by
      rintro a ha b hb rfl
      exact hout (List.mem_singleton.1 hb ▸ ha)⟩
  · have hnone : handed [e] = [] := by
      rw [List.eq_nil_iff_forall_not_mem]
      intro c hc
      rcases mem_handed_iff.1 hc with ⟨i, k, hmem⟩
      exact hhand ⟨i, c, k, (List.mem_singleton.1 hmem).symm⟩
    rw [happend, hnone, List.append_nil]
    exact h.handedOnce

/-- A worker leaves its loop only when it finds the flag up. -/
theorem gone_step (h : Accords carrier size events p) (hstep : PoolStep carrier p e q) :
    ∀ i : Nat, q.workers[i]? = some .gone → q.stopped = true := by
  intro i hgone
  apply hstep.stopped_of_stopped
  by_cases hi : e.worker? = some i
  · rcases hstep.workerStep hi with ⟨w, w', _, hw', hworker⟩
    cases hw'.symm.trans hgone
    cases hworker with
    | left hup => exact hup
  · exact h.gone i ((hstep.worker_of_ne hi).symm.trans hgone)

theorem awaited_step (h : Accords carrier size events p) (hstep : PoolStep carrier p e q) :
    ∀ i, i < q.awaited → q.workers[i]? = some .gone := by
  intro i hi
  have hbefore : p.workers[i]? = some .gone := by
    cases hstep with
    | awaited hgone =>
        rcases Nat.lt_succ_iff_lt_or_eq.1 hi with hlt | rfl
        · exact h.awaited i hlt
        · exact hgone
    | _ => exact h.awaited i hi
  exact hstep.gone_of_gone hbefore

theorem step (hlawful : carrier.Lawful) (h : Accords carrier size events p)
    (hstep : PoolStep carrier p e q) : Accords carrier size (events ++ [e]) q := by
  refine ⟨hstep.length_workers.trans h.length, h.queue_step hstep, h.served_step hstep,
    h.moved_step hstep, h.handed_step hlawful hstep, ?_, h.gone_step hstep, h.awaited_step hstep⟩
  intro hup
  cases hstep with
  | stopped => exact List.mem_append_right _ List.mem_cons_self
  | _ => exact List.mem_append_left _ (h.stopped hup)

theorem run (hlawful : carrier.Lawful) {more : List (PoolEvent κ)}
    (h : Accords carrier size events p) (hrun : p.after? carrier more = some q) :
    Accords carrier size (events ++ more) q := by
  induction more generalizing events p with
  | nil =>
      cases hrun
      simpa using h
  | cons e more ih =>
      rcases after?_cons_eq_some_iff.1 hrun with ⟨mid, he, hmore⟩
      simpa using ih (h.step hlawful (poolStep_of_step? he)) hmore

end Accords

theorem accords_of_after? (hlawful : carrier.Lawful)
    (h : (start size).after? carrier events = some p) : Accords carrier size events p :=
  (accords_start carrier size).run hlawful h

/-! ## How long a worker stays with a connection -/

/-- Before a worker is in a turn again, the connection that it accepted is over. -/
theorem exists_last_of_accept {front mid : List (PoolEvent κ)}
    (h : p.after? carrier (front ++ .accept i c :: mid) = some q)
    (hend : ∀ k d, q.workers[i]? ≠ some (.serving c k d)) :
    ∃ m k, m.isLast = true ∧ .move i c m k ∈ mid := by
  rcases exists_step_of_after? h with ⟨before, after, _, hstep, hmid⟩
  have hserving : after.workers[i]? = some (.serving c carrier.opened false) := by
    cases hstep with
    | accepted hready hqueue =>
        exact getElem?_setWorker_self hready _
  rcases over_or_serving_of_after? hmid hserving with hover | ⟨k, d, hstill⟩
  · exact hover
  · exact absurd hstill (hend k d)

/-- A request that went to its handler keeps the worker until it is answered in full. -/
theorem answered_of_hand (hlawful : carrier.Lawful) {front mid : List (PoolEvent κ)}
    (h : (start size).after? carrier (front ++ .move i c .hand k :: mid) = some q)
    (hend : ∀ k d, q.workers[i]? ≠ some (.serving c k d))
    (hstays : ∀ k, .move i c .breakOff k ∉ mid) : ∃ k', .move i c .answer k' ∈ mid := by
  rcases exists_step_of_after? h with ⟨before, after, _, hstep, hmid⟩
  have hserving : ∃ d, after.workers[i]? = some (.serving c k d) := by
    cases hstep with
    | moved hserving => exact ⟨_, getElem?_setWorker_self hserving _⟩
    | ended _ _ hlast => cases hlast
  rcases hserving with ⟨d, hserving⟩
  rcases over_or_serving_of_after? hmid hserving with ⟨m, k', hlast, hmem⟩ | ⟨k', d', hstill⟩
  · cases m with
    | breakOff => exact absurd hmem (hstays k')
    | close =>
        -- The carrier does not close a connection that owes an answer, so the answer came before.
        rcases List.append_of_mem hmem with ⟨first, second, rfl⟩
        have hsplit : front ++ .move i c .hand k :: (first ++ .move i c .close k' :: second) =
            (front ++ .move i c .hand k :: first) ++ .move i c .close k' :: second := by
          simp
        rw [hsplit] at h
        rcases exists_step_of_after? h with ⟨atClose, _, hfirst, hclose, _⟩
        have haccords := accords_of_after? hlawful hfirst
        have hmoves : movesOn i c (front ++ .move i c .hand k :: first) =
            movesOn i c front ++ .hand :: movesOn i c first := by
          simp [movesOn]
        have hanswer : .answer ∈ movesOn i c first := by
          cases hclose with
          | moved hold hmove hlast => cases hlast
          | ended hold hmove _ =>
              have hreaches := (haccords.served i c _ _ hold).2
              rw [hmoves] at hreaches
              exact hlawful.settles hreaches hmove
        rcases mem_movesOn_iff.1 hanswer with ⟨k'', hk⟩
        exact ⟨k'', List.mem_append_left _ hk⟩
    | _ => cases hlast
  · exact absurd hstill (hend k' d')

/-! ## After the flag was raised -/

theorem not_accept_of_gone (h : p.after? carrier events = some q)
    (hgone : p.workers[i]? = some .gone) (c : Connection) : .accept i c ∉ events := by
  intro hmem
  rcases List.append_of_mem hmem with ⟨front, back, rfl⟩
  rcases exists_step_of_after? h with ⟨before, after, hfront, hstep, _⟩
  cases hstep with
  | accepted hready => cases (gone_of_after? hfront hgone).symm.trans hready

/-- A worker that begins a turn with the flag up accepts nothing any more. -/
theorem not_accept_of_late_turn {front mid back : List (PoolEvent κ)}
    (h : p.after? carrier (front ++ .stop :: (mid ++ .turn i :: back)) = some q)
    (c : Connection) : .accept i c ∉ back := by
  rcases exists_step_of_after? h with ⟨_, raised, _, hstop, hrest⟩
  have hup : raised.stopped = true := by
    cases hstop
    rfl
  rcases exists_step_of_after? hrest with ⟨atTurn, left, hmid, hturn, hback⟩
  have hgone : left.workers[i]? = some .gone := by
    cases hturn with
    | entered _ hdown => cases (stopped_of_after? hmid hup).symm.trans hdown
    | left hidle => exact getElem?_setWorker_self hidle _
  exact not_accept_of_gone hback hgone c

/-- The pool at the end of the wait: all workers have left their loops. -/
theorem exists_gone_of_finish (hlawful : carrier.Lawful) {front back : List (PoolEvent κ)}
    (h : (start size).after? carrier (front ++ .finish :: back) = some q) :
    ∃ p, (start size).after? carrier front = some p ∧ p.after? carrier back = some q
      ∧ ∀ i : Nat, i < size → p.workers[i]? = some .gone := by
  rcases exists_step_of_after? h with ⟨p, _, hfront, hstep, hback⟩
  have haccords := accords_of_after? hlawful hfront
  cases hstep with
  | finished hall =>
      refine ⟨p, hfront, hback, ?_⟩
      intro i hi
      apply haccords.awaited
      rw [hall, haccords.length]
      exact hi

theorem eq_replicate_of_gone (hlength : p.workers.length = size)
    (hgone : ∀ i : Nat, i < size → p.workers[i]? = some .gone) :
    p.workers = List.replicate size .gone := by
  refine List.eq_replicate_iff.2 ⟨hlength, ?_⟩
  intro w hw
  rcases List.getElem?_of_mem hw with ⟨i, hi⟩
  have hlt : i < size := hlength ▸ (List.getElem?_eq_some_iff.1 hi).1
  exact Option.some.inj (hi.symm.trans (hgone i hlt))

/-- Only a worker of the pool accepts connections. -/
theorem lt_of_mem_accept (h : p.after? carrier events = some q)
    (hmem : .accept i c ∈ events) : i < p.workers.length := by
  rcases List.append_of_mem hmem with ⟨front, back, rfl⟩
  rcases exists_step_of_after? h with ⟨before, after, hfront, hstep, _⟩
  have hlength : before.workers.length = p.workers.length :=
    after?_induction (P := fun r => r.workers.length = p.workers.length)
      (fun _ _ _ hstep heq => hstep.length_workers.trans heq) hfront rfl
  cases hstep with
  | accepted hready =>
      rw [← hlength]
      exact (List.getElem?_eq_some_iff.1 hready).1

/-- What holds when the wait for the workers is over. -/
theorem over_of_finish (hlawful : carrier.Lawful) (hsize : 0 < size)
    {front back : List (PoolEvent κ)}
    (h : (start size).after? carrier (front ++ .finish :: back) = some q) :
    .stop ∈ front
    ∧ q.workers = List.replicate size .gone
    ∧ (∀ i c before after, front = before ++ .accept i c :: after →
        ∃ m k, m.isLast = true ∧ .move i c m k ∈ after)
    ∧ ∀ i c, .accept i c ∉ back := by
  rcases exists_gone_of_finish hlawful h with ⟨p, hfront, hback, hgone⟩
  have haccords := accords_of_after? hlawful hfront
  have hlength := (accords_of_after? hlawful h).length
  refine ⟨?_, ?_, ?_, ?_⟩
  · exact haccords.stopped (haccords.gone 0 (hgone 0 hsize))
  · apply eq_replicate_of_gone hlength
    intro i hi
    exact gone_of_after? hback (hgone i hi)
  · rintro i c before after rfl
    apply exists_last_of_accept hfront
    intro k d hserving
    have hlt : i < size := haccords.length ▸ (List.getElem?_eq_some_iff.1 hserving).1
    cases (hgone i hlt).symm.trans hserving
  · intro i c hmem
    have hlt : i < size := haccords.length ▸ lt_of_mem_accept hback hmem
    exact not_accept_of_gone hback (hgone i hlt) c hmem

end Pool

open Pool

/-- Any number of workers, connections and raised flags, in any interleaving. -/
theorem pool_is_safe_under_any_interleaving (hlawful : carrier.Lawful) {size : Nat}
    (hsize : 0 < size) {events : List (PoolEvent κ)} {p : Pool κ}
    (h : (Pool.start size).after? carrier events = some p) :
    -- connections are accepted in the order in which they arrive, each once and by one worker
    accepted events ++ p.queue = List.range p.arrived
    ∧ (accepted events).Nodup
    ∧ (∀ i j c, .accept i c ∈ events → .accept j c ∈ events → i = j)
    -- the request of each goes to its handler once at most
    ∧ (handed events).Nodup
    -- a worker accepts no connection before the one that it has accepted is over
    ∧ (∀ i c c' front mid back, events = front ++ .accept i c :: (mid ++ .accept i c' :: back) →
        ∃ m k, m.isLast = true ∧ .move i c m k ∈ mid)
    -- a request that went to its handler is answered in full before its worker begins another turn,
    -- accepts another connection, or is gone, unless its client breaks the connection off
    ∧ (∀ i c k front mid last back, events = front ++ .move i c .hand k :: (mid ++ last :: back) →
        last = .turn i ∨ (∃ c', last = .accept i c') → (∀ k', .move i c .breakOff k' ∉ mid) →
        ∃ k', .move i c .answer k' ∈ mid)
    ∧ (∀ i c k front mid, events = front ++ .move i c .hand k :: mid → p.workers[i]? = some .gone →
        (∀ k', .move i c .breakOff k' ∉ mid) → ∃ k', .move i c .answer k' ∈ mid)
    -- a turn that begins after the flag was raised accepts nothing
    ∧ (∀ i c front mid back, events = front ++ .stop :: (mid ++ .turn i :: back) →
        .accept i c ∉ back)
    -- whoever waits for the workers is done only when the flag was raised, all workers are gone and
    -- every connection that was accepted is over, and none is accepted from then on
    ∧ (∀ front back, events = front ++ .finish :: back →
        .stop ∈ front
        ∧ p.workers = List.replicate size .gone
        ∧ (∀ i c before after, front = before ++ .accept i c :: after →
            ∃ m k, m.isLast = true ∧ .move i c m k ∈ after)
        ∧ ∀ i c, .accept i c ∉ back) := by
  have haccords := accords_of_after? hlawful h
  refine ⟨haccords.queue, haccords.nodup_accepted, ?_, haccords.handedOnce, ?_, ?_, ?_, ?_, ?_⟩
  · intro i j c hi hj
    exact eq_of_nodup_accepted haccords.nodup_accepted hi hj
  · rintro i c c' front mid back rfl
    rw [← List.cons_append, ← List.append_assoc] at h
    rcases exists_step_of_after? h with ⟨before, _, hbefore, hstep, _⟩
    apply exists_last_of_accept hbefore
    intro k d hserving
    cases hstep with
    | accepted hready => cases hready.symm.trans hserving
  · rintro i c k front mid last back rfl hlast hstays
    rw [← List.cons_append, ← List.append_assoc] at h
    rcases exists_step_of_after? h with ⟨before, _, hbefore, hstep, _⟩
    refine answered_of_hand hlawful hbefore ?_ hstays
    intro k' d hserving
    rcases hlast with rfl | ⟨c', rfl⟩
    · cases hstep with
      | entered hidle => cases hidle.symm.trans hserving
      | left hidle => cases hidle.symm.trans hserving
    · cases hstep with
      | accepted hready => cases hready.symm.trans hserving
  · rintro i c k front mid rfl hgone hstays
    refine answered_of_hand hlawful h ?_ hstays
    intro k' d hserving
    cases hgone.symm.trans hserving
  · rintro i c front mid back rfl
    exact not_accept_of_late_turn h c
  · rintro front back rfl
    exact over_of_finish hlawful hsize h

/-! ## A carrier that answers one request -/

/-- How far a connection has come. -/
inductive Phase where
  /-- Nothing was read yet. -/
  | fresh
  | reading
  | handling
  | answered
  /-- Told to come to its end before anything was read. -/
  | shut
  | ended
  deriving DecidableEq, Repr

/-- Carries connections on which nothing gets lost. -/
def plainCarrier : Carrier Phase where
  opened := .fresh
  moves
    | .fresh, .proceed, .reading => true
    | .reading, .proceed, .reading => true
    | .reading, .hand, .handling => true
    | .reading, .close, .ended => true
    | .handling, .answer, .answered => true
    | .answered, .close, .ended => true
    | .shut, .close, .ended => true
    | _, .breakOff, .ended => true
    | _, _, _ => false
  drain
    | .fresh => .shut
    | k => k

/-- What the moves of a connection tell about how far it has come. -/
def Phase.Accords (moves : List Move) : Phase → Prop
  | .fresh | .reading | .shut => .hand ∉ moves
  | .answered => ∀ before after, moves = before ++ .hand :: after → .answer ∈ after
  | .handling | .ended => True

theorem hand_not_mem_concat {moves : List Move} {m : Move} (hmoves : .hand ∉ moves)
    (hm : m ≠ .hand) : .hand ∉ moves ++ [m] := by
  intro hmem
  rcases List.mem_append.1 hmem with hold | hnew
  · exact hmoves hold
  · exact hm (List.mem_singleton.1 hnew).symm

theorem answer_after_hand {moves before after : List Move}
    (heq : moves ++ [.answer] = before ++ .hand :: after) : .answer ∈ after := by
  -- The answer comes last, so it comes after the request.
  rcases List.eq_nil_or_concat after with rfl | ⟨after, last, rfl⟩
  · have hlast := congrArg List.getLast? heq
    simp at hlast
  · have hlast := congrArg List.getLast? heq
    simp only [← List.append_assoc, List.concat_eq_append, ← List.cons_append,
      List.getLast?_append, List.getLast?_singleton, Option.some_or, Option.some.injEq] at hlast
    subst hlast
    rw [List.concat_eq_append]
    exact List.mem_append_right _ List.mem_cons_self

theorem accords_of_reaches {moves : List Move} {k : Phase} (h : plainCarrier.Reaches moves k) :
    k.Accords moves := by
  induction h with
  | opened => exact List.not_mem_nil
  | @moved moves k k' m before step ih =>
      cases k' with
      | handling | ended => exact trivial
      | answered =>
          cases k <;> cases m <;> cases step
          exact fun before after heq => answer_after_hand heq
      | _ =>
          cases k <;> cases m <;> cases step
          all_goals exact hand_not_mem_concat ih (by decide)
  | @drained moves k before ih =>
      cases k <;> exact ih

theorem lawful_plainCarrier : plainCarrier.Lawful := by
  refine ⟨?_, ?_⟩
  · intro moves k k' hreaches hmove
    have haccords := accords_of_reaches hreaches
    cases k with
    | reading => exact haccords
    | _ => cases k' <;> cases hmove
  · intro before after k k' hreaches hmove
    have haccords := accords_of_reaches hreaches
    have hhand : Move.hand ∈ before ++ .hand :: after :=
      List.mem_append_right _ List.mem_cons_self
    cases k with
    | reading => exact absurd hhand haccords
    | shut => exact absurd hhand haccords
    | answered => exact haccords before after rfl
    | _ => cases k' <;> cases hmove

/-- The flag is raised, twice, while one worker serves a request and the other is in a turn, in
which it then accepts a connection on which nothing has come yet. -/
def stoppedRun : List (PoolEvent Phase) := [
  .arrive, .arrive, .turn 0, .accept 0 0, .move 0 0 .proceed .reading, .move 0 0 .hand .handling,
  .turn 1, .stop, .stop, .drain 0 0, .accept 1 1, .drain 1 1, .move 0 0 .answer .answered,
  .move 0 0 .close .ended, .turn 0, .await, .move 1 1 .close .ended, .turn 1, .await, .finish]

/-- The pool at the end of that run. -/
def stoppedPool : Pool Phase :=
  { workers := [.gone, .gone], arrived := 2, stopped := true, awaited := 2 }

theorem pool_is_safe_under_any_interleaving_when_stopped :
    plainCarrier.Lawful
    ∧ (Pool.start 2).after? plainCarrier stoppedRun = some stoppedPool
    ∧ accepted stoppedRun = [0, 1]
    ∧ handed stoppedRun = [0]
    ∧ (∃ k, PoolEvent.move 0 0 .answer k ∈ (stoppedRun.drop 6).take 8)
    ∧ PoolEvent.stop ∈ stoppedRun.take 19
    ∧ stoppedPool.workers = List.replicate 2 .gone
    ∧ ∃ m k, m.isLast = true ∧ PoolEvent.move 1 1 m k ∈ (stoppedRun.drop 11).take 8 := by
  have hrun : (Pool.start 2).after? plainCarrier stoppedRun = some stoppedPool := by
    decide
  rcases pool_is_safe_under_any_interleaving lawful_plainCarrier (by decide) hrun with
    ⟨hqueue, _, _, _, _, hanswered, _, _, hfinish⟩
  rcases hfinish (stoppedRun.take 19) [] rfl with ⟨hstop, hworkers, hover, _⟩
  have hstays : ∀ k', .move 0 0 .breakOff k' ∉ (stoppedRun.drop 6).take 8 := by
    intro k'
    cases k' <;> decide
  refine ⟨lawful_plainCarrier, hrun, ?_, rfl, ?_, hstop, hworkers, ?_⟩
  · exact (List.append_nil _).symm.trans hqueue
  · exact hanswered 0 0 .handling (stoppedRun.take 5) ((stoppedRun.drop 6).take 8) (.turn 0)
      (stoppedRun.drop 15) rfl (.inl rfl) hstays
  · exact hover 1 1 (stoppedRun.take 10) ((stoppedRun.drop 11).take 8) rfl

end Server
end RpcHost
