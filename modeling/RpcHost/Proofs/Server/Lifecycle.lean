import RpcHost.Server.Calls

/-!
# The life of a server under any calls

What a call can do is written down once, in `CallStep`. From it follows what one call keeps, and by
induction over the calls what any number of them keep: `Accords` ties the server to the history of
its calls. The main statement, `life_goes_one_way`, says that stages are only passed forwards, that
at most one start or run succeeds, that a failed one changes nothing, and what the flag tells.
-/

namespace RpcHost
namespace Server

open Net

/-! ## Before the address is bound -/

namespace Lifecycle

variable {m : Type → Type} [Monad m]

/-- Neither the number of workers nor the address matters to a server that was started before. -/
theorem prepareBy_of_started (bind : String → UInt16 → m BindResult) {s : Lifecycle}
    (h : s.stage ≠ .created) : s.prepareBy bind = pure (.error .alreadyStarted) := by
  simp [prepareBy, h]

/-- Without workers no address is bound. -/
theorem prepareBy_of_noWorkers (bind : String → UInt16 → m BindResult) {s : Lifecycle}
    (hstage : s.stage = .created) (hworkers : s.settings.workerCount = 0) :
    s.prepareBy bind = pure (.error .noWorkers) := by
  simp [prepareBy, hstage, hworkers]

/-- Binding an address is as good as knowing what it comes to. -/
theorem prepare_eq (bound : BindResult) (s : Lifecycle) :
    s.prepare bound = Id.run (s.prepareBy fun _ _ => pure bound) :=
  rfl

theorem prepare_of_started {s : Lifecycle} (h : s.stage ≠ .created) (bound : BindResult) :
    s.prepare bound = .error .alreadyStarted := by
  rw [prepare_eq, prepareBy_of_started _ h]
  rfl

theorem prepare_of_noWorkers {s : Lifecycle} (hstage : s.stage = .created)
    (hworkers : s.settings.workerCount = 0) (bound : BindResult) :
    s.prepare bound = .error .noWorkers := by
  rw [prepare_eq, prepareBy_of_noWorkers _ hstage hworkers]
  rfl

theorem prepare_of_unbound {s : Lifecycle} (hstage : s.stage = .created)
    (hworkers : s.settings.workerCount ≠ 0) (fault : BindFault) :
    s.prepare (.error fault) = .error (.unbound s.settings.bindAddress fault) := by
  simp [prepare, prepareBy, hstage, hworkers]

theorem prepare_of_bound {s : Lifecycle} (hstage : s.stage = .created)
    (hworkers : s.settings.workerCount ≠ 0) (address : SocketAddress) :
    s.prepare (.ok address) = .ok address := by
  simp [prepare, prepareBy, hstage, hworkers]

/-- Only a server that was never started, has workers and gets its address is prepared. -/
theorem of_prepare_eq_ok {s : Lifecycle} {bound : BindResult} {address : SocketAddress}
    (h : s.prepare bound = .ok address) : s.stage = .created ∧ bound = .ok address := by
  by_cases hstage : s.stage = .created
  · by_cases hworkers : s.settings.workerCount = 0
    · rw [prepare_of_noWorkers hstage hworkers] at h
      cases h
    · cases bound with
      | error fault =>
          rw [prepare_of_unbound hstage hworkers] at h
          cases h
      | ok bound =>
          rw [prepare_of_bound hstage hworkers] at h
          cases h
          exact ⟨hstage, rfl⟩
  · rw [prepare_of_started hstage] at h
    cases h

end Lifecycle

/-! ## What a call does -/

namespace Session

variable {s s' : Session} {call : Call} {reply : Reply} {history : History}

/-- Everything that a call which returns can do. -/
inductive CallStep (s : Session) : Call → Reply → Session → Prop where
  | started {address : SocketAddress} (hstage : s.server.stage = .created) :
      CallStep s (.start (.ok address)) (some (.ok address))
        { s with server := { s.server with
            stage := .running, address := some address, supervised := true } }
  | served {address : SocketAddress} {stopper : Option Nat} (hstage : s.server.stage = .created)
      (htold : s.server.cancelled = true ∨ stopper.isSome = true) :
      CallStep s (.run (.ok address) stopper) (some (.ok address))
        { s with server := { s.server with
            stage := .joined, address := some address, cancelled := true } }
  | startFailed {bound : BindResult} {e : StartError} (h : s.server.prepare bound = .error e) :
      CallStep s (.start bound) (some (.error e)) s
  | runFailed {bound : BindResult} {stopper : Option Nat} {e : StartError}
      (h : s.server.prepare bound = .error e) :
      CallStep s (.run bound stopper) (some (.error e)) s
  | stopped : CallStep s .stop none { s with server := s.server.stop }
  | joined {stopper : Option Nat} (htold : s.server.supervised = true →
        s.server.cancelled = true ∨ stopper.isSome = true) :
      CallStep s (.join stopper) none
        { s with server := { s.server with
            stage := .joined, supervised := false
            cancelled := s.server.cancelled || stopper.isSome } }
  | tookHandle : CallStep s .takeHandle none { s with handles := s.handles + 1 }
  | toldThrough {handle : Nat} (h : handle < s.handles) :
      CallStep s (.stopThrough handle) none { s with server := s.server.cancel }

theorem callStep_start {bound : BindResult}
    (h : s.perform? (.start bound) = some (reply, s')) : CallStep s (.start bound) reply s' := by
  cases hprepare : s.server.prepare bound with
  | error e =>
      simp only [perform?, Lifecycle.start, hprepare] at h
      cases h
      exact .startFailed hprepare
  | ok address =>
      rcases Lifecycle.of_prepare_eq_ok hprepare with ⟨hstage, rfl⟩
      simp only [perform?, Lifecycle.start, hprepare] at h
      cases h
      exact .started hstage

theorem callStep_run {bound : BindResult} {stopper : Option Nat}
    (h : s.perform? (.run bound stopper) = some (reply, s')) :
    CallStep s (.run bound stopper) reply s' := by
  cases hprepare : s.server.prepare bound with
  | error e =>
      simp only [perform?, Lifecycle.run, hprepare] at h
      split at h
      · cases h
      · cases h
        exact .runFailed hprepare
  | ok address =>
      rcases Lifecycle.of_prepare_eq_ok hprepare with ⟨hstage, rfl⟩
      simp only [perform?, Lifecycle.run, hprepare] at h
      -- The call returns only if somebody tells the server to stop.
      split at h
      · cases h
      · split at h
        · rename_i htold
          cases h
          exact .served hstage (Bool.or_eq_true_iff.1 htold)
        · cases h

theorem callStep_join {stopper : Option Nat}
    (h : s.perform? (.join stopper) = some (reply, s')) : CallStep s (.join stopper) reply s' := by
  have htold : (if stopper.isSome then s.server.cancel else s.server) =
      { s.server with cancelled := s.server.cancelled || stopper.isSome } := by
    cases stopper <;> simp [Lifecycle.cancel]
  simp only [perform?, htold, Lifecycle.join?] at h
  split at h
  · cases h
  · split at h
    · cases h
    · rename_i hwaits
      cases h
      refine .joined ?_
      intro hsupervised
      cases hcancelled : s.server.cancelled with
      | true => exact .inl rfl
      | false =>
          refine .inr ?_
          simpa [hsupervised, hcancelled, Option.isSome_iff_ne_none] using hwaits

theorem callStep_of_perform? (h : s.perform? call = some (reply, s')) :
    CallStep s call reply s' := by
  cases call with
  | start bound => exact callStep_start h
  | run bound stopper => exact callStep_run h
  | stop =>
      cases h
      exact .stopped
  | join stopper => exact callStep_join h
  | takeHandle =>
      cases h
      exact .tookHandle
  | stopThrough handle =>
      rw [perform?] at h
      split at h
      · rename_i hheld
        cases h
        exact .toldThrough hheld
      · cases h

/-! ## What one call keeps -/

namespace CallStep

/-- No call leads back to an earlier stage. -/
theorem place_le (h : CallStep s call reply s') : s.server.stage.place ≤ s'.server.stage.place := by
  have hlast : ∀ stage : Stage, stage.place ≤ Stage.joined.place := by
    intro stage
    cases stage <;> decide
  cases h with
  | started hstage => simp [hstage, Stage.place]
  | served => exact hlast _
  | startFailed => exact Nat.le_refl _
  | runFailed => exact Nat.le_refl _
  | stopped =>
      by_cases hrunning : s.server.stage = .running
      · simp [Lifecycle.stop, hrunning, Stage.place]
      · simp [Lifecycle.stop, hrunning]
  | joined => exact hlast _
  | tookHandle => exact Nat.le_refl _
  | toldThrough => exact Nat.le_refl _

/-- The flag stays up. -/
theorem cancelled_of_cancelled (h : CallStep s call reply s') (hup : s.server.cancelled = true) :
    s'.server.cancelled = true := by
  cases h with
  | served => rfl
  | stopped => rfl
  | toldThrough => rfl
  | joined => simp [hup]
  | _ => exact hup

theorem eq_of_error {e : StartError} (h : CallStep s call (some (.error e)) s') : s' = s := by
  cases h with
  | startFailed => rfl
  | runFailed => rfl

theorem settings_eq (h : CallStep s call reply s') :
    s'.server.settings = s.server.settings := by
  cases h <;> rfl

end CallStep

/-! ## What all calls keep -/

/-- What the history of its calls tells about a server. -/
structure Accords (history : History) (s : Session) : Prop where
  /-- The address is that of the one call that began to serve. -/
  servedAt : servedAt history = s.server.address.toList
  unserved : s.server.stage = .created → s.server.address = none
  supervised : s.server.supervised = true →
    s.server.stage = .running ∨ s.server.stage = .stopping
  cancelled : s.server.cancelled = history.any tellsToStop

theorem accords_new (settings : Settings) : Accords [] (new settings) := by
  refine ⟨rfl, ?_, ?_, rfl⟩
  · intro _
    rfl
  · intro hsupervised
    cases hsupervised

theorem servedAt_append (history : History) (call : Call) (reply : Reply) :
    Server.servedAt (history ++ [(call, reply)]) =
      Server.servedAt history ++ (reply.bind Except.toOption).toList := by
  cases h : reply.bind Except.toOption <;> simp [Server.servedAt, h]

namespace Accords

/-- A call that begins to serve finds no address yet. -/
theorem servedAt_of_created (h : Accords history s) (hstage : s.server.stage = .created)
    (call : Call) (address : SocketAddress) :
    Server.servedAt (history ++ [(call, some (.ok address))]) = [address] := by
  rw [servedAt_append, h.servedAt, h.unserved hstage]
  rfl

theorem servedAt_of_quiet (h : Accords history s) (call : Call)
    (hreply : reply.bind Except.toOption = none) :
    Server.servedAt (history ++ [(call, reply)]) = s.server.address.toList := by
  rw [servedAt_append, h.servedAt, hreply]
  exact List.append_nil _

theorem any_tellsToStop (h : Accords history s) {told : Bool}
    (htold : tellsToStop (call, reply) = told) :
    (history ++ [(call, reply)]).any tellsToStop = (s.server.cancelled || told) := by
  rw [List.any_append, ← h.cancelled]
  simp [htold]

/-- A call that leaves the server as it is tells nothing new. -/
theorem of_server_eq (h : Accords history s) (hserver : s'.server = s.server)
    (hreply : reply.bind Except.toOption = none) (hquiet : tellsToStop (call, reply) = false) :
    Accords (history ++ [(call, reply)]) s' := by
  refine ⟨?_, ?_, ?_, ?_⟩
  · rw [hserver]
    exact h.servedAt_of_quiet call hreply
  · rw [hserver]
    exact h.unserved
  · rw [hserver]
    exact h.supervised
  · rw [hserver, h.any_tellsToStop hquiet, Bool.or_false]

theorem step (h : Accords history s) (hstep : CallStep s call reply s') :
    Accords (history ++ [(call, reply)]) s' := by
  cases hstep with
  | @started address hstage =>
      refine ⟨h.servedAt_of_created hstage _ address, ?_, ?_, ?_⟩
      · intro hcreated
        cases hcreated
      · intro _
        exact .inl rfl
      · rw [h.any_tellsToStop rfl]
        exact (Bool.or_false _).symm
  | @served address stopper hstage htold =>
      refine ⟨h.servedAt_of_created hstage _ address, ?_, ?_, ?_⟩
      · intro hcreated
        cases hcreated
      · intro hsupervised
        rcases h.supervised hsupervised with hrunning | hstopping
        · cases hstage.symm.trans hrunning
        · cases hstage.symm.trans hstopping
      · rw [h.any_tellsToStop rfl]
        exact (Bool.or_eq_true_iff.2 htold).symm
  | startFailed => exact h.of_server_eq rfl rfl rfl
  | runFailed => exact h.of_server_eq rfl rfl rfl
  | stopped =>
      refine ⟨h.servedAt_of_quiet _ rfl, ?_, ?_, ?_⟩
      · intro hcreated
        apply h.unserved
        by_cases hrunning : s.server.stage = .running
        · simp [Lifecycle.stop, hrunning] at hcreated
        · simpa [Lifecycle.stop, hrunning] using hcreated
      · intro hsupervised
        rcases h.supervised hsupervised with hrunning | hstopping
        · simp [Lifecycle.stop, hrunning]
        · simp [Lifecycle.stop, hstopping]
      · rw [h.any_tellsToStop rfl]
        exact (Bool.or_true _).symm
  | joined =>
      refine ⟨h.servedAt_of_quiet _ rfl, ?_, ?_, ?_⟩
      · intro hcreated
        cases hcreated
      · intro hsupervised
        cases hsupervised
      · rw [h.any_tellsToStop rfl]
        rfl
  | tookHandle => exact h.of_server_eq rfl rfl rfl
  | toldThrough =>
      refine ⟨h.servedAt_of_quiet _ rfl, h.unserved, h.supervised, ?_⟩
      rw [h.any_tellsToStop rfl]
      exact (Bool.or_true _).symm

end Accords

namespace Leads

theorem settings_eq (h : Leads s history s') : s'.server.settings = s.server.settings := by
  induction h with
  | nil => rfl
  | snoc _ step ih => exact (callStep_of_perform? step).settings_eq.trans ih

theorem accords {settings : Settings} (h : Leads (new settings) history s) :
    Accords history s := by
  induction h with
  | nil => exact accords_new settings
  | snoc _ step ih => exact ih.step (callStep_of_perform? step)

theorem place_le (h : Leads s history s') : s.server.stage.place ≤ s'.server.stage.place := by
  induction h with
  | nil => exact Nat.le_refl _
  | snoc _ step ih => exact Nat.le_trans ih (callStep_of_perform? step).place_le

theorem cancelled_of_cancelled (h : Leads s history s') (hup : s.server.cancelled = true) :
    s'.server.cancelled = true := by
  induction h with
  | nil => exact hup
  | snoc _ step ih => exact (callStep_of_perform? step).cancelled_of_cancelled ih

end Leads

/-! ## Starting again after a failure -/

theorem perform?_start_of_unbound {s : Session} (hstage : s.server.stage = .created)
    (hworkers : s.server.settings.workerCount ≠ 0) (fault : BindFault) :
    s.perform? (.start (.error fault)) =
      some (some (.error (.unbound s.server.settings.bindAddress fault)), s) := by
  simp [perform?, Lifecycle.start, Lifecycle.prepare_of_unbound hstage hworkers fault]

theorem perform?_start_of_bound {s : Session} (hstage : s.server.stage = .created)
    (hworkers : s.server.settings.workerCount ≠ 0) (address : SocketAddress) :
    s.perform? (.start (.ok address)) =
      some (some (.ok address), { s with server := { s.server with
        stage := .running, address := some address, supervised := true } }) := by
  simp [perform?, Lifecycle.start, Lifecycle.prepare_of_bound hstage hworkers address]

end Session

open Session

/-- Whatever is asked of a new server and its handles, in any order and with any luck in binding its
address, it goes one way and failures leave no trace. -/
theorem life_goes_one_way (settings : Settings) {history : History} {s : Session}
    (h : Leads (.new settings) history s) :
    -- stages are only passed forwards, and the flag stays up
    (∀ more s', Leads s more s' →
      s.server.stage.place ≤ s'.server.stage.place
      ∧ (s.server.cancelled = true → s'.server.cancelled = true))
    -- at most one start or run succeeds, and the address is set exactly when one has
    ∧ (servedAt history).length ≤ 1
    ∧ servedAt history = s.server.address.toList
    -- once started, the server looks at neither the number of workers nor the address
    ∧ (s.server.stage ≠ .created →
        (∀ (m : Type → Type) [Monad m] (bind : String → UInt16 → m BindResult) (other : Settings),
          { s.server with settings := other }.prepareBy bind = pure (.error .alreadyStarted))
        ∧ ∀ bound, s.perform? (.start bound) = some (some (.error .alreadyStarted), s)
          ∧ ∀ stopper, s.holds stopper = true →
            s.perform? (.run bound stopper) = some (some (.error .alreadyStarted), s))
    -- without workers nothing is bound
    ∧ (s.server.stage = .created → settings.workerCount = 0 →
        (∀ (m : Type → Type) [Monad m] (bind : String → UInt16 → m BindResult),
          s.server.prepareBy bind = pure (.error .noWorkers))
        ∧ ∀ bound, s.perform? (.start bound) = some (some (.error .noWorkers), s)
          ∧ ∀ stopper, s.holds stopper = true →
            s.perform? (.run bound stopper) = some (some (.error .noWorkers), s))
    -- a start or run that fails changes nothing, so that a failed bind can be tried again
    ∧ (∀ call e s', s.perform? call = some (some (.error e), s') → s' = s)
    ∧ (s.server.stage = .created → settings.workerCount ≠ 0 → ∀ fault address, ∃ e s',
        Leads s [(.start (.error fault), some (.error e)),
          (.start (.ok address), some (.ok address))] s'
        ∧ s'.server.stage = .running ∧ s'.server.address = some address)
    -- workers are supervised only between the start and the end
    ∧ (s.server.supervised = true → s.server.stage = .running ∨ s.server.stage = .stopping)
    -- the server and all handles agree: they tell whether somebody has told the server to stop
    ∧ s.server.cancelled = history.any tellsToStop
    ∧ (∀ handle, handle < s.handles → s.isStopped? handle = some s.server.cancelled) := by
  have haccords := h.accords
  have hsettings : s.server.settings = settings := h.settings_eq
  have hfails : ∀ e, (∀ bound, s.server.prepare bound = .error e) →
      ∀ bound, s.perform? (.start bound) = some (some (.error e), s)
        ∧ ∀ stopper, s.holds stopper = true →
          s.perform? (.run bound stopper) = some (some (.error e), s) := by
    intro e hprepare bound
    refine ⟨by simp [perform?, Lifecycle.start, hprepare bound], ?_⟩
    intro stopper hheld
    simp [perform?, hheld, Lifecycle.run, hprepare bound]
  refine ⟨?_, ?_, haccords.servedAt, ?_, ?_, ?_, ?_, haccords.supervised, haccords.cancelled, ?_⟩
  · intro more s' hmore
    exact ⟨hmore.place_le, hmore.cancelled_of_cancelled⟩
  · rw [haccords.servedAt]
    exact Option.length_toList_le
  · intro hstage
    refine ⟨?_, hfails _ (Lifecycle.prepare_of_started hstage)⟩
    intro m _ bind other
    exact Lifecycle.prepareBy_of_started bind hstage
  · intro hstage hworkers
    rw [← hsettings] at hworkers
    refine ⟨?_, hfails _ (Lifecycle.prepare_of_noWorkers hstage hworkers)⟩
    intro m _ bind
    exact Lifecycle.prepareBy_of_noWorkers bind hstage hworkers
  · intro call e s' hperform
    exact (callStep_of_perform? hperform).eq_of_error
  · intro hstage hworkers fault address
    rw [← hsettings] at hworkers
    have hfailed := perform?_start_of_unbound hstage hworkers fault
    have hstarted := perform?_start_of_bound hstage hworkers address
    exact ⟨_, _, .snoc (.snoc .nil hfailed) hstarted, rfl, rfl⟩
  · intro handle hheld
    rw [isStopped?, if_pos hheld]

/-- Where the server listens in the history below. -/
def loopbackAddress : SocketAddress := ⟨.v4 [127, 0, 0, 1], 10081⟩

/-- The address is taken at first. A handle stops the server, which cannot be started again. -/
def restarted : History := [
  (.takeHandle, none),
  (.start (.error .inUse), some (.error (.unbound "127.0.0.1:10081" .inUse))),
  (.start (.ok loopbackAddress), some (.ok loopbackAddress)),
  (.stopThrough 0, none),
  (.join none, none),
  (.start (.ok loopbackAddress), some (.error .alreadyStarted))]

/-- The session at the end of that history. -/
def afterRestart : Session := ⟨⟨{}, .joined, some loopbackAddress, true, false⟩, 1⟩

theorem leads_restarted : Leads (.new {}) restarted afterRestart :=
  .snoc (.snoc (.snoc (.snoc (.snoc (.snoc .nil rfl) rfl) rfl) rfl) rfl) rfl

theorem life_goes_one_way_after_failed_bind :
    Leads (.new {}) restarted afterRestart
    ∧ servedAt restarted = [loopbackAddress]
    ∧ (∀ bound, afterRestart.perform? (.start bound) =
        some (some (.error .alreadyStarted), afterRestart))
    ∧ afterRestart.isStopped? 0 = some (restarted.any tellsToStop)
    ∧ restarted.any tellsToStop = true := by
  rcases life_goes_one_way {} leads_restarted with
    ⟨_, _, hserved, hstarted, _, _, _, _, hflag, hhandles⟩
  refine ⟨leads_restarted, hserved, ?_, ?_, rfl⟩
  · intro bound
    exact ((hstarted (by decide)).2 bound).1
  · rw [hhandles 0 (by decide), hflag]

end Server
end RpcHost
