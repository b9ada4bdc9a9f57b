import RpcHost.Proofs.Commands.Overriding
import RpcHost.Proofs.Server.Lifecycle

/-!
# Serving what was asked for

Options act on configurations, and options after options are options again. The server that is
created has the settings that come of this, and only a configuration that is valid and enabled
creates one. That such a server has workers and was not started before is known from the check of
the configuration, so that starting it fails only with its address: `serves_only_as_asked`.
-/

namespace RpcHost
namespace CommandLine

/-- Options and then others, as options. A value that is given later counts, and a flag that is
raised stays up. -/
def ServeOptions.followedBy (o later : ServeOptions) : ServeOptions where
  listenAddress := later.listenAddress.or o.listenAddress
  listenPort := later.listenPort.or o.listenPort
  workers := later.workers.or o.workers
  allowCors := o.allowCors || later.allowCors

theorem ServeOptions.followedBy_self (o : ServeOptions) : o.followedBy o = o := by
  simp [followedBy]

end CommandLine

namespace Commands

open CommandLine Server Net

variable {o : ServeOptions} {c merged : Config} {m : Type → Type} [Monad m]
  {launch : Lifecycle → m (Except StartError SocketAddress)} {signalled : Bool}

/-! ## Options over a configuration -/

/-- What options are to make of a configuration. -/
structure Merges (o : ServeOptions) (c merged : Config) : Prop where
  listenAddress : merged.control.listenAddress = o.listenAddress.getD c.control.listenAddress
  listenPort : merged.control.listenPort = o.listenPort.getD c.control.listenPort
  workers : merged.control.workers = o.workers.getD c.control.workers
  allowCors : merged.control.allowCors = true ↔ c.control.allowCors = true ∨ o.allowCors = true
  enabled : merged.control.enabled = c.control.enabled
  readTimeoutSecs : merged.control.readTimeoutSecs = c.control.readTimeoutSecs
  maxBodyBytes : merged.control.maxBodyBytes = c.control.maxBodyBytes
  debugLevel : merged.debugLevel = c.debugLevel

theorem merges_override (o : ServeOptions) (c : Config) : Merges o c (override o c) :=
  ⟨rfl, rfl, rfl, Bool.or_eq_true_iff, rfl, rfl, rfl, rfl⟩

/-- Nothing else is to be made of it. -/
theorem Merges.unique {other : Config} (h : Merges o c merged) (hother : Merges o c other) :
    merged = other := by
  -- The flag is said by an equivalence, every other field by an equation.
  have hcors : merged.control.allowCors = other.control.allowCors :=
    Bool.eq_iff_iff.2 (h.allowCors.trans hother.allowCors.symm)
  have hcontrol : merged.control = other.control := by
    rw [Control.mk.injEq]
    exact ⟨h.enabled.trans hother.enabled.symm, h.listenAddress.trans hother.listenAddress.symm,
      h.listenPort.trans hother.listenPort.symm, h.workers.trans hother.workers.symm, hcors,
      h.readTimeoutSecs.trans hother.readTimeoutSecs.symm,
      h.maxBodyBytes.trans hother.maxBodyBytes.symm⟩
  rw [Config.mk.injEq]
  exact ⟨hcontrol, h.debugLevel.trans hother.debugLevel.symm⟩

theorem override_override (o later : ServeOptions) (c : Config) :
    override later (override o c) = override (o.followedBy later) c := by
  simp [override, ServeOptions.followedBy, Option.getD_or, Bool.or_assoc]

theorem apply_eq (o : ServeOptions) (c : Config) :
    apply o c = ((override o c).validate, override o c) :=
  rfl

theorem apply_apply (o later : ServeOptions) (c : Config) :
    apply later (apply o c).2 = apply (o.followedBy later) c := by
  rw [apply_eq, apply_eq, apply_eq, override_override]

/-! ## Which servers are created -/

/-- How a run ends, from what starting its server comes to. -/
def concluded (signalled : Bool) (c : Config) : Except StartError SocketAddress → ServeRun
  | .error e => ⟨featureLines c, .failed (.notStarted e)⟩
  | .ok address =>
      let lines := featureLines c ++ openingLines address c.serverSettings
      if signalled then ⟨lines ++ closingLines c.serverSettings, .finished⟩ else ⟨lines, .serving⟩

/-- Serving where starting a server is an effect, so that it shows whether one is created, which one
and how often. -/
def serveBy (launch : Lifecycle → m (Except StartError SocketAddress)) (signalled : Bool)
    (o : ServeOptions) (c : Config) : m ServeRun :=
  match begin o c with
  | .over run => pure run
  | .ready merged => do return concluded signalled merged (← launch (.new merged.serverSettings))

/-- Starting a server when it is known what binding any address comes to. -/
def startKnowing (bind : String → UInt16 → BindResult) (server : Lifecycle) :
    Except StartError SocketAddress :=
  (server.start (bind server.settings.address server.settings.port)).1

theorem serveWith_eq (bind : String → UInt16 → BindResult) (signalled : Bool) (c : Config) :
    serveWith bind signalled c =
      concluded signalled c (startKnowing bind (.new c.serverSettings)) := by
  unfold serveWith concluded startKnowing
  rfl

theorem serve_eq (bind : String → UInt16 → BindResult) (signalled : Bool) (o : ServeOptions)
    (c : Config) :
    serve bind signalled o c = Id.run (serveBy (pure ∘ startKnowing bind) signalled o c) := by
  unfold serve serveBy
  rcases begin o c with run | merged
  · rfl
  · exact serveWith_eq bind signalled merged

theorem serveBy_of_rejected {reason : Config.Rejection}
    (h : (override o c).rejection? = some reason) :
    serveBy launch signalled o c = pure ⟨[], .failed (.rejected reason)⟩ := by
  unfold serveBy
  rw [begin_of_rejected h]

theorem serveBy_of_disabled (h : (override o c).rejection? = none)
    (hdisabled : (override o c).control.enabled = false) :
    serveBy launch signalled o c = pure ⟨featureLines (override o c)
      ++ [note "Control interface disabled, nothing to serve"], .finished⟩ := by
  unfold serveBy
  rw [begin_of_valid h, if_neg (by simp [hdisabled])]

theorem serveBy_of_enabled (h : (override o c).rejection? = none)
    (henabled : (override o c).control.enabled = true) :
    serveBy launch signalled o c = do
      return concluded signalled (override o c)
        (← launch (.new (override o c).serverSettings)) := by
  unfold serveBy
  rw [begin_of_valid h, if_pos henabled]

/-! ## Starting the server -/

/-- A server that is created for a valid configuration fails only with its address. -/
theorem prepareBy_of_valid [LawfulMonad m] (h : c.rejection? = none)
    (bind : String → UInt16 → m BindResult) :
    (Lifecycle.new c.serverSettings).prepareBy bind = do
      return (← bind c.control.listenAddress c.control.listenPort).mapError
        (.unbound (endpoint c.control.listenAddress c.control.listenPort)) := by
  have hstage : ¬ (Lifecycle.new c.serverSettings).stage ≠ .created := fun hstarted => hstarted rfl
  have hworkers : (Lifecycle.new c.serverSettings).settings.workerCount ≠ 0 :=
    (Config.rejection?_eq_none_iff.1 h).2.1
  -- Neither of the two checks that come before the address can fail.
  rw [Lifecycle.prepareBy, if_neg hstage, if_neg hworkers]
  refine bind_congr ?_
  intro bound
  cases bound <;> rfl

theorem start_of_valid (h : c.rejection? = none) (bound : BindResult) :
    ((Lifecycle.new c.serverSettings).start bound).1 =
      bound.mapError (.unbound (endpoint c.control.listenAddress c.control.listenPort)) := by
  have hprepare : (Lifecycle.new c.serverSettings).prepare bound =
      bound.mapError (.unbound (endpoint c.control.listenAddress c.control.listenPort)) :=
    congrArg Id.run (prepareBy_of_valid h fun _ _ => pure bound)
  rw [Lifecycle.start, hprepare]
  cases bound <;> rfl

theorem readTimeoutMillis_of_valid (h : c.rejection? = none) :
    1000 ≤ c.serverSettings.readTimeoutMillis := by
  have htimeout : c.control.readTimeoutSecs ≠ 0 := (Config.rejection?_eq_none_iff.1 h).2.2
  have hpositive : 0 < c.control.readTimeoutSecs.toNat :=
    Nat.pos_of_ne_zero fun hzero => htimeout (UInt64.toNat_inj.1 hzero)
  exact Nat.le_mul_of_pos_left 1000 hpositive

/-! ## Serving -/

/-- Whatever options go over whatever configuration, serving creates the server that was asked for
and no other, and only for a configuration that the server can work with. -/
theorem serves_only_as_asked (o : ServeOptions) (c : Config) :
    ∃ merged, (∀ other, Merges o c other ↔ other = merged)
      -- the check is that of the configuration with the options over it
      ∧ apply o c = (merged.validate, merged)
      ∧ (merged.validate = .ok () ↔
          isListenAddress merged.control.listenAddress = true
          ∧ merged.control.workers ≠ 0 ∧ merged.control.readTimeoutSecs ≠ 0)
      -- the same options once more change nothing, and others after them are as good as both at once
      ∧ apply o merged = apply o c
      ∧ (∀ later, apply later merged = apply (o.followedBy later) c)
      -- no server is created for nothing, and otherwise just one
      ∧ (∀ bind signalled, serve bind signalled o c =
          Id.run (serveBy (pure ∘ startKnowing bind) signalled o c))
      ∧ (∀ (m : Type → Type) [Monad m]
          (launch : Lifecycle → m (Except StartError SocketAddress)) (signalled : Bool),
          (∀ reason, merged.validate = .error reason →
            serveBy launch signalled o c = pure ⟨[], .failed (.rejected reason)⟩)
          ∧ (merged.validate = .ok () → merged.control.enabled = false →
            serveBy launch signalled o c = pure ⟨featureLines merged
              ++ [note "Control interface disabled, nothing to serve"], .finished⟩)
          ∧ (merged.validate = .ok () → merged.control.enabled = true →
            serveBy launch signalled o c = do
              return concluded signalled merged (← launch (.new {
                address := merged.control.listenAddress
                port := merged.control.listenPort
                workerCount := merged.control.workers
                allowCors := merged.control.allowCors
                readTimeoutMillis := merged.control.readTimeoutSecs.toNat * 1000
                maxBodyBytes := merged.control.maxBodyBytes }))))
      -- what it needs is there, so that it only depends on its address whether it starts
      ∧ (merged.validate = .ok () →
          (∀ (m : Type → Type) [Monad m] [LawfulMonad m] (bind : String → UInt16 → m BindResult),
            (Lifecycle.new merged.serverSettings).prepareBy bind = do
              return (← bind merged.control.listenAddress merged.control.listenPort).mapError
                (.unbound (endpoint merged.control.listenAddress merged.control.listenPort)))
          ∧ (∀ bound, ((Lifecycle.new merged.serverSettings).start bound).1 ≠ .error .noWorkers
            ∧ ((Lifecycle.new merged.serverSettings).start bound).1 ≠ .error .alreadyStarted)
          ∧ 1000 ≤ merged.serverSettings.readTimeoutMillis) := by
  refine ⟨override o c, ?_, apply_eq o c, ?_, ?_, ?_, ?_, ?_, ?_⟩
  · intro other
    constructor
    · intro h
      exact h.unique (merges_override o c)
    · rintro rfl
      exact merges_override o c
  · exact Config.validate_eq_ok_iff.trans Config.rejection?_eq_none_iff
  · have happly := apply_apply o o c
    rwa [ServeOptions.followedBy_self] at happly
  · intro later
    exact apply_apply o later c
  · intro bind signalled
    exact serve_eq bind signalled o c
  · intro m _ launch signalled
    refine ⟨?_, ?_, ?_⟩
    · intro reason hrejected
      exact serveBy_of_rejected (Config.rejection?_of_validate hrejected)
    · intro hvalid hdisabled
      exact serveBy_of_disabled (Config.validate_eq_ok_iff.1 hvalid) hdisabled
    · intro hvalid henabled
      exact serveBy_of_enabled (Config.validate_eq_ok_iff.1 hvalid) henabled
  · intro hvalid
    have h := Config.validate_eq_ok_iff.1 hvalid
    refine ⟨?_, ?_, readTimeoutMillis_of_valid h⟩
    · intro m _ _ bind
      exact prepareBy_of_valid h bind
    · intro bound
      rw [start_of_valid h]
      cases bound <;> simp [Except.mapError]

/-- A configuration that cannot be served from. -/
def workerless : Config := { control := { workers := 0 } }

/-- A configuration by which nothing is to be served. -/
def switchedOff : Config := { control := { enabled := false } }

/-- Starting that always succeeds, and keeps the settings of the servers that were started. -/
def recordingStart (server : Lifecycle) :
    StateM (List Settings) (Except StartError SocketAddress) := do
  modify (· ++ [server.settings])
  return .ok loopbackAddress

/-- Binding that never succeeds, and keeps what was to be bound. -/
def recordingBind (address : String) (port : UInt16) :
    StateM (List (String × UInt16)) BindResult := do
  modify (· ++ [(address, port)])
  return .error .inUse

theorem serves_only_as_asked_with_workers :
    -- two workers are asked for where there are none
    apply { workers := some 2 } workerless = (.ok (), { control := { workers := 2 } })
    ∧ (serveBy recordingStart true { workers := some 2 } workerless).run [] =
        (concluded true { control := { workers := 2 } } (.ok loopbackAddress),
          [{ workerCount := 2 }])
    ∧ ((Lifecycle.new { workerCount := 2 }).prepareBy recordingBind).run [] =
        (.error (.unbound "127.0.0.1:10081" .inUse), [("127.0.0.1", 10081)])
    ∧ (∀ bound, ((Lifecycle.new { workerCount := 2 }).start bound).1 ≠ .error .noWorkers)
    -- nothing is asked for
    ∧ (serveBy recordingStart true {} workerless).run [] =
        (⟨[], .failed (.rejected .noWorkers)⟩, [])
    ∧ ((serveBy recordingStart true {} switchedOff).run []).2 = [] := by
  have hmended : (override { workers := some 2 } workerless).validate = .ok () :=
    Config.validate_of_valid
      (Config.rejection?_eq_none_iff.2 ⟨Config.isListenAddress_loopback, by decide, by decide⟩)
  have hrejected : (override {} workerless).validate = .error .noWorkers := by
    refine Config.validate_of_rejection? ?_
    simp [Config.rejection?, override, workerless]
  have hvalid : (override {} switchedOff).validate = .ok () :=
    Config.validate_of_valid
      (Config.rejection?_eq_none_iff.2 ⟨Config.isListenAddress_loopback, by decide, by decide⟩)
  rcases serves_only_as_asked { workers := some 2 } workerless with
    ⟨merged, hmerges, happly, _, _, _, _, hserve, hstarts⟩
  rcases serves_only_as_asked {} workerless with ⟨unmended, hsame, _, _, _, _, _, hrefuses, _⟩
  rcases serves_only_as_asked {} switchedOff with ⟨off, hoff, _, _, _, _, _, hends, _⟩
  obtain rfl := (hmerges _).1 (merges_override _ _)
  obtain rfl := (hsame _).1 (merges_override _ _)
  obtain rfl := (hoff _).1 (merges_override _ _)
  refine ⟨?_, ?_, ?_, ?_, ?_, ?_⟩
  · rw [happly, hmended]
    rfl
  · rw [(hserve _ recordingStart true).2.2 hmended rfl]
    rfl
  · exact congrArg (·.run []) ((hstarts hmended).1 _ recordingBind)
  · intro bound
    exact ((hstarts hmended).2.1 bound).1
  · rw [(hrefuses _ recordingStart true).1 _ hrejected]
    rfl
  · rw [(hends _ recordingStart true).2.1 hvalid rfl]
    rfl

end Commands
end RpcHost
