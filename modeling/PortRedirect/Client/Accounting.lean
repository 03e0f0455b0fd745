import PortRedirect.Client.ServerHandler
import PortRedirect.Crypto.Sha512
import PortRedirect.Protocol.Challenge

namespace PortRedirect.Protocol.KeepaliveClient

open PortRedirect.Stream

/-- The loop ended for another reason than the end of its stream: a failed write or
flush, a failed read, a wrong reply or no reply in time. -/
def failed (client : KeepaliveClient) : Bool :=
  match client.phase with
  | .returned exit => exit ≠ .closed
  | _ => false

theorem failed_eq_false {client : KeepaliveClient} :
    client.failed = false ↔ ∀ exit, client.phase = .returned exit → exit = .closed := by
  unfold failed
  split
  · rename_i exit phase
    simp [phase]
  · rename_i running
    simp only [true_iff]
    exact fun exit phase => (running exit phase).elim

theorem failed_step {client next : KeepaliveClient} {event : Event}
    (taken : client.step event = some next) :
    client.failed = false ∧
      (next.failed = false ↔ ∀ exit, client.Cause event exit → exit = .closed) := by
  constructor
  · rw [failed_eq_false]
    intro exit phase
    simp [step, phase] at taken
  · rw [failed_eq_false]
    constructor
    · intro clean exit cause
      exact clean exit (step_of_cause cause taken)
    · intro clean exit ended
      exact clean exit (step_cause taken ended)

end PortRedirect.Protocol.KeepaliveClient

namespace PortRedirect.Client

open PortRedirect.Text
open PortRedirect.Stream
open PortRedirect.Protocol
open PortRedirect.Transition

/-! The counters of `handle_quic_server_connection` and of the tasks that it spawns. -/

/-- Each is an `AtomicU64`, taken not to wrap. -/
structure Metrics where
  serverConnectionsOpenedTotal : Nat := 0
  keepaliveErrors : Nat := 0
  connectionsAccepted : Nat := 0
  tcpForwardingErrors : Nat := 0
  serverConnectionsGracefullyClosedTotal : Nat := 0
deriving DecidableEq, Repr

namespace Metrics

def connected (metrics : Metrics) : Metrics :=
  { metrics with
    serverConnectionsOpenedTotal := metrics.serverConnectionsOpenedTotal + 1 }

def keepaliveReturned (metrics : Metrics) : Except Error Unit → Metrics
  | .error _ => { metrics with keepaliveErrors := metrics.keepaliveErrors + 1 }
  | .ok () => metrics

def accepted (metrics : Metrics) : Metrics :=
  { metrics with connectionsAccepted := metrics.connectionsAccepted + 1 }

def forwarded (metrics : Metrics) : Except Error Unit → Metrics
  | .error _ => { metrics with tcpForwardingErrors := metrics.tcpForwardingErrors + 1 }
  | .ok () => metrics

def gracefullyClosed (metrics : Metrics) : Metrics :=
  { metrics with
    serverConnectionsGracefullyClosedTotal :=
      metrics.serverConnectionsGracefullyClosedTotal + 1 }

end Metrics

/-- What `accept_bi` reports of a connection that has ended. -/
inductive ConnectionError where
  | versionMismatch
  | transportError (code : Nat) (reason : Bytes)
  | connectionClosed (errorCode : Nat) (reason : Bytes)
  | applicationClosed (errorCode : Nat) (reason : Bytes)
  | reset
  | timedOut
  | locallyClosed
  | cidsExhausted
deriving DecidableEq, Repr

def normalShutdown : ConnectionError :=
  .applicationClosed 0 (utf8 "OK normal shutdown")

/-- A run of the handler with the counters and its spawned tasks. -/
structure ServerConnection where
  session : Session := {}
  metrics : Metrics := {}
  /-- The error that ended the loop accepting streams. -/
  closed : Option ConnectionError := none
  forwarding : Nat := 0

namespace ServerConnection

inductive Event where
  | control (event : Stream.Event)
  | accepted
  | acceptFailed (error : ConnectionError)
  | forwarded (result : Except Error Unit)

def start (metrics : Metrics) : ServerConnection :=
  { metrics := metrics.connected }

/-- The keepalive task after a step of the session. -/
def keepaliveResumed (metrics : Metrics) (session : Session) : Metrics :=
  match session.keepalive.bind KeepaliveClient.result with
  | some result => metrics.keepaliveReturned result
  | none => metrics

variable (sha512 : Bytes → Digest) (config : ClientAppData)

def step (connection : ServerConnection) : Event → Option ServerConnection
  | .control event =>
      (connection.session.step sha512 config (.control event)).map fun session =>
        { connection with
          session := session
          metrics := keepaliveResumed connection.metrics session }
  | .accepted =>
      (connection.session.step sha512 config .accepted).map fun session =>
        match connection.session.stage with
        | .acceptStreams =>
            { connection with
              session := session
              metrics := connection.metrics.accepted
              forwarding := connection.forwarding + 1 }
        -- the control stream
        | _ => { connection with session := session }
  | .acceptFailed error =>
      (connection.session.step sha512 config .acceptFailed).map fun session =>
        match connection.session.stage with
        | .acceptStreams =>
            { connection with
              session := session
              metrics := connection.metrics.gracefullyClosed
              closed := some error }
        -- returned before the loop is reached
        | _ => { connection with session := session }
  | .forwarded result =>
      if 0 < connection.forwarding then
        some { connection with
          metrics := connection.metrics.forwarded result
          forwarding := connection.forwarding - 1 }
      else
        none

end ServerConnection

namespace Session

variable {sha512 : Bytes → Digest} {config : ClientAppData} {session next : Session}

def Staged (session : Session) : Prop :=
  match session.stage with
  | .acceptControl | .authenticate _ => session.keepalive = none
  | .acceptStreams => session.keepalive ≠ none
  | .returned _ => True

private theorem staged_afterAuthenticate {auth : ClientAuthenticate}
    (idle : session.keepalive = none) :
    (session.afterAuthenticate auth).Staged ∧
      ((session.afterAuthenticate auth).keepalive = none ∨
        (session.afterAuthenticate auth).keepalive = some {}) := by
  unfold afterAuthenticate
  split
  · exact ⟨Option.some_ne_none _, .inr rfl⟩
  · exact ⟨trivial, .inl idle⟩
  · exact ⟨idle, .inl idle⟩

theorem Staged.resumed {client : KeepaliveClient} (staged : session.Staged)
    (spawned : session.keepalive = some client) (after : KeepaliveClient) :
    Staged { session with keepalive := some after } := by
  cases stage : session.stage with
  | acceptControl => simp [Staged, stage, spawned] at staged
  | authenticate auth => simp [Staged, stage, spawned] at staged
  | acceptStreams => simp [Staged]
  | returned result => simp [Staged]

end Session

namespace ServerConnection

def keepaliveFailed (connection : ServerConnection) : Bool :=
  connection.session.keepalive.any KeepaliveClient.failed

/-- The counters grew by what the operator takes them for. -/
structure Accounted (before : Metrics) (connection : ServerConnection) : Prop where
  keepalive :
    connection.metrics.keepaliveErrors =
      before.keepaliveErrors + if connection.keepaliveFailed then 1 else 0
  graceful :
    connection.metrics.serverConnectionsGracefullyClosedTotal =
      before.serverConnectionsGracefullyClosedTotal +
        if connection.closed = some normalShutdown then 1 else 0

instance (before : Metrics) (connection : ServerConnection) :
    Decidable (Accounted before connection) :=
  decidable_of_iff
    (connection.metrics.keepaliveErrors =
        before.keepaliveErrors + (if connection.keepaliveFailed then 1 else 0) ∧
      connection.metrics.serverConnectionsGracefullyClosedTotal =
        before.serverConnectionsGracefullyClosedTotal +
          if connection.closed = some normalShutdown then 1 else 0)
    ⟨fun ⟨keepalive, graceful⟩ => ⟨keepalive, graceful⟩,
      fun ⟨keepalive, graceful⟩ => ⟨keepalive, graceful⟩⟩

/-- An event that gives the keepalive loop no cause to fail, and no end of the
connection but the server's normal close. -/
def Sound (connection : ServerConnection) : Event → Prop
  | .control event =>
      ∀ client ∈ connection.session.keepalive, ∀ exit, client.Cause event exit →
        exit = .closed
  | .acceptFailed error =>
      connection.session.stage = .acceptStreams → error = normalShutdown
  | _ => True

/-- What the counters do in fact. -/
structure Tallied (before : Metrics) (connection : ServerConnection) : Prop where
  staged : connection.session.Staged
  ended : connection.closed ≠ none → ∃ result, connection.session.stage = .returned result
  keepalive : connection.metrics.keepaliveErrors = before.keepaliveErrors
  graceful :
    connection.metrics.serverConnectionsGracefullyClosedTotal =
      before.serverConnectionsGracefullyClosedTotal +
        if connection.closed.isSome then 1 else 0

variable {sha512 : Bytes → Digest} {config : ClientAppData} {before : Metrics}
  {connection next : ServerConnection} {event : Event}

theorem tallied_start : Tallied before (start before) :=
  ⟨rfl, fun ended => (ended rfl).elim, rfl, rfl⟩

@[simp] theorem keepaliveResumed_eq (metrics : Metrics) (session : Session) :
    keepaliveResumed metrics session = metrics := by
  unfold keepaliveResumed
  split
  · rename_i result returned
    obtain ⟨client, _, returned⟩ := Option.bind_eq_some_iff.mp returned
    unfold KeepaliveClient.result at returned
    split at returned
    · cases returned
      rfl
    · cases returned
  · rfl

/-- The run has lived up to its counters. -/
def Clean (connection : ServerConnection) : Prop :=
  connection.keepaliveFailed = false ∧ ∀ error ∈ connection.closed, error = normalShutdown

theorem clean_start : Clean (start before) :=
  ⟨rfl, fun _ closed => nomatch closed⟩

theorem Tallied.clean_iff (tallied : Tallied before connection) :
    Accounted before connection ↔ connection.Clean := by
  have graceful : (before.serverConnectionsGracefullyClosedTotal +
      (if connection.closed.isSome then 1 else 0) =
        before.serverConnectionsGracefullyClosedTotal +
          if connection.closed = some normalShutdown then 1 else 0) ↔
      ∀ error ∈ connection.closed, error = normalShutdown := by
    cases connection.closed with
    | none => simp
    | some error => simp
  constructor
  · rintro ⟨keepalive, closed⟩
    rw [tallied.keepalive] at keepalive
    rw [tallied.graceful, graceful] at closed
    refine ⟨?_, closed⟩
    cases failed : connection.keepaliveFailed with
    | false => rfl
    | true => simp [failed] at keepalive
  · rintro ⟨keepalive, closed⟩
    refine ⟨?_, ?_⟩
    · simp [tallied.keepalive, keepalive]
    · rw [tallied.graceful, graceful]
      exact closed

/-- All that a step of the connection can be. -/
theorem step_cases (staged : connection.session.Staged)
    (taken : connection.step sha512 config event = some next) :
    (∃ session, (event = .accepted ∨ (∃ cause, event = .control cause) ∨
        ∃ error, event = .acceptFailed error) ∧
      (connection.session.stage = .acceptControl ∨
        ∃ auth, connection.session.stage = .authenticate auth) ∧
      connection.session.keepalive = none ∧ session.Staged ∧
      (session.keepalive = none ∨ session.keepalive = some {}) ∧
      next = { connection with session := session }) ∨
    (∃ cause client after, event = .control cause ∧
      connection.session.keepalive = some client ∧ client.step cause = some after ∧
      next = { connection with
        session := { connection.session with keepalive := some after } }) ∨
    (event = .accepted ∧ connection.session.stage = .acceptStreams ∧
      next = { connection with
        session := { connection.session with
          forwarded := connection.session.forwarded + 1 }
        metrics := connection.metrics.accepted
        forwarding := connection.forwarding + 1 }) ∨
    (∃ error, event = .acceptFailed error ∧ connection.session.stage = .acceptStreams ∧
      next = { connection with
        session := { connection.session with stage := .returned (.ok ()) }
        metrics := connection.metrics.gracefullyClosed
        closed := some error }) ∨
    ∃ result, event = .forwarded result ∧
      next = { connection with
        metrics := connection.metrics.forwarded result
        forwarding := connection.forwarding - 1 } := by
  cases event with
  | control cause =>
      obtain ⟨session, resumed, rfl⟩ := Option.map_eq_some_iff.mp taken
      rw [keepaliveResumed_eq]
      rcases Session.step_cases resumed with
        ⟨_, auth, after, ⟨⟩, stage, _, rfl⟩ | ⟨_, client, after, ⟨⟩, _, spawned, moved, rfl⟩ |
          ⟨_, ⟨⟨⟩, _⟩ | ⟨⟨⟩, _⟩⟩ | ⟨_, ⟨⟨⟩, _⟩ | ⟨⟨⟩, _⟩⟩
      · have idle : connection.session.keepalive = none := by
          simpa [Session.Staged, stage] using staged
        obtain ⟨after, spawned⟩ := Session.staged_afterAuthenticate idle
        exact .inl ⟨_, .inr (.inl ⟨cause, rfl⟩), .inr ⟨auth, stage⟩, idle, after, spawned, rfl⟩
      · exact .inr (.inl ⟨cause, client, after, rfl, spawned, moved, rfl⟩)
  | accepted =>
      obtain ⟨session, resumed, rfl⟩ := Option.map_eq_some_iff.mp taken
      rcases Session.step_cases resumed with
        ⟨_, _, _, ⟨⟩, _⟩ | ⟨_, _, _, ⟨⟩, _⟩ |
          ⟨stage, ⟨_, rfl⟩ | ⟨⟨⟩, _⟩⟩ | ⟨stage, ⟨_, rfl⟩ | ⟨⟨⟩, _⟩⟩
      · have idle : connection.session.keepalive = none := by
          simpa [Session.Staged, stage] using staged
        refine .inl ⟨{ connection.session with stage := .authenticate .start }, .inl rfl,
          .inl stage, idle, idle, .inl idle, ?_⟩
        simp only [stage]
      · refine .inr (.inr (.inl ⟨rfl, stage, ?_⟩))
        simp only [stage]
  | acceptFailed error =>
      obtain ⟨session, resumed, rfl⟩ := Option.map_eq_some_iff.mp taken
      rcases Session.step_cases resumed with
        ⟨_, _, _, ⟨⟩, _⟩ | ⟨_, _, _, ⟨⟩, _⟩ |
          ⟨stage, ⟨⟨⟩, _⟩ | ⟨_, rfl⟩⟩ | ⟨stage, ⟨⟨⟩, _⟩ | ⟨_, rfl⟩⟩
      · have idle : connection.session.keepalive = none := by
          simpa [Session.Staged, stage] using staged
        refine .inl ⟨connection.session.authenticationFailed
          "failed to accept bidi AUTH connection", .inr (.inr ⟨error, rfl⟩), .inl stage,
          idle, trivial, .inl idle, ?_⟩
        simp only [stage]
      · refine .inr (.inr (.inr (.inl ⟨error, rfl, stage, ?_⟩)))
        simp only [stage]
  | forwarded result =>
      simp only [step] at taken
      split at taken
      · cases taken
        exact .inr (.inr (.inr (.inr ⟨result, rfl, rfl⟩)))
      · cases taken

theorem Tallied.running (tallied : Tallied before connection)
    (running : ∀ result, connection.session.stage ≠ .returned result) :
    connection.closed = none := by
  by_contra closed
  obtain ⟨result, returned⟩ := tallied.ended closed
  exact running result returned

theorem tallied_step (tallied : Tallied before connection)
    (taken : connection.step sha512 config event = some next) : Tallied before next := by
  have ⟨staged, ended, keepalive, graceful⟩ := tallied
  rcases step_cases staged taken with
    ⟨session, _, stage, _, after, _, rfl⟩ | ⟨cause, client, after, _, spawned, _, rfl⟩ |
      ⟨_, stage, rfl⟩ | ⟨error, _, stage, rfl⟩ | ⟨result, _, rfl⟩
  · have running : connection.closed = none := by
      apply tallied.running
      rcases stage with stage | ⟨auth, stage⟩ <;> simp [stage]
    exact ⟨after, fun closed => (closed running).elim, keepalive, graceful⟩
  · exact ⟨staged.resumed spawned after, ended, keepalive, graceful⟩
  · exact ⟨staged, ended, keepalive, graceful⟩
  · have running : connection.closed = none := tallied.running (by simp [stage])
    refine ⟨trivial, fun _ => ⟨_, rfl⟩, keepalive, ?_⟩
    simpa [Metrics.gracefullyClosed, running] using graceful
  · refine ⟨staged, ended, ?_, ?_⟩
    · cases result <;> exact keepalive
    · cases result <;> exact graceful

theorem clean_step (tallied : Tallied before connection)
    (taken : connection.step sha512 config event = some next) :
    next.Clean ↔ connection.Clean ∧ connection.Sound event := by
  rcases step_cases tallied.staged taken with
    ⟨session, cause, stage, idle, _, spawned, rfl⟩ |
      ⟨cause, client, after, rfl, spawned, moved, rfl⟩ |
      ⟨rfl, stage, rfl⟩ | ⟨error, rfl, stage, rfl⟩ | ⟨result, rfl, rfl⟩
  · have running : session.keepalive.any KeepaliveClient.failed = false := by
      rcases spawned with spawned | spawned
      · rw [spawned]
        rfl
      · rw [spawned]
        rfl
    have sound : connection.Sound event := by
      rcases cause with rfl | ⟨cause, rfl⟩ | ⟨error, rfl⟩
      · trivial
      · simp [Sound, idle]
      · rcases stage with stage | ⟨auth, stage⟩ <;> simp [Sound, stage]
    simp [Clean, sound, keepaliveFailed, idle, running]
  · obtain ⟨running, fails⟩ := KeepaliveClient.failed_step moved
    simp only [Clean, Sound, keepaliveFailed, spawned, Option.any_some, running, fails,
      Option.mem_some_iff, forall_eq']
    tauto
  · simp [Clean, Sound, keepaliveFailed]
  · have running : connection.closed = none := tallied.running (by simp [stage])
    simp [Clean, Sound, keepaliveFailed, stage, running]
  · simp [Clean, Sound, keepaliveFailed]

/-- The counters are right at the end of a run exactly when the keepalive loop was given
no cause to fail and the connection ended, if it did, by the server's normal close. -/
theorem accounted_iff {events : List Event} {final : ServerConnection}
    (ran : run (step sha512 config) (start before) events = some final) :
    Accounted before final ↔ Along (step sha512 config) Sound (start before) events := by
  have tallied := run_invariant (Tallied before)
    (fun _ _ _ holds taken => tallied_step holds taken) tallied_start ran
  rw [tallied.clean_iff, run_along_iff Sound (Tallied before) Clean
    (fun _ _ _ holds taken => tallied_step holds taken)
    (fun _ _ _ holds taken => clean_step holds taken) tallied_start ran]
  exact and_iff_right clean_start

def sampleConfig : ClientAppData where
  connectionAuthPsk := "key"
  forwardDestination := "127.0.0.1:8080"

def sampleChallenge : String := challenge (Vector.replicate 32 0) 0

def authenticated : List Event :=
  [.accepted, .control (.received (utf8 (request sampleChallenge))),
    .control (.sent (utf8 (ClientAuthenticate.response Crypto.Sha512.digest
      sampleConfig.connectionAuthPsk sampleChallenge))),
    .control .flushed, .control (.received (verdict true)),
    .control .tick, .control (.sent pingMessage), .control .flushed,
    .control (.received pongMessage)]

def shutDown : List Event :=
  authenticated ++
    [.accepted, .forwarded (.ok ()), .control .tick, .control (.sent pingMessage),
      .control .flushed, .control .eof, .acceptFailed normalShutdown]

def lost : List Event :=
  authenticated ++
    [.control .tick, .control (.sent pingMessage), .control .flushed, .control .elapsed,
      .acceptFailed .timedOut]

def answered : ServerConnection where
  session := { stage := .acceptStreams, keepalive := some { pongCount := 1 } }
  metrics := { serverConnectionsOpenedTotal := 1 }

/-- Whatever the hash is, so that no digest has to be evaluated. -/
private theorem run_handshake (randomBytes : Vector UInt8 32) (coarseUnixTime : UInt64) :
    run (step sha512 config) (start {})
      [.accepted, .control (.received (utf8 (request (challenge randomBytes coarseUnixTime)))),
        .control (.sent (utf8 (ClientAuthenticate.response sha512 config.connectionAuthPsk
          (challenge randomBytes coarseUnixTime)))),
        .control .flushed, .control (.received (verdict true)),
        .control .tick, .control (.sent pingMessage), .control .flushed,
        .control (.received pongMessage)] = some answered := by
  have asked := pollRead_request randomBytes coarseUnixTime
  have heard := heardChallenge_request randomBytes coarseUnixTime
  have replied : pollRead 16 (.received (verdict true)) = some (.read (verdict true)) := by
    rfl
  have happy : heardReply (verdict true) = .ok () := by decide +kernel
  have line : pollReadUntil [] (.received pongMessage) = some (.line pongMessage []) := by
    rfl
  simp [run, start, step, Session.step, Session.control, Session.afterAuthenticate,
    ClientAuthenticate.start, ClientAuthenticate.step, challengeRequestBufferLength,
    KeepaliveClient.step, KeepaliveClient.heardLine, pollFlush, asked, heard, replied,
    happy, line, answered, Metrics.connected]

private theorem run_authenticated :
    run (step Crypto.Sha512.digest sampleConfig) (start {}) authenticated =
      some answered :=
  run_handshake (Vector.replicate 32 0) 0

theorem accounted_iff_shutDown :
    ∃ final, run (step Crypto.Sha512.digest sampleConfig) (start {}) shutDown =
        some final ∧
      final.closed = some normalShutdown ∧ Accounted {} final ∧
      Along (step Crypto.Sha512.digest sampleConfig) Sound (start {}) shutDown := by
  have runs : (run (step Crypto.Sha512.digest sampleConfig) (start {}) shutDown).map
      (fun connection => (connection.closed, decide (Accounted {} connection))) =
        some (some normalShutdown, true) := by
    rw [shutDown, run_append run_authenticated]
    decide +kernel
  obtain ⟨final, ran, same⟩ := Option.map_eq_some_iff.mp runs
  rw [Prod.mk.injEq, decide_eq_true_eq] at same
  exact ⟨final, ran, same.1, same.2, (accounted_iff ran).mp same.2⟩

/-- The loop gave up on a PONG and the connection timed out: no error is counted, and a
graceful close is. -/
theorem not_accounted_lost :
    ∃ final, run (step Crypto.Sha512.digest sampleConfig) (start {}) lost = some final ∧
      final.keepaliveFailed = true ∧ final.metrics.keepaliveErrors = 0 ∧
      final.closed = some .timedOut ∧
      final.metrics.serverConnectionsGracefullyClosedTotal = 1 ∧
      ¬ Accounted {} final := by
  have runs : (run (step Crypto.Sha512.digest sampleConfig) (start {}) lost).map
      (fun connection => (connection.keepaliveFailed, connection.closed,
        connection.metrics.keepaliveErrors,
        connection.metrics.serverConnectionsGracefullyClosedTotal)) =
        some (true, some .timedOut, 0, 1) := by
    rw [lost, run_append run_authenticated]
    decide +kernel
  obtain ⟨final, ran, same⟩ := Option.map_eq_some_iff.mp runs
  simp only [Prod.mk.injEq] at same
  obtain ⟨failed, closed, errors, graceful⟩ := same
  refine ⟨final, ran, failed, errors, closed, graceful, ?_⟩
  intro accounted
  have counted := accounted.keepalive
  simp [errors, failed] at counted

end ServerConnection

end PortRedirect.Client
