import PortRedirect.Forward
import PortRedirect.Server.Teardown
import PortRedirect.Transition.Pool

namespace PortRedirect.Server

open PortRedirect.Text
open PortRedirect.Forward
open PortRedirect.Protocol
open PortRedirect.Stream
open PortRedirect.Transition

/-! The server process: any number of client sessions, each with its listener task, the
forwarding tasks that the listeners have spawned, and the counters that all of them
share. -/

/-- Each is an `AtomicU64`, taken not to wrap. -/
structure Metrics where
  tcpConnectionsAccepted : Nat := 0
  tcpConnectionsFailedAccepting : Nat := 0
  quicDataStreamOpeningErrors : Nat := 0
  tcpQuicConnectionsClosedError : Nat := 0
  tcpQuicConnectionsClosedGraceful : Nat := 0
deriving DecidableEq, Repr

def Metrics.listener (metrics : Metrics) : TcpListener.Event → Metrics
  | .accepted =>
      { metrics with tcpConnectionsAccepted := metrics.tcpConnectionsAccepted + 1 }
  | .acceptFailed =>
      { metrics with
        tcpConnectionsFailedAccepting := metrics.tcpConnectionsFailedAccepting + 1 }
  | .openFailed =>
      { metrics with quicDataStreamOpeningErrors := metrics.quicDataStreamOpeningErrors + 1 }
  | _ => metrics

def Metrics.forwarded (metrics : Metrics) : Except Error Unit → Metrics
  | .error _ =>
      { metrics with
        tcpQuicConnectionsClosedError := metrics.tcpQuicConnectionsClosedError + 1 }
  | .ok () =>
      { metrics with
        tcpQuicConnectionsClosedGraceful := metrics.tcpQuicConnectionsClosedGraceful + 1 }

structure ServerProcess where
  sessions : List (Setting × Session) := []
  /-- The forwarding tasks that have not counted their end yet. -/
  forwarding : List ForwardBidirectional := []
  metrics : Metrics := {}

namespace ServerProcess

inductive Event where
  | connected (setting : Setting)
  | session (index : Nat) (event : Session.Event)
  /-- A call of a forwarding task on one of its streams. -/
  | forward (index : Nat) (event : CopyEvent)
  | record (index : Nat)

def sessionStep (session : Setting × Session) (event : Session.Event) :
    Option (Setting × Session) :=
  (session.2.step session.1 event).map fun next => (session.1, next)

def spawned : TcpListener.Event → List ForwardBidirectional
  | .opened => [{ streamACounter := 0, streamBCounter := 0 }]
  | _ => []

def step (process : ServerProcess) : Event → Option ServerProcess
  | .connected setting =>
      some { process with sessions := process.sessions ++ [(setting, {})] }
  | .session index event =>
      (stepAt sessionStep process.sessions index event).map fun sessions =>
        match event with
        | .listener event =>
            { sessions := sessions
              forwarding := process.forwarding ++ spawned event
              metrics := process.metrics.listener event }
        | _ => { process with sessions := sessions }
  | .forward index event =>
      (stepAt ForwardBidirectional.step process.forwarding index event).map fun forwarding =>
        { process with forwarding := forwarding }
  | .record index =>
      match process.forwarding[index]? with
      | none => none
      | some forward =>
          match forward.result with
          | none => none
          | some result =>
              some { process with
                forwarding := process.forwarding.eraseIdx index
                metrics := process.metrics.forwarded result }

end ServerProcess

/-- Whether the listener waits in `open_bi` for an accepted connection. -/
def TcpListener.waiting (listener : TcpListener) : Nat :=
  match listener.phase with
  | .opening _ => 1
  | _ => 0

def Session.waiting (session : Session) : Nat :=
  match session.listener with
  | some listener => listener.waiting
  | none => 0

/-- An accept begins a wait for a stream, and what comes of `open_bi` ends it. -/
theorem TcpListener.waiting_step {cancelled closed : Bool} {listener next : TcpListener}
    {event : TcpListener.Event} (taken : listener.step cancelled closed event = some next) :
    next.waiting + (if event = .opened ∨ event = .openFailed then 1 else 0) =
      listener.waiting + if event = .accepted then 1 else 0 := by
  unfold TcpListener.step at taken
  split at taken
  · rename_i phase
    split at taken
    · cases taken
      simp [waiting, phase]
    · cases taken
      simp [waiting, phase]
    · cases taken
  · rename_i phase
    split at taken
    · split at taken
      · cases taken
        simp [waiting, phase]
      · cases taken
    · cases taken
      simp [waiting, phase]
    · cases taken
      simp [waiting, phase]
    · cases taken
  · rename_i late phase
    split at taken
    · split at taken
      · cases taken
      · cases taken
        simp [waiting, settle, phase]
    · cases taken
      simp [waiting, phase]
    · cases taken
  · rename_i late phase
    split at taken
    · cases taken
      simp [waiting, settle, phase]
    · cases taken
  · cases taken

namespace Session

variable {setting : Setting} {session next : Session}

private theorem listener_afterAuthenticate (challenge : String) (auth : ServerAuthenticate) :
    (session.afterAuthenticate setting challenge auth).listener = session.listener := by
  unfold afterAuthenticate
  split <;> rfl

private theorem listener_authenticate :
    (session.authenticate setting).listener = session.listener := by
  unfold authenticate
  split
  · rfl
  · exact listener_afterAuthenticate ..

private theorem listener_afterConfigure (config : ConfigureQuicClient) :
    (session.afterConfigure setting config).listener = session.listener := by
  unfold afterConfigure
  split
  · unfold configured
    split <;> rfl
  · rfl
  · rfl

private theorem listener_afterLoop (loop : ControlChannelLoop) :
    (session.afterLoop loop).listener = session.listener := by
  unfold afterLoop
  split <;> rfl

/-- Only the listener task begins and ends waits for a stream. -/
theorem waiting_step {event : Event} (orderly : session.Orderly)
    (taken : session.step setting event = some next) :
    match event with
    | .listener event =>
        next.waiting + (if event = .opened ∨ event = .openFailed then 1 else 0) =
          session.waiting + if event = .accepted then 1 else 0
    | _ => next.waiting = session.waiting := by
  rcases step_cases taken with
    ⟨_, opening⟩ | ⟨challenge, auth, cause, _, rfl, authenticating⟩ |
      ⟨config, cause, _, rfl, configuring⟩ | ⟨requested, stage, binding⟩ |
      ⟨loop, cause, after, _, rfl, _, _, rfl⟩ |
      ⟨listener, cause, moved, rfl, spawned, resumed, rfl⟩ | ⟨listener, result, _, rfl, _, _, rfl⟩
  · rcases opening with ⟨rfl, rfl⟩ | ⟨rfl, rfl⟩ | ⟨reason, rfl, rfl⟩
    · rfl
    · simp only [waiting, listener_authenticate]
    · rfl
  · rcases authenticating with ⟨_, rfl⟩ | ⟨after, _, rfl⟩
    · rfl
    · simp only [waiting, listener_afterAuthenticate]
  · rcases configuring with ⟨_, rfl⟩ | ⟨after, _, rfl⟩
    · rfl
    · simp only [waiting, listener_afterConfigure]
  · rcases binding with ⟨port, rfl, _, rfl⟩ | ⟨rfl, rfl⟩
    · simp only [Orderly, stage] at orderly
      simp only [waiting, bound, orderly.2.2]
      rfl
    · rfl
  · simp only [waiting, listener_afterLoop]
  · simp only [waiting, spawned]
    exact TcpListener.waiting_step resumed
  · rfl

end Session

namespace ServerProcess

def waiting (process : ServerProcess) : Nat :=
  (process.sessions.map fun session => session.2.waiting).sum

/-- Every accepted connection is counted as ended, or is waiting for its stream, or is
being forwarded. -/
structure Conserved (process : ServerProcess) : Prop where
  orderly : ∀ session ∈ process.sessions, session.2.Orderly
  accepted : process.metrics.tcpConnectionsAccepted =
    process.metrics.quicDataStreamOpeningErrors +
      process.metrics.tcpQuicConnectionsClosedError +
      process.metrics.tcpQuicConnectionsClosedGraceful +
      process.waiting + process.forwarding.length

theorem conserved_start : Conserved {} where
  orderly := fun _ member => absurd member List.not_mem_nil
  accepted := rfl

theorem orderly_sessionStep (session : Setting × Session) (event : Session.Event)
    (next : Setting × Session) (orderly : session.2.Orderly)
    (taken : sessionStep session event = some next) : next.2.Orderly := by
  obtain ⟨state, moved, rfl⟩ := Option.map_eq_some_iff.mp taken
  exact Session.orderly_step orderly moved

variable {process next : ServerProcess}

private theorem conserved_session {index : Nat} {event : Session.Event}
    (holds : process.Conserved) (taken : process.step (.session index event) = some next) :
    next.Conserved := by
  obtain ⟨sessions, moved, rfl⟩ := Option.map_eq_some_iff.mp taken
  have orderly := forall_stepAt (fun session : Setting × Session => session.2.Orderly)
    orderly_sessionStep holds.orderly moved
  obtain ⟨session, session', member, stepped, total⟩ :=
    sum_stepAt (fun session : Setting × Session => session.2.waiting) moved
  obtain ⟨state, resumed, rfl⟩ := Option.map_eq_some_iff.mp stepped
  change _ + _ = _ + state.waiting at total
  have waits := Session.waiting_step (holds.orderly session member) resumed
  have accepted := holds.accepted
  unfold waiting at accepted
  cases event with
  | listener event =>
      refine ⟨orderly, ?_⟩
      unfold waiting
      cases event <;>
        simp only [Metrics.listener, spawned, List.append_nil, List.length_append,
          List.length_singleton, reduceCtorEq, or_self, or_true, true_or, if_true,
          if_false] at waits ⊢ <;> omega
  | _ =>
      refine ⟨orderly, ?_⟩
      unfold waiting
      simp only at waits ⊢
      omega

private theorem conserved_record {index : Nat} (holds : process.Conserved)
    (taken : process.step (.record index) = some next) : next.Conserved := by
  simp only [step] at taken
  split at taken
  · cases taken
  · rename_i forward found
    split at taken
    · cases taken
    · rename_i result ended
      cases taken
      obtain ⟨inside, _⟩ := List.getElem?_eq_some_iff.mp found
      have shorter := List.length_eraseIdx_add_one inside
      have accepted := holds.accepted
      refine ⟨holds.orderly, ?_⟩
      unfold waiting at accepted ⊢
      cases result with
      | ok _ =>
          simp only [Metrics.forwarded]
          omega
      | error error =>
          simp only [Metrics.forwarded]
          omega

theorem conserved_step {event : Event} (holds : process.Conserved)
    (taken : process.step event = some next) : next.Conserved := by
  cases event with
  | connected setting =>
      cases taken
      refine ⟨List.forall_mem_append.mpr
        ⟨holds.orderly, List.forall_mem_singleton.mpr Session.orderly_start⟩, ?_⟩
      have fresh : Session.waiting {} = 0 := rfl
      simpa [waiting, fresh] using holds.accepted
  | session index event => exact conserved_session holds taken
  | forward index event =>
      obtain ⟨forwarding, moved, rfl⟩ := Option.map_eq_some_iff.mp taken
      obtain ⟨_, _, _, _, rfl⟩ := stepAt_eq_some.mp moved
      refine ⟨holds.orderly, ?_⟩
      simpa [waiting] using holds.accepted
  | record index => exact conserved_record holds taken

/-- A session without a listener has the process to itself. -/
theorem run_session {setting : Setting} {session final : Session} {index : Nat}
    {events : List Session.Event}
    (found : process.sessions[index]? = some (setting, session))
    (silent : ∀ event ∈ events, ∀ other, event ≠ .listener other)
    (ran : run (Session.step setting) session events = some final) :
    run step process (events.map (.session index)) =
      some { process with sessions := process.sessions.set index (setting, final) } := by
  induction events generalizing process session with
  | nil =>
      cases ran
      obtain ⟨inside, same⟩ := List.getElem?_eq_some_iff.mp found
      rw [← same, List.set_getElem_self]
      rfl
  | cons event events ih =>
      obtain ⟨next, taken, rest⟩ := run_cons_eq_some.mp ran
      obtain ⟨quiet, silent⟩ := List.forall_mem_cons.mp silent
      have kept : step process (.session index event) =
          some { process with
            sessions := process.sessions.set index (setting, next) } := by
        cases event with
        | listener other => exact (quiet other rfl).elim
        | _ => simp [step, stepAt, found, sessionStep, taken]
      have inside : index < process.sessions.length :=
        (List.getElem?_eq_some_iff.mp found).1
      have later := @ih
        { process with sessions := process.sessions.set index (setting, next) } next
        (List.getElem?_set_self inside) silent rest
      rw [List.set_set] at later
      exact run_cons_eq_some.mpr ⟨_, kept, later⟩

/-- The accepted connections are, in every state of the server: those whose stream failed
to open, those that ended with an error or gracefully, those that wait for a stream and
those that are being forwarded. -/
theorem connections_conserved {events : List Event} {final : ServerProcess}
    (ran : run step {} events = some final) :
    final.metrics.tcpConnectionsAccepted =
      final.metrics.quicDataStreamOpeningErrors +
        final.metrics.tcpQuicConnectionsClosedError +
        final.metrics.tcpQuicConnectionsClosedGraceful +
        final.waiting + final.forwarding.length :=
  (run_invariant Conserved (fun _ _ _ holds taken => conserved_step holds taken)
    conserved_start ran).accepted

def acceptThree : List Session.Event :=
  Session.gateEvents Session.sampleChallenge Session.sampleResponse 0 80 ++
    [.bound 80, .listener (.localAddr true), .listener .accepted, .listener .opened,
      .listener .accepted, .listener .openFailed, .listener .shutdown, .listener .accepted]

def threeAccepted : List Event :=
  [.connected (Session.sampleSetting [.single 80])] ++ acceptThree.map (.session 0) ++
    [.forward 0 (.aToB .eof), .forward 0 (.aToB .flushed), .forward 0 (.aToB .shutdown),
      .forward 0 (.bToA .eof), .forward 0 (.bToA .flushed), .forward 0 (.bToA .shutdown),
      .record 0]

theorem connections_conserved_three :
    ∃ final, run step {} threeAccepted = some final ∧
      final.metrics.tcpConnectionsAccepted = 3 ∧
      final.metrics.tcpConnectionsAccepted =
        final.metrics.quicDataStreamOpeningErrors +
          final.metrics.tcpQuicConnectionsClosedError +
          final.metrics.tcpQuicConnectionsClosedGraceful +
          final.waiting + final.forwarding.length := by
  have allowed : allows (Session.sampleSetting [.single 80]).config.localBindPorts
      (fromBeBytes 0 80) = true := by decide
  have session := Session.run_of_runOn (Session.run_gateEvents
    (Session.sample_drawn [.single 80]) (Session.sample_isResponse _) allowed [])
  let opened : ServerProcess := { sessions := [(Session.sampleSetting [.single 80], {})] }
  have connected : run step {} [.connected (Session.sampleSetting [.single 80])] =
      some opened := rfl
  have found : opened.sessions[0]? =
      some (Session.sampleSetting [.single 80], ({} : Session)) := rfl
  have gate := run_session found (by simp [Session.gateEvents]) session
  have runs : (run step {} threeAccepted).map
      (fun process => process.metrics.tcpConnectionsAccepted) = some 3 := by
    rw [threeAccepted, acceptThree, List.map_append, List.append_assoc,
      List.append_assoc, run_append connected, run_append gate]
    decide +kernel
  obtain ⟨final, ran, accepted⟩ := Option.map_eq_some_iff.mp runs
  exact ⟨final, ran, accepted, connections_conserved ran⟩

end ServerProcess

end PortRedirect.Server
