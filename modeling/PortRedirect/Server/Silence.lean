import PortRedirect.Protocol.Handshake
import PortRedirect.Server.SessionHistory
import PortRedirect.Server.Teardown

namespace PortRedirect

open PortRedirect.Text
open PortRedirect.Stream
open PortRedirect.Protocol
open PortRedirect.Transition

/-! A session to which nothing more is sent: it reads what it was sent already, waits for
deadlines, and for calls that come back well or not, and then it returns. -/

universe u v

namespace Protocol

theorem ServerAuthenticate.remaining_start (challenge : String) :
    (start challenge).remaining ≤ 139 + challengeRequestBufferLength := by
  unfold start
  split
  · exact Nat.zero_le _
  · simp only [remaining]
    omega

/-- Without bytes the configuration only fails. -/
theorem ConfigureQuicClient.step_input {config next : ConfigureQuicClient}
    {event : Stream.Event} (taken : config.step event = some next) :
    (∃ error, next = .returned (.error error)) ∨ event.input ≠ [] := by
  cases config with
  | readHeader buffer | readPort buffer =>
      obtain ⟨outcome, polled, rfl⟩ := Option.map_eq_some_iff.mp taken
      rcases pollReadExact_eq_some polled with
        ⟨bytes, rfl, nonempty, _⟩ | ⟨bytes, rfl, nonempty, _⟩ | ⟨_, rfl⟩ | ⟨_, rfl⟩
      · exact .inr nonempty
      · exact .inr nonempty
      · exact .inl ⟨_, rfl⟩
      · exact .inl ⟨_, rfl⟩
  | returned result => cases taken

/-- How many steps the loop can still take without another byte. -/
def ControlChannelLoop.remaining : ControlChannelLoop → Nat
  -- a line may be at hand already, and is answered first
  | .readLine buf => if buf = [] then 1 else 4 + pongMessage.length
  | .writePong rest => 3 + rest.length
  | .flushPong => 2
  | .returned _ => 0

theorem ControlChannelLoop.remaining_heardMessage {buf : Bytes} :
    (heardMessage buf).remaining < (readLine buf).remaining := by
  by_cases empty : buf = []
  · simp [heardMessage, remaining, empty]
  · have waits : (readLine buf).remaining = 4 + pongMessage.length := if_neg empty
    rw [waits, heardMessage, if_neg empty]
    by_cases ping : buf = pingMessage
    · rw [if_pos ping]
      simp only [remaining]
      omega
    · rw [if_neg ping]
      by_cases bye : buf = connectionEndMessage
      · rw [if_pos bye]
        simp only [remaining]
        omega
      · rw [if_neg bye]
        simp only [remaining]
        omega

theorem ControlChannelLoop.remaining_readLine (buf : Bytes) :
    0 < (readLine buf).remaining ∧ (readLine buf).remaining ≤ 9 := by
  simp only [remaining, length_pongMessage]
  split <;> decide

/-- A byte is worth a PONG. -/
theorem ControlChannelLoop.remaining_step {loop next : ControlChannelLoop}
    {event : Stream.Event} (taken : loop.step event = some next) :
    next.remaining < loop.remaining + 9 * event.input.length := by
  cases loop with
  | readLine buf =>
      have waits := (remaining_readLine buf).1
      simp only [step] at taken
      split at taken
      · cases taken
        exact Nat.add_pos_left waits _
      · split at taken
        · cases taken
          exact Nat.add_pos_left waits _
        · obtain ⟨outcome, polled, rfl⟩ := Option.map_eq_some_iff.mp taken
          rcases pollRead_eq_some polled with
            ⟨bytes, rfl, rfl, nonempty, _⟩ | ⟨rfl, rfl⟩ | ⟨rfl, rfl⟩
          · -- the line grows by a byte, or ends with it and is answered
            have size := List.length_pos_of_ne_nil nonempty
            have longer := (remaining_readLine (buf ++ bytes)).2
            have heard := @remaining_heardMessage (buf ++ bytes)
            simp only [Event.input]
            split <;> omega
          · simp only [true_or, if_true, List.append_nil]
            exact remaining_heardMessage
          · exact waits
  | writePong rest =>
      obtain ⟨outcome, polled, rfl⟩ := Option.map_eq_some_iff.mp taken
      rcases pollWriteAll_eq_some polled with
        ⟨_, rfl⟩ | ⟨bytes, tail, _, rfl, rfl, nonempty, _⟩ | ⟨_, rfl⟩
      · simp only [remaining]
        omega
      · have size := List.length_pos_of_ne_nil nonempty
        simp only [remaining, List.length_append]
        omega
      · simp only [remaining]
        omega
  | flushPong =>
      obtain ⟨outcome, polled, rfl⟩ := Option.map_eq_some_iff.mp taken
      rcases pollFlush_eq_some polled with ⟨rfl, rfl⟩ | ⟨rfl, rfl⟩
      · exact Nat.lt_succ_self 1
      · exact Nat.succ_pos 1
  | returned exit => cases taken

end Protocol

namespace Server

namespace TcpListener

/-- No connection arrives, and none fails to. -/
def Event.silent : Event → Bool
  | .accepted | .acceptFailed => false
  | _ => true

def remaining (listener : TcpListener) : Nat :=
  match listener.phase with
  | .opening _ => 3
  | .starting | .shuttingDown _ => 2
  | .selecting => 1
  | .finished _ => 0

theorem remaining_step {cancelled closed : Bool} {listener next : TcpListener} {event : Event}
    (silent : event.silent = true)
    (taken : listener.step cancelled closed event = some next) :
    next.remaining < listener.remaining := by
  unfold step at taken
  split at taken
  · rename_i phase
    split at taken
    · cases taken
      simp [remaining, phase]
    · cases taken
      simp [remaining, phase]
    · cases taken
  · rename_i phase
    split at taken
    · split at taken
      · cases taken
        simp [remaining, phase]
      · cases taken
    · cases silent
    · cases silent
    · cases taken
  · rename_i late phase
    split at taken
    · split at taken
      · cases taken
      · cases taken
        simp [remaining, settle, phase]
    · cases taken
      simp [remaining, phase]
    · cases taken
  · rename_i late phase
    split at taken
    · cases taken
      simp [remaining, settle, phase]
    · cases taken
  · cases taken

/-- Once the token is cancelled the task has a step left until it finishes. -/
theorem exists_silent_step {listener : TcpListener} (closed : Bool)
    (running : listener.finished = false) :
    ∃ event next, event.silent = true ∧ listener.step true closed event = some next := by
  cases phase : listener.phase with
  | starting => exact ⟨.localAddr true, _, rfl, by simp only [step, phase]; rfl⟩
  | selecting => exact ⟨.cancelled, _, rfl, by simp only [step, phase]; rfl⟩
  | opening late => exact ⟨.openFailed, _, rfl, by simp only [step, phase]; rfl⟩
  | shuttingDown late => exact ⟨.shutdown, _, rfl, by simp only [step, phase]; rfl⟩
  | finished result => simp [finished, phase] at running

end TcpListener

namespace Session

def Event.silent : Event → Bool
  | .listener event => event.silent
  | _ => true

def Stage.remaining : Stage → Nat
  | .openControl => 146 + challengeRequestBufferLength
  | .authenticate _ auth => 6 + auth.remaining
  | .configure _ => 6
  | .bind _ => 5
  | .controlLoop loop => 1 + loop.remaining
  | .joinListener => 1
  | .returned _ => 0

/-- A bound on what the session and its listener can still do without another byte. -/
def remaining (session : Session) : Nat :=
  session.stage.remaining +
    match session.listener with
    | some listener => listener.remaining
    | none => 0

variable {setting : Setting} {session next : Session}

theorem remaining_fail (reason : String) (error : Error) (unspawned : session.listener = none) :
    (session.fail reason error).remaining = 0 := by
  simp [remaining, fail, close, Stage.remaining, unspawned]

theorem remaining_afterAuthenticate (unspawned : session.listener = none) (challenge : String)
    (auth : ServerAuthenticate) :
    (session.afterAuthenticate setting challenge auth).remaining ≤ 6 + auth.remaining := by
  unfold afterAuthenticate
  split
  · simp [remaining, Stage.remaining, unspawned]
  · rw [authenticationFailed, remaining_fail _ _ unspawned]
    exact Nat.zero_le _
  · simp [remaining, Stage.remaining, unspawned]

theorem remaining_configured (unspawned : session.listener = none) (port : UInt16) :
    (session.configured setting port).remaining ≤ 5 := by
  unfold configured
  split
  · simp [remaining, Stage.remaining, unspawned]
  · rw [remaining_fail _ _ unspawned]
    exact Nat.zero_le _

theorem remaining_afterConfigure (unspawned : session.listener = none)
    (config : ConfigureQuicClient) :
    (session.afterConfigure setting config).remaining ≤ 6 := by
  unfold afterConfigure
  split
  · exact (remaining_configured unspawned _).trans (Nat.le_succ 5)
  · rw [remaining_fail _ _ unspawned]
    exact Nat.zero_le _
  · simp [remaining, Stage.remaining, unspawned]

theorem remaining_step {event : Event} (silent : event.silent = true)
    (orderly : session.Orderly) (taken : step setting session event = some next) :
    next.remaining < session.remaining + 9 * ((party setting).input event).length := by
  unfold Orderly at orderly
  rcases step_cases taken with
    ⟨stage, opening⟩ | ⟨challenge, auth, cause, stage, rfl, authenticating⟩ |
      ⟨config, cause, stage, rfl, configuring⟩ | ⟨requested, stage, binding⟩ |
      ⟨loop, cause, after, stage, rfl, _, resumed, rfl⟩ |
      ⟨listener, cause, moved, rfl, spawned, resumed, rfl⟩ |
      ⟨listener, result, stage, rfl, spawned, phase, rfl⟩
  · simp only [stage] at orderly
    have before : session.remaining = 146 + challengeRequestBufferLength := by
      simp [remaining, Stage.remaining, stage, orderly.2.2]
    rw [before]
    rcases opening with ⟨_, rfl⟩ | ⟨_, rfl⟩ | ⟨reason, _, rfl⟩
    · rw [authenticationTimedOut, remaining_fail _ _ orderly.2.2]
      omega
    · unfold authenticate
      split
      · rw [authenticationFailed, remaining_fail _ _ orderly.2.2]
        omega
      · rename_i challenge _
        have after := @remaining_afterAuthenticate setting session orderly.2.2 challenge
          (.start challenge)
        have started := ServerAuthenticate.remaining_start challenge
        omega
    · rw [authenticationFailed, remaining_fail _ _ orderly.2.2]
      omega
  · simp only [stage] at orderly
    have before : session.remaining = 6 + auth.remaining := by
      simp [remaining, Stage.remaining, stage, orderly.2.2]
    rw [before]
    rcases authenticating with ⟨_, rfl⟩ | ⟨after, resumed, rfl⟩
    · rw [authenticationTimedOut, remaining_fail _ _ orderly.2.2]
      omega
    · have less := ServerAuthenticate.remaining_step resumed
      have kept := @remaining_afterAuthenticate setting session orderly.2.2 challenge after
      omega
  · simp only [stage] at orderly
    have before : session.remaining = 6 := by
      simp [remaining, Stage.remaining, stage, orderly.2.2]
    rw [before]
    rcases configuring with ⟨_, rfl⟩ | ⟨after, resumed, rfl⟩
    · rw [configurationTimedOut, remaining_fail _ _ orderly.2.2]
      omega
    · rcases ConfigureQuicClient.step_input resumed with ⟨error, rfl⟩ | nonempty
      · rw [afterConfigure, remaining_fail _ _ orderly.2.2]
        omega
      · have read : 0 < ((party setting).input (.control cause)).length :=
          List.length_pos_of_ne_nil nonempty
        have kept := @remaining_afterConfigure setting session orderly.2.2 after
        omega
  · simp only [stage] at orderly
    have before : session.remaining = 5 := by
      simp [remaining, Stage.remaining, stage, orderly.2.2]
    rw [before]
    rcases binding with ⟨port, rfl, _, rfl⟩ | ⟨rfl, rfl⟩
    · exact Nat.lt_succ_self 4
    · rw [bindFailed, remaining_fail _ _ orderly.2.2]
      omega
  · have less : after.remaining <
        loop.remaining + 9 * ((party setting).input (.control cause)).length :=
      ControlChannelLoop.remaining_step resumed
    unfold afterLoop
    split
    · simp only [remaining, Stage.remaining, stage, close] at less ⊢
      omega
    · simp only [remaining, Stage.remaining, stage]
      omega
  · have less := TcpListener.remaining_step silent resumed
    simp only [remaining, spawned]
    omega
  · simp only [remaining, Stage.remaining, stage]
    omega

/-- A session is in its control loop only as long as the loop goes on. -/
def Looping (session : Session) : Prop :=
  ∀ loop, session.stage = .controlLoop loop → ∀ exit, loop ≠ .returned exit

theorem looping_step {event : Event} (holds : session.Looping)
    (taken : step setting session event = some next) : next.Looping := by
  have elsewhere {session : Session} {stage : Stage} (here : session.stage = stage)
      (other : ∀ loop, stage ≠ .controlLoop loop) : session.Looping := by
    intro loop same
    exact absurd (here.symm.trans same) (other loop)
  rcases step_cases taken with
    ⟨_, opening⟩ | ⟨challenge, auth, cause, _, _, authenticating⟩ |
      ⟨config, cause, _, _, configuring⟩ | ⟨requested, _, binding⟩ |
      ⟨loop, cause, after, _, _, _, _, rfl⟩ | ⟨listener, cause, moved, _, _, _, rfl⟩ |
      ⟨listener, result, _, _, _, _, rfl⟩
  · rcases opening with ⟨_, rfl⟩ | ⟨_, rfl⟩ | ⟨reason, _, rfl⟩
    · exact elsewhere rfl fun _ => Stage.noConfusion
    · unfold authenticate afterAuthenticate
      split
      · exact elsewhere rfl fun _ => Stage.noConfusion
      · split
        · exact elsewhere rfl fun _ => Stage.noConfusion
        · exact elsewhere rfl fun _ => Stage.noConfusion
        · exact elsewhere rfl fun _ => Stage.noConfusion
    · exact elsewhere rfl fun _ => Stage.noConfusion
  · rcases authenticating with ⟨_, rfl⟩ | ⟨after, _, rfl⟩
    · exact elsewhere rfl fun _ => Stage.noConfusion
    · unfold afterAuthenticate
      split
      · exact elsewhere rfl fun _ => Stage.noConfusion
      · exact elsewhere rfl fun _ => Stage.noConfusion
      · exact elsewhere rfl fun _ => Stage.noConfusion
  · rcases configuring with ⟨_, rfl⟩ | ⟨after, _, rfl⟩
    · exact elsewhere rfl fun _ => Stage.noConfusion
    · unfold afterConfigure configured
      split
      · split
        · exact elsewhere rfl fun _ => Stage.noConfusion
        · exact elsewhere rfl fun _ => Stage.noConfusion
      · exact elsewhere rfl fun _ => Stage.noConfusion
      · exact elsewhere rfl fun _ => Stage.noConfusion
  · rcases binding with ⟨port, _, _, rfl⟩ | ⟨_, rfl⟩
    · rintro loop ⟨⟩ exit
      exact ControlChannelLoop.noConfusion
    · exact elsewhere rfl fun _ => Stage.noConfusion
  · unfold afterLoop
    split
    · exact elsewhere rfl fun _ => Stage.noConfusion
    · rename_i running
      rintro loop ⟨⟩ exit rfl
      exact running exit rfl
  · exact holds
  · exact elsewhere rfl fun _ => Stage.noConfusion

theorem reached {events : List Event} (ran : run (step setting) {} events = some session) :
    session.Orderly ∧ session.Looping :=
  run_invariant (fun session : Session => session.Orderly ∧ session.Looping)
    (fun _ _ _ holds taken => ⟨orderly_step holds.1 taken, looping_step holds.2 taken⟩)
    ⟨orderly_start, fun _ same => by cases same⟩ ran

section Stream

variable {τ : Type u} {κ : Type v} {client : Party τ κ} {stream after : Duplex Session τ}

/-- The client writes nothing and no TCP connection comes in. -/
def Silent (client : Party τ κ) : Event ⊕ κ → Prop
  | .inl event => event.silent = true
  | .inr event => client.output event = []

/-- A bound on what the session can still do with the bytes that are on their way. -/
def remainingOn (stream : Duplex Session τ) : Nat :=
  stream.left.remaining + 9 * stream.toLeft.pending.length

theorem remainingOn_step {event : Event ⊕ κ} (silent : Silent client event)
    (orderly : stream.left.Orderly)
    (taken : stream.step (party setting) client event = some after) :
    after.left.Orderly ∧ remainingOn after + event.isLeft.toNat ≤ remainingOn stream := by
  cases event with
  | inl event =>
      obtain ⟨resumed, _⟩ := Duplex.step_inl_eq_some taken
      have less := remaining_step silent orderly resumed
      refine ⟨orderly_step orderly resumed, ?_⟩
      simp only [remainingOn, Sum.isLeft_inl, Bool.toNat_true, Duplex.pending_inl taken,
        List.length_append]
      omega
  | inr event =>
      obtain ⟨_, same, _⟩ := Duplex.step_inr_eq_some taken
      have kept := Duplex.pending_inr taken
      rw [silent, List.append_nil] at kept
      rw [same]
      refine ⟨orderly, ?_⟩
      simp [remainingOn, same, kept]

theorem reached_step {event : Event ⊕ κ} (holds : stream.left.Orderly ∧ stream.left.Looping)
    (taken : stream.step (party setting) client event = some after) :
    after.left.Orderly ∧ after.left.Looping := by
  cases event with
  | inl event =>
      obtain ⟨resumed, _⟩ := Duplex.step_inl_eq_some taken
      exact ⟨orderly_step holds.1 resumed, looping_step holds.2 resumed⟩
  | inr event =>
      obtain ⟨_, same, _⟩ := Duplex.step_inr_eq_some taken
      rwa [same]

/-- A session that has not returned has a silent step left, whatever the client does. -/
theorem exists_silent_step (orderly : stream.left.Orderly) (looping : stream.left.Looping)
    (running : ∀ result, stream.left.stage ≠ .returned result) :
    ∃ event after, event.silent = true ∧
      stream.step (party setting) client (.inl event) = some after := by
  have through (io : Stream.Event)
      (moved : ∃ channels, transfer io stream.toLeft stream.toRight
        (client.gone stream.right) = some channels)
      (resumed : ∃ next, step setting stream.left (.control io) = some next) :
      ∃ event after, event.silent = true ∧
        stream.step (party setting) client (.inl event) = some after := by
    obtain ⟨channels, moved⟩ := moved
    obtain ⟨next, resumed⟩ := resumed
    exact ⟨.control io, _, rfl, Duplex.step_inl_eq resumed rfl moved⟩
  have alone {event : Event} (silent : event.silent = true)
      (off : (party setting).io event = none)
      (resumed : ∃ next, step setting stream.left event = some next) :
      ∃ event after, event.silent = true ∧
        stream.step (party setting) client (.inl event) = some after := by
    obtain ⟨next, resumed⟩ := resumed
    exact ⟨event, _, silent, Duplex.step_inl_eq_of_silent resumed off⟩
  unfold Orderly at orderly
  cases stage : stream.left.stage with
  | openControl | authenticate challenge auth | configure config =>
      exact through .elapsed ⟨_, rfl⟩ ⟨_, by simp only [step, control, stage]; rfl⟩
  | bind port => exact @alone .bindFailed rfl rfl ⟨_, by simp only [step, stage]; rfl⟩
  | controlLoop loop =>
      cases loop with
      | readLine buf =>
          exact through .elapsed ⟨_, rfl⟩ ⟨_, by simp only [step, control, stage]; rfl⟩
      | writePong rest =>
          refine through (.sent rest) ⟨_, rfl⟩ ⟨stream.left.afterLoop .flushPong, ?_⟩
          simp [step, control, stage, ControlChannelLoop.step]
      | flushPong =>
          exact through .flushed ⟨_, rfl⟩ ⟨_, by simp only [step, control, stage]; rfl⟩
      | returned exit => exact absurd rfl (looping _ stage exit)
  | joinListener =>
      simp only [stage] at orderly
      obtain ⟨_, cancelled, listener, spawned, _⟩ := orderly
      cases finished : listener.finished with
      | false =>
          obtain ⟨event, moved, silent, resumed⟩ :=
            TcpListener.exists_silent_step stream.left.closed finished
          refine @alone (.listener event) silent rfl
            ⟨{ stream.left with listener := some moved }, ?_⟩
          simp [step, spawned, cancelled, resumed]
      | true =>
          unfold TcpListener.finished at finished
          split at finished
          · rename_i result phase
            refine @alone .joined rfl rfl ⟨{ stream.left with stage := .returned result }, ?_⟩
            simp [step, stage, spawned, phase]
          · cases finished
  | returned result => exact absurd stage (running result)

/-- From every state that a session gets to, with whatever it has been sent and not read yet:
once its client sends nothing more and no TCP connection comes in, only a bounded number of
steps is left to it, in whatever order, and until the handler has returned there is always
another. -/
theorem silent_session_returns {events : List Event}
    (ran : run (step setting) {} events = some stream.left) :
    ∀ silent final, (∀ event ∈ silent, Silent client event) →
      run (Duplex.step (party setting) client) stream silent = some final →
        silent.countP Sum.isLeft ≤ stream.left.remaining + 9 * stream.toLeft.pending.length ∧
          ((∃ result, final.left.stage = .returned result) ∨
            ∃ event after, event.silent = true ∧
              final.step (party setting) client (.inl event) = some after) := by
  intro silent final every quiet
  constructor
  · have bounded := run_countP_le_of_forall (Silent client)
      (fun stream : Duplex Session τ => stream.left.Orderly) remainingOn Sum.isLeft
      (fun _ _ _ silent orderly taken => remainingOn_step silent orderly taken)
      (reached ran).1 every quiet
    exact (Nat.le_add_right _ _).trans bounded
  · obtain ⟨orderly, looping⟩ : final.left.Orderly ∧ final.left.Looping :=
      run_invariant (fun stream : Duplex Session τ => stream.left.Orderly ∧ stream.left.Looping)
        (fun _ _ _ holds taken => reached_step holds taken) (reached ran) quiet
    by_cases returned : ∃ result, final.left.stage = .returned result
    · exact .inl returned
    · rw [not_exists] at returned
      exact .inr (exists_silent_step orderly looping returned)

end Stream

/-- What a client of a bound port has sent before it falls silent is still read. -/
def fallSilent : List (Event ⊕ Empty) :=
  List.map .inl
    [.control (.received (utf8 "P")), .control (.received (utf8 "I")),
      .listener (.localAddr true), .control (.received (utf8 "N")),
      .control (.received (utf8 "G")), .control (.received (utf8 "\n")),
      .control (.sent pongMessage), .control .flushed, .control (.received (utf8 "P")),
      .control .elapsed, .listener .cancelled, .joined]

theorem silent_session_returns_fallSilent :
    ∃ session final,
      run (step (sampleSetting [.single 80])) {}
        (gateEvents sampleChallenge sampleResponse 0 80 ++ [.bound 80]) = some session ∧
      run (Duplex.step (party (sampleSetting [.single 80])) Party.departed)
        (Duplex.fed session (utf8 "PING\nP")) fallSilent = some final ∧
      fallSilent.countP Sum.isLeft ≤ session.remaining + 9 * (utf8 "PING\nP").length ∧
      ((∃ result, final.left.stage = .returned result) ∨
        ∃ event after, event.silent = true ∧
          final.step (party (sampleSetting [.single 80])) Party.departed (.inl event) =
            some after) := by
  have allowed : allows (sampleSetting [.single 80]).config.localBindPorts
      (fromBeBytes 0 80) = true := by decide
  have gate := run_of_runOn
    (run_gateEvents (sample_drawn [.single 80]) (sample_isResponse _) allowed [])
  let bound : Session :=
    { stage := .controlLoop .start
      binds := ["127.0.0.1:80"]
      listener := some { port := 80 } }
  have ran : run (step (sampleSetting [.single 80])) {}
      (gateEvents sampleChallenge sampleResponse 0 80 ++ [.bound 80]) = some bound := by
    rw [run_append gate]
    rfl
  have quiet : run (Duplex.step (party (sampleSetting [.single 80])) Party.departed)
      (Duplex.fed bound (utf8 "PING\nP")) fallSilent =
      some
        { left :=
            { bound with
              stage := .returned (.ok ())
              closes := ["OK normal shutdown"]
              cancelled := true
              listener := some { port := 80, phase := .finished (.ok ()) } }
          right := ()
          toRight := { pending := pongMessage }
          toLeft := { delivered := utf8 "PING\nP" } } := rfl
  have every : ∀ event ∈ fallSilent, Silent Party.departed event := by
    simp [fallSilent, Silent, Event.silent, TcpListener.Event.silent]
  refine ⟨_, _, ran, quiet, ?_⟩
  exact @silent_session_returns _ _ _ _ (Duplex.fed bound (utf8 "PING\nP")) _ ran _ _ every quiet

end Session

end Server

end PortRedirect
