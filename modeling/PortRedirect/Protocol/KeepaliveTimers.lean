import PortRedirect.Protocol.Lockstep

namespace PortRedirect.Protocol

open PortRedirect.Text
open PortRedirect.Stream
open PortRedirect.Transition

/-! The two keepalive loops with their timers.  Time passes in `delay` events of any
length; a deadline can fire once it is reached. -/

structure TimedPair where
  pair : KeepalivePair := KeepalivePair.start
  now : Nat := 0
  /-- The next deadline of the client's interval, which fires at once when it is
  already over. -/
  nextTick : Nat := 0
  /-- When the interval last fired. -/
  pingAt : Nat := 0
  pongDeadline : Nat := 0
  /-- Whether the server has reached its loop. -/
  entered : Bool := false
  lineDeadline : Nat := 0

namespace TimedPair

inductive Label where
  | delay (duration : Nat)
  | enter
  | client (event : Event)
  | server (event : Event)

def waiting (timed : TimedPair) : Prop := timed.pair.left.phase = .awaitTick

instance (timed : TimedPair) : Decidable timed.waiting :=
  inferInstanceAs (Decidable (_ = _))

def startLine (timed : TimedPair) : TimedPair :=
  { timed with
    lineDeadline :=
      timed.now + (connectionKeepaliveInterval + connectionKeepaliveReadTimeout) }

def clientStep (timed : TimedPair) (event : Event) : Option TimedPair :=
  if (event = .tick → timed.nextTick ≤ timed.now) ∧
      (event = .elapsed → timed.pongDeadline ≤ timed.now) then
    (timed.pair.step (.inl event)).map fun pair =>
      match event with
      | .tick =>
          { timed with
            pair := pair
            nextTick := timed.nextTick + connectionKeepaliveInterval
            pingAt := timed.now }
      | .flushed =>
          { timed with
            pair := pair
            pongDeadline := timed.now + connectionKeepaliveReadTimeout }
      | _ => { timed with pair := pair }
  else
    none

def serverStep (timed : TimedPair) (event : Event) : Option TimedPair :=
  if timed.entered = true ∧ (event = .elapsed → timed.lineDeadline ≤ timed.now) then
    (timed.pair.step (.inr event)).map fun pair =>
      match event with
      | .flushed => { timed with pair := pair }.startLine
      | _ => { timed with pair := pair }
  else
    none

def step (timed : TimedPair) : Label → Option TimedPair
  | .delay duration =>
      -- A tick that is due comes before any more time passes.
      if timed.waiting ∧ timed.nextTick < timed.now + duration then none
      else some { timed with now := timed.now + duration }
  | .enter => if timed.entered then none else some { timed with entered := true }.startLine
  | .client event => timed.clientStep event
  | .server event => timed.serverStep event

def outstanding (timed : TimedPair) : Bool :=
  match timed.pair.left.phase with
  | .writePing _ | .flushPing | .readPong _ => true
  | _ => false

/-- The round trip that is under way has taken less than the client's timeout. -/
def RoundTripShort (timed : TimedPair) : Prop :=
  timed.outstanding = true →
    timed.now < timed.pingAt + connectionKeepaliveReadTimeout

instance : DecidablePred RoundTripShort :=
  fun _ => inferInstanceAs (Decidable (_ → _))

def pings (timed : TimedPair) : Nat :=
  match timed.pair.left.phase with
  | .awaitTick => timed.pair.left.pongCount
  | _ => timed.pair.left.pongCount + 1

theorem pings_of_waiting {timed : TimedPair} (waiting : timed.waiting) :
    timed.pings = timed.pair.left.pongCount := by
  rw [TimedPair.waiting] at waiting
  rw [pings, waiting]

theorem pings_of_not_waiting {timed : TimedPair} (busy : ¬ timed.waiting) :
    timed.pings = timed.pair.left.pongCount + 1 := by
  rw [TimedPair.waiting] at busy
  unfold pings
  split
  · rename_i phase
    exact absurd phase busy
  · rfl

theorem interval_eq : connectionKeepaliveInterval = 30000 := rfl

theorem readTimeout_eq : connectionKeepaliveReadTimeout = 30000 := rfl

variable {timed next : TimedPair} {event : Event}

theorem clientStep_eq_some (taken : timed.clientStep event = some next) :
    timed.pair.step (.inl event) = some next.pair ∧
      (event = .tick → timed.nextTick ≤ timed.now) ∧
      (event = .elapsed → timed.pongDeadline ≤ timed.now) ∧
      next.now = timed.now ∧ next.entered = timed.entered ∧
      next.lineDeadline = timed.lineDeadline ∧
      next.nextTick = (if event = .tick then
        timed.nextTick + connectionKeepaliveInterval else timed.nextTick) ∧
      next.pingAt = (if event = .tick then timed.now else timed.pingAt) ∧
      next.pongDeadline = (if event = .flushed then
        timed.now + connectionKeepaliveReadTimeout else timed.pongDeadline) := by
  unfold clientStep at taken
  split at taken
  · rename_i due
    obtain ⟨pair, moved, rfl⟩ := Option.map_eq_some_iff.mp taken
    refine ⟨?_, due.1, due.2, ?_⟩
    · rw [moved]
      cases event <;> rfl
    · cases event <;> exact ⟨rfl, rfl, rfl, rfl, rfl, rfl⟩
  · cases taken

theorem serverStep_eq_some (taken : timed.serverStep event = some next) :
    timed.pair.step (.inr event) = some next.pair ∧ timed.entered = true ∧
      (event = .elapsed → timed.lineDeadline ≤ timed.now) ∧
      next.now = timed.now ∧ next.entered = timed.entered ∧
      next.nextTick = timed.nextTick ∧ next.pingAt = timed.pingAt ∧
      next.pongDeadline = timed.pongDeadline ∧
      next.lineDeadline = (if event = .flushed then timed.now +
          (connectionKeepaliveInterval + connectionKeepaliveReadTimeout)
        else timed.lineDeadline) := by
  unfold serverStep at taken
  split at taken
  · rename_i due
    obtain ⟨pair, moved, rfl⟩ := Option.map_eq_some_iff.mp taken
    refine ⟨?_, due.1, due.2, ?_⟩
    · rw [moved]
      cases event <;> rfl
    · cases event <;> exact ⟨rfl, rfl, rfl, rfl, rfl, rfl⟩
  · cases taken

/-- The server's deadline for a line leaves room for a whole round trip once the
PING for that line is on its way, and for an interval more until then. -/
structure Timely (timed : TimedPair) : Prop where
  lockstep : timed.pair.Lockstep
  past : timed.pingAt ≤ timed.now
  tick : timed.nextTick ≤ timed.pingAt + connectionKeepaliveInterval
  idle : timed.waiting → timed.now ≤ timed.pingAt + connectionKeepaliveInterval
  pong : ∀ responseBuf, timed.pair.left.phase = .readPong responseBuf →
    timed.pingAt + connectionKeepaliveReadTimeout ≤ timed.pongDeadline
  clientOpen : timed.pair.left.phase ≠ .returned .timedOut
  gone : ∀ exit, timed.pair.left.phase = .returned exit →
    ∃ exit, timed.pair.right = .returned exit
  line : timed.entered = true → ∀ buf, timed.pair.right = .readLine buf →
    timed.pingAt + connectionKeepaliveReadTimeout ≤ timed.lineDeadline ∧
      (timed.pair.toLeft.sent.length = timed.pings * 5 →
        timed.pingAt + (connectionKeepaliveInterval + connectionKeepaliveReadTimeout) ≤
          timed.lineDeadline)
  serverOpen : timed.pair.right ≠ .returned .timedOut

namespace Timely

theorem start : Timely {} where
  lockstep := KeepalivePair.Lockstep.start
  past := Nat.le_refl _
  tick := Nat.zero_le _
  idle := fun _ => Nat.zero_le _
  pong := fun _ ended => by cases ended
  clientOpen := fun ended => by cases ended
  gone := fun _ ended => by cases ended
  line := fun entered => by cases entered
  serverOpen := fun ended => by cases ended

theorem pongInTime (holds : Timely timed) (short : timed.RoundTripShort)
    {responseBuf : Bytes} (phase : timed.pair.left.phase = .readPong responseBuf) :
    timed.now < timed.pongDeadline := by
  have before := short (by simp [outstanding, phase])
  exact before.trans_le (holds.pong responseBuf phase)

theorem lineInTime (holds : Timely timed) (short : timed.RoundTripShort)
    (entered : timed.entered = true) {buf : Bytes}
    (state : timed.pair.right = .readLine buf) : timed.now < timed.lineDeadline := by
  obtain ⟨round, idle⟩ := holds.line entered buf state
  cases phase : timed.pair.left.phase with
  | awaitTick =>
      have before := holds.idle phase
      have answered := holds.lockstep.answered phase
      have after := idle (by rw [answered, pings_of_waiting phase])
      rw [interval_eq] at before
      rw [interval_eq, readTimeout_eq] at after
      omega
  | returned exit =>
      obtain ⟨_, ended⟩ := holds.gone exit phase
      rw [state] at ended
      cases ended
  | _ => exact (short (by simp [outstanding, phase])).trans_le round

private theorem gone_client (holds : Timely timed)
    (moved : timed.pair.step (.inl event) = some next.pair) {exit : KeepaliveClient.Exit}
    (cause : timed.pair.left.Cause event exit)
    (ended : next.pair.left.phase = .returned exit) (inTime : exit ≠ .timedOut) :
    ∃ exit, timed.pair.right = .returned exit := by
  have gone : ControlChannelLoop.party.gone timed.pair.right = true := by
    have transferred := Duplex.step_inl_transfer moved rfl
    cases exit with
    | sendFailed | flushFailed | readFailed | closed =>
        rw [cause.2] at transferred
        exact transfer_cut rfl transferred
    | unexpected response =>
        exact absurd ended ((holds.lockstep.step moved).clientExpected response)
    | timedOut => exact absurd rfl inTime
  cases state : timed.pair.right with
  | returned exit => exact ⟨exit, rfl⟩
  | _ => simp [state, ControlChannelLoop.party] at gone

private theorem line_client (holds : Timely timed) (other : event ≠ .tick)
    (taken : timed.clientStep event = some next) (pings : next.pings = timed.pings) :
    next.entered = true → ∀ buf, next.pair.right = .readLine buf →
      next.pingAt + connectionKeepaliveReadTimeout ≤ next.lineDeadline ∧
        (next.pair.toLeft.sent.length = next.pings * 5 →
          next.pingAt + (connectionKeepaliveInterval + connectionKeepaliveReadTimeout) ≤
            next.lineDeadline) := by
  obtain ⟨moved, _, _, _, entered, lineDeadline, _, pingAt, _⟩ :=
    clientStep_eq_some taken
  obtain ⟨_, right, _, sent, _, _⟩ := Duplex.step_inl_eq_some moved
  rw [if_neg other] at pingAt
  rw [entered, right, sent, lineDeadline, pingAt, pings]
  exact holds.line

theorem client (holds : Timely timed) (short : timed.RoundTripShort)
    (taken : timed.clientStep event = some next) : Timely next := by
  obtain ⟨moved, due, elapsed, now, entered, lineDeadline, nextTick, pingAt,
    pongDeadline⟩ := clientStep_eq_some taken
  obtain ⟨resumed, right, _, sent, _, _⟩ := Duplex.step_inl_eq_some moved
  have lockstep := holds.lockstep.step moved
  have past := holds.past
  have tick := holds.tick
  have serverOpen := right ▸ holds.serverOpen
  rcases KeepaliveClient.step_cases resumed with
    ⟨waiting, rfl, after⟩ | ⟨⟨rest, phase⟩, ⟨bytes, rfl⟩, after⟩ | ⟨phase, rfl, after⟩ |
    ⟨responseBuf, phase, ⟨bytes, rfl, after⟩ | ⟨heard, unread, after⟩⟩ |
    ⟨exit, cause, after⟩
  · -- The tick: an interval of the line deadline is spent, a round trip is left.
    have idle := holds.idle waiting
    have answered := holds.lockstep.answered waiting
    have due := due rfl
    rw [if_pos rfl] at nextTick pingAt
    have busy : ¬ next.waiting := by simp [TimedPair.waiting, after]
    refine ⟨lockstep, by omega, by omega, fun waiting => absurd waiting busy,
      by simp [after], by simp [after], by simp [after], ?_, serverOpen⟩
    intro inside buf state
    rw [entered] at inside
    rw [right] at state
    obtain ⟨_, long⟩ := holds.line inside buf state
    have long := long (by rw [answered, pings_of_waiting waiting])
    rw [pings_of_not_waiting busy, sent, answered, after, lineDeadline, pingAt]
    refine ⟨by omega, fun impossible => ?_⟩
    simp only at impossible
    omega
  · have busy : ¬ timed.waiting := by simp [TimedPair.waiting, phase]
    have still : ¬ next.waiting ∧ next.pair.left.pongCount = timed.pair.left.pongCount := by
      rcases after with ⟨rest, after⟩ | after <;> simp [TimedPair.waiting, after]
    have unread : ∀ responseBuf, next.pair.left.phase ≠ .readPong responseBuf := by
      rcases after with ⟨rest, after⟩ | after <;> simp [after]
    have running : ∀ exit, next.pair.left.phase ≠ .returned exit := by
      rcases after with ⟨rest, after⟩ | after <;> simp [after]
    rw [if_neg Event.noConfusion] at nextTick pingAt
    refine ⟨lockstep, by omega, by omega, fun waiting => absurd waiting still.1,
      fun buf reading => absurd reading (unread buf), running _,
      fun exit ended => absurd ended (running exit), ?_, serverOpen⟩
    apply holds.line_client Event.noConfusion taken
    rw [pings_of_not_waiting busy, pings_of_not_waiting still.1, still.2]
  · have busy : ¬ timed.waiting := by simp [TimedPair.waiting, phase]
    have still : ¬ next.waiting := by simp [TimedPair.waiting, after]
    rw [if_neg Event.noConfusion] at nextTick pingAt
    rw [if_pos rfl] at pongDeadline
    refine ⟨lockstep, by omega, by omega, fun waiting => absurd waiting still,
      fun buf reading => by omega, by simp [after], by simp [after], ?_, serverOpen⟩
    apply holds.line_client Event.noConfusion taken
    rw [pings_of_not_waiting busy, pings_of_not_waiting still, after]
  · have busy : ¬ timed.waiting := by simp [TimedPair.waiting, phase]
    have still : ¬ next.waiting := by simp [TimedPair.waiting, after]
    have pong := holds.pong responseBuf phase
    rw [if_neg Event.noConfusion] at nextTick pingAt pongDeadline
    refine ⟨lockstep, by omega, by omega, fun waiting => absurd waiting still,
      fun buf reading => by omega, by simp [after], by simp [after], ?_, serverOpen⟩
    apply holds.line_client Event.noConfusion taken
    rw [pings_of_not_waiting busy, pings_of_not_waiting still, after]
  · -- The PONG: the round trip took less than an interval.
    have busy : ¬ timed.waiting := by simp [TimedPair.waiting, phase]
    have waiting : next.waiting := by simp [TimedPair.waiting, after]
    have before := short (by simp [outstanding, phase])
    rw [readTimeout_eq] at before
    have other : event ≠ .tick ∧ event ≠ .flushed := by
      rcases heard with rfl | ⟨bytes, rfl⟩ <;> simp
    rw [if_neg other.1] at nextTick pingAt
    refine ⟨lockstep, by omega, by omega, fun _ => by rw [interval_eq]; omega,
      by simp [after], by simp [after], by simp [after], ?_, serverOpen⟩
    apply holds.line_client other.1 taken
    rw [pings_of_not_waiting busy, pings_of_waiting waiting, after]
  · have ended : next.pair.left.phase = .returned exit := by rw [after]
    have inTime : exit ≠ .timedOut := by
      rintro rfl
      obtain ⟨⟨responseBuf, phase⟩, rfl⟩ := cause
      exact absurd (elapsed rfl) (Nat.not_le.mpr (holds.pongInTime short phase))
    obtain ⟨exit', returned⟩ := holds.gone_client moved cause ended inTime
    have notReading : ∀ buf, next.pair.right ≠ .readLine buf := by
      simp [right, returned]
    have other : event ≠ .tick := by
      rintro rfl
      cases exit <;> simp [KeepaliveClient.Cause] at cause
    rw [if_neg other] at nextTick pingAt
    refine ⟨lockstep, by omega, by omega, ?_, by simp [after], ?_,
      fun _ _ => ⟨exit', right.trans returned⟩,
      fun _ buf state => absurd state (notReading buf), serverOpen⟩
    · intro waiting
      rw [TimedPair.waiting, ended] at waiting
      cases waiting
    · rw [ended]
      intro same
      exact inTime (KeepaliveClient.Phase.returned.inj same)

theorem server (holds : Timely timed) (short : timed.RoundTripShort)
    (taken : timed.serverStep event = some next) : Timely next := by
  obtain ⟨moved, entered, elapsed, now, still, nextTick, pingAt, pongDeadline,
    lineDeadline⟩ := serverStep_eq_some taken
  obtain ⟨resumed, left, _, _, _, sent⟩ := Duplex.step_inr_eq_some moved
  have past := holds.past
  have tick := holds.tick
  have pings : next.pings = timed.pings := by
    rw [TimedPair.pings, TimedPair.pings, left]
  have gone : ∀ exit, next.pair.left.phase = .returned exit →
      ∃ exit, next.pair.right = .returned exit := by
    intro exit ended
    rw [left] at ended
    obtain ⟨exit, state⟩ := holds.gone exit ended
    simp [ControlChannelLoop.party, ControlChannelLoop.step, state] at resumed
  have idle : next.waiting →
      next.now ≤ next.pingAt + connectionKeepaliveInterval := by
    rw [TimedPair.waiting, left, now, pingAt]
    exact holds.idle
  have pong : ∀ responseBuf, next.pair.left.phase = .readPong responseBuf →
      next.pingAt + connectionKeepaliveReadTimeout ≤ next.pongDeadline := by
    rw [left, pingAt, pongDeadline]
    exact holds.pong
  refine ⟨holds.lockstep.step moved, by omega, by omega, idle, pong,
    left ▸ holds.clientOpen, gone, ?_, ?_⟩
  · intro _ buf state
    rcases ControlChannelLoop.step_cases resumed with
      ⟨before, reading, ⟨byte, rfl, _⟩ | ⟨_, after⟩⟩ | ⟨_, _, ⟨rest, after⟩ | after⟩ |
      ⟨_, rfl, _⟩ | ⟨exit, _, after⟩
    · have line := holds.line entered before reading
      rw [if_neg Event.noConfusion] at lineDeadline
      rw [sent, pings, pingAt, lineDeadline]
      simpa [Party.output, ControlChannelLoop.party] using line
    · rw [state] at after
      cases after
    · rw [state] at after
      cases after
    · rw [state] at after
      cases after
    · -- The PONG is out and the wait for the next line begins.
      rw [if_pos rfl] at lineDeadline
      rw [pingAt, lineDeadline]
      exact ⟨by omega, fun _ => by omega⟩
    · rw [state] at after
      cases after
  · intro ended
    rw [ended] at resumed
    obtain ⟨⟨buf, state⟩, rfl⟩ := ControlChannelLoop.step_cause resumed
    exact absurd (elapsed rfl) (Nat.not_le.mpr (holds.lineInTime short entered state))

theorem step {label : Label} (holds : Timely timed) (short : timed.RoundTripShort)
    (taken : timed.step label = some next) : Timely next := by
  have past := holds.past
  have tick := holds.tick
  cases label with
  | delay duration =>
      simp only [TimedPair.step] at taken
      split at taken
      · cases taken
      · rename_i allowed
        cases taken
        refine ⟨holds.lockstep, by simp only; omega, holds.tick, ?_, holds.pong,
          holds.clientOpen, holds.gone, holds.line, holds.serverOpen⟩
        intro waiting
        rw [not_and, Nat.not_lt] at allowed
        exact (allowed waiting).trans tick
  | enter =>
      simp only [TimedPair.step] at taken
      split at taken
      · cases taken
      · cases taken
        refine ⟨holds.lockstep, holds.past, holds.tick, holds.idle, holds.pong,
          holds.clientOpen, holds.gone, fun _ _ _ => ?_, holds.serverOpen⟩
        simp only [startLine]
        exact ⟨by omega, fun _ => by omega⟩
  | client event => exact holds.client short taken
  | server event => exact holds.server short taken

end Timely

/-- While every round trip is shorter than the client's timeout, no deadline is
reached, whatever the delays and however many the rounds. -/
theorem no_timeout {labels : List Label} {timed : TimedPair}
    (short : Throughout step RoundTripShort {} labels)
    (ran : run step {} labels = some timed) :
    timed.pair.left.phase ≠ .returned .timedOut ∧
      timed.pair.right ≠ .returned .timedOut ∧
      (∀ responseBuf, timed.pair.left.phase = .readPong responseBuf →
        timed.now < timed.pongDeadline) ∧
      (timed.entered = true → ∀ buf, timed.pair.right = .readLine buf →
        timed.now < timed.lineDeadline) := by
  obtain ⟨short, holds⟩ := run_throughout RoundTripShort Timely
    (fun _ _ _ before _ holds taken => holds.step before taken) Timely.start short ran
  exact ⟨holds.clientOpen, holds.serverOpen,
    fun _ phase => holds.pongInTime short phase,
    fun entered _ state => holds.lineInTime short entered state⟩

def slowRounds : List Label :=
  [.client .tick, .client (.sent (utf8 "PING\n")), .client .flushed, .delay 29000,
    .enter, .server (.received (utf8 "P")), .server (.received (utf8 "I")),
    .server (.received (utf8 "N")), .server (.received (utf8 "G")),
    .server (.received (utf8 "\n")), .server (.sent (utf8 "PONG\n")),
    .server .flushed, .delay 999, .client (.received (utf8 "PONG\n")), .delay 1,
    .client .tick, .client (.sent (utf8 "PING\n")), .client .flushed, .delay 29999,
    .server (.received (utf8 "P"))]

theorem no_timeout_slowRounds :
    ∃ timed, run step {} slowRounds = some timed ∧
      timed.pair.left.phase ≠ .returned .timedOut ∧
      timed.pair.right ≠ .returned .timedOut := by
  have runs : (run step {} slowRounds).isSome = true := by decide +kernel
  obtain ⟨timed, ran⟩ := Option.isSome_iff_exists.mp runs
  obtain ⟨client, server, _, _⟩ := no_timeout (by decide +kernel) ran
  exact ⟨timed, ran, client, server⟩

end TimedPair

end PortRedirect.Protocol
