import PortRedirect.Tunnel.Stranding

namespace PortRedirect.Tunnel

open PortRedirect.Text
open PortRedirect.Forward
open PortRedirect.Protocol
open PortRedirect.Stream
open PortRedirect.Transition

/-! What is sent arrives: the tasks of a session run out of work, and when they have there
is no byte left in the tunnel. -/

namespace TcpForwarder

variable {forwarder other next other' : TcpForwarder}

/-- Without a fault of a TCP connection a task is over only when both its directions are. -/
def Clean (forwarder other : TcpForwarder) : Prop :=
  forwarder.faulted = false → other.faulted = false → forwarder.dropped = true →
    forwarder.Done

theorem forwardStep_faulted {event : CopyEvent}
    (taken : forwarder.forwardStep other event = some (next, other')) :
    next.faulted = forwarder.faulted ∧ other'.faulted = other.faulted := by
  obtain ⟨_, cases⟩ := forwardStep_cases taken
  rcases cases with
    ⟨call, forward, inbound, quicOut, _, _, _, _, ⟨_, rfl⟩ | ⟨_, _, rfl⟩, rfl⟩ |
    ⟨call, forward, quicIn, outbound, _, _, _, _, ⟨_, rfl⟩ | ⟨_, _, rfl⟩, rfl⟩ |
    ⟨forward, _, _, _, _, rfl, rfl⟩
  · exact ⟨rfl, rfl⟩
  · exact ⟨rfl, rfl⟩
  · exact ⟨rfl, rfl⟩
  · exact ⟨rfl, rfl⟩
  · exact ⟨rfl, rfl⟩

theorem unfaulted_step {event : Event}
    (taken : forwarder.step other event = some (next, other')) :
    (next.faulted = false → forwarder.faulted = false) ∧ other'.faulted = other.faulted := by
  rcases step_over taken with ⟨call, stage, called⟩ | ⟨_, rfl, kept, _⟩
  · obtain ⟨own, theirs⟩ := forwardStep_faulted called
    exact ⟨fun sound => own.symm.trans sound, theirs⟩
  · refine ⟨fun sound => ?_, rfl⟩
    cases faulted : forwarder.faulted with
    | false => rfl
    | true =>
        rw [kept faulted] at sound
        cases sound

theorem Clean.step_own {event : Event} (clean : forwarder.Clean other)
    (peer : other.Clean forwarder) (direction : Direction forwarder other)
    (taken : forwarder.step other event = some (next, other')) : next.Clean other' := by
  obtain ⟨own, theirs⟩ := unfaulted_step taken
  intro sound standing gone
  have unfaulted := own sound
  rw [theirs] at standing
  rcases step_over taken with ⟨call, stage, called⟩ | ⟨forward, rfl, _, dropped⟩
  · obtain ⟨live, cases⟩ := forwardStep_cases called
    rcases cases with
      ⟨call, forward, inbound, quicOut, _, _, _, _, ⟨running, rfl⟩ | ⟨done, _, rfl⟩, _⟩ |
      ⟨call, forward, quicIn, outbound, _, _, _, _, ⟨running, rfl⟩ | ⟨done, _, rfl⟩, _⟩ |
      ⟨forward, _, _, _, failed | ⟨_, ended, unfinished⟩, rfl, rfl⟩
    · exact absurd gone (running_of_live stage running)
    · exact done
    · exact absurd gone (running_of_live stage running)
    · exact done
    · cases unfaulted.symm.trans (faulted_of_failed failed)
    · -- the peer has read the end of the stream, which only this task can have written
      have done := peer standing unfaulted ended
      have ended := direction.down.ended (by rw [done.2]; exact TransferStage.noConfusion)
      rcases direction.middle ended.1 with written | early
      · exact absurd written unfinished
      · exact absurd early (running_of_live stage live)
  · rcases dropped with same | ⟨_, refused⟩
    · have done := clean unfaulted standing (same.symm.trans gone)
      unfold Done aToB bToA
      rw [forward]
      exact done
    · cases sound.symm.trans refused

theorem Clean.step_other {event : Event} (clean : other.Clean forwarder)
    (taken : forwarder.step other event = some (next, other')) : other'.Clean next := by
  obtain ⟨own, theirs⟩ := unfaulted_step taken
  obtain ⟨quicOut, rfl, _⟩ := TcpForwarder.step_other taken
  intro sound standing gone
  exact clean sound (own standing) gone

/-- Where no call is due, a call from the QUIC stream to the TCP peer that the pipes allow
is not one that the transfer could take. -/
theorem blocked_bToA_of_quiet {pipes : Pipe × Pipe} (tidy : forwarder.Tidy)
    (live : forwarder.forward.result = none)
    (quiet : ∀ call, due call = true → forwarder.forwardStep other call = none)
    (call : TransferEvent) (sound : call.failed = false)
    (effect : call.effect other.quicOut forwarder.outbound = some pipes) :
    forwarder.bToA.step quicStreamReadBufferSize call = none := by
  have isDue : due (.bToA call) = true := by
    cases call with
    | writeFailed error => cases sound
    | _ => rfl
  have may : forwarder.mayFail other (.bToA call) := by
    cases call with
    | readFailed error | writeFailed error => cases sound
    | _ => trivial
  by_contra taken
  obtain ⟨result, called⟩ := Option.ne_none_iff_exists'.mp taken
  have copied : forwarder.forward.copy.step quicStreamReadBufferSize (.bToA call) ≠ none := by
    unfold CopyBidirectional.step
    rw [if_pos (tidy.copying live)]
    simp only [show forwarder.forward.copy.bToA.step quicStreamReadBufferSize call =
      some result from called, Option.map_some]
    exact Option.some_ne_none _
  obtain ⟨copy, moved⟩ := Option.ne_none_iff_exists'.mp copied
  have blocked := quiet _ isDue
  unfold forwardStep at blocked
  rw [if_pos may] at blocked
  simp [ForwardBidirectional.step, live, moved, effect] at blocked

theorem blocked_aToB_of_quiet {pipes : Pipe × Pipe} (tidy : forwarder.Tidy)
    (live : forwarder.forward.result = none)
    (quiet : ∀ call, due call = true → forwarder.forwardStep other call = none)
    (call : TransferEvent) (sound : call.failed = false)
    (effect : call.effect forwarder.inbound forwarder.quicOut = some pipes) :
    forwarder.aToB.step quicStreamReadBufferSize call = none := by
  apply blocked_of_quiet tidy live quiet call _ _ effect
  · cases call with
    | writeFailed error => cases sound
    | _ => rfl
  · cases call with
    | readFailed error | writeFailed error => cases sound
    | _ => trivial

end TcpForwarder

namespace Direction

variable {source sink : TcpForwarder}

/-- All that was sent has been written to the receiving peer, and the end after it. -/
def Passed (source sink : TcpForwarder) : Prop :=
  sink.outbound.sent = source.inbound.sent ∧
    (source.inbound.finished = true → sink.outbound.finished = true)

theorem passed_up (holds : Direction source sink) (tidy : source.Tidy)
    (clean : source.Clean sink) (standing : source.faulted = false)
    (peer : sink.faulted = false)
    (quiet : ∀ call, TcpForwarder.due call = true → source.forwardStep sink call = none) :
    source.quicOut.sent = source.inbound.sent ∧
      (source.inbound.finished = true → source.quicOut.finished = true) := by
  cases live : source.forward.result with
  | none =>
      exact holds.up.passed_of_blocked (by decide) fun call pipes sound effect =>
        TcpForwarder.blocked_aToB_of_quiet tidy live quiet call sound effect
  | some result =>
      have returned : source.forward.result ≠ none := by
        rw [live]
        exact Option.some_ne_none result
      have done := clean standing peer (TcpForwarder.dropped_of_returned returned)
      exact ⟨(holds.up.complete done.1).2, fun _ => holds.up.closed done.1⟩

theorem passed_down (holds : Direction source sink) (tidy : sink.Tidy)
    (clean : sink.Clean source) (standing : sink.faulted = false)
    (peer : source.faulted = false)
    (quiet : ∀ call, TcpForwarder.due call = true → sink.forwardStep source call = none) :
    sink.outbound.sent = source.quicOut.sent ∧
      (source.quicOut.finished = true → sink.outbound.finished = true) := by
  cases live : sink.forward.result with
  | none =>
      exact holds.down.passed_of_blocked (by decide) fun call pipes sound effect =>
        TcpForwarder.blocked_bToA_of_quiet tidy live quiet call sound effect
  | some result =>
      have returned : sink.forward.result ≠ none := by
        rw [live]
        exact Option.some_ne_none result
      have done := clean standing peer (TcpForwarder.dropped_of_returned returned)
      exact ⟨(holds.down.complete done.2).2, fun _ => holds.down.closed done.2⟩

/-- What is left to do with what is on the way. -/
def work (source sink : TcpForwarder) : Nat :=
  source.aToB.work 2 source.inbound source.quicOut +
    (sink.bToA.buffer.length + sink.bToA.stage.left)

/-- The bytes in the stream are the second task's work as well. -/
theorem work_eq (source sink : TcpForwarder) :
    work source sink = 4 * source.inbound.pending.length + 3 * source.aToB.buffer.length +
      source.aToB.stage.left + sink.bToA.work 0 source.quicOut sink.outbound := by
  simp only [work, Transfer.work]
  omega

end Direction

namespace TcpForwarder

variable {forwarder other next other' : TcpForwarder}

def live (forwarder : TcpForwarder) : Nat :=
  if forwarder.forward.result = none then 1 else 0

theorem live_le (forwarder : TcpForwarder) : forwarder.live ≤ 1 := by
  unfold live
  split <;> omega

/-- A call leaves less to do, or its task returns by it. -/
theorem forwardStep_work {call : CopyEvent}
    (taken : forwarder.forwardStep other call = some (next, other')) :
    Direction.work next other' + Direction.work other' next + next.live + other'.live <
      Direction.work forwarder other + Direction.work other forwarder + forwarder.live +
        other.live := by
  obtain ⟨live, cases⟩ := forwardStep_cases taken
  have before : forwarder.live = 1 := if_pos live
  have after := next.live_le
  rcases cases with
    ⟨call, forward, inbound, quicOut, _, called, same, effect, resumes, rfl⟩ |
    ⟨call, forward, quicIn, outbound, _, called, same, effect, resumes, rfl⟩ |
    ⟨forward, sameA, sameB, returned, _, rfl, rfl⟩
  · have less := Transfer.work_step 2 called effect
    have up : next.aToB.work 2 next.inbound next.quicOut =
        forward.copy.aToB.work 2 inbound quicOut := by
      rcases resumes with ⟨_, rfl⟩ | ⟨_, _, rfl⟩ <;> rfl
    have down : next.bToA = forwarder.bToA := by
      rcases resumes with ⟨_, rfl⟩ | ⟨_, _, rfl⟩
      · exact same
      · exact same
    simp only [Direction.work, up, down]
    omega
  · have less := Transfer.work_step 0 called effect
    have up : next.aToB = forwarder.aToB := by
      rcases resumes with ⟨_, rfl⟩ | ⟨_, _, rfl⟩
      · exact same
      · exact same
    have inbound : next.inbound = forwarder.inbound := by
      rcases resumes with ⟨_, rfl⟩ | ⟨_, _, rfl⟩ <;> rfl
    have quicOut : next.quicOut.pending = forwarder.quicOut.pending := by
      rcases resumes with ⟨_, rfl⟩ | ⟨_, _, rfl⟩ <;> rfl
    have kept : Direction.work next { other with quicOut := quicIn } =
        Direction.work forwarder other := by
      simp only [Direction.work, Transfer.work, up, inbound, quicOut]
      rfl
    have down : next.bToA.work 0 quicIn next.outbound =
        forward.copy.bToA.work 0 quicIn outbound := by
      rcases resumes with ⟨_, rfl⟩ | ⟨_, _, rfl⟩
      · rfl
      · simp only [Transfer.work, drop]
        rw [Nat.zero_mul, Nat.zero_mul]
        rfl
    have moved : Direction.work { other with quicOut := quicIn } next =
        4 * other.inbound.pending.length + 3 * other.aToB.buffer.length +
          other.aToB.stage.left + forward.copy.bToA.work 0 quicIn outbound := by
      rw [Direction.work_eq, ← down]
      rfl
    have same : TcpForwarder.live { other with quicOut := quicIn } = other.live := rfl
    rw [kept, moved, Direction.work_eq other forwarder, same]
    omega
  · have ended : (drop { forwarder with forward := forward }).live = 0 := if_neg returned
    have kept : Direction.work (drop { forwarder with forward := forward }) other' =
          Direction.work forwarder other' ∧
        Direction.work other' (drop { forwarder with forward := forward }) =
          Direction.work other' forwarder := by
      constructor
      · simp only [Direction.work, Transfer.work, aToB, drop, sameA]
        rfl
      · simp only [Direction.work, Transfer.work, bToA, drop, sameB]
    rw [kept.1, kept.2, ended, before]
    omega

end TcpForwarder

namespace ForwardedConnection

variable {stream next : ForwardedConnection}

/-- What holds of a stream that is needed to know what its tasks have done. -/
structure Flowing (stream : ForwardedConnection) : Prop extends Kept stream where
  clientTidy : stream.client.Tidy
  serverClean : stream.server.Clean stream.client
  clientClean : stream.client.Clean stream.server

theorem flowing_start : Flowing {} where
  toKept := kept_start
  clientTidy :=
    { closed := fun gone => by cases gone
      copying := fun _ => rfl }
  serverClean := fun _ _ gone => by cases gone
  clientClean := fun _ _ gone => by cases gone

theorem flowing_step {event : Event} (holds : stream.Flowing)
    (taken : stream.step event = some next) : next.Flowing := by
  have kept := kept_step holds.toKept taken
  cases event with
  | server event =>
      obtain ⟨⟨self, other⟩, moved, rfl⟩ := Option.map_eq_some_iff.mp taken
      have clientClean := holds.clientClean.step_other moved
      have serverClean := holds.serverClean.step_own holds.clientClean holds.sound.toClient
        moved
      obtain ⟨quicOut, rfl, finished⟩ := TcpForwarder.step_other moved
      exact ⟨kept, ⟨fun gone => finished.trans (holds.clientTidy.closed gone),
        holds.clientTidy.copying⟩, serverClean, clientClean⟩
  | client event =>
      obtain ⟨⟨self, other⟩, moved, rfl⟩ := Option.map_eq_some_iff.mp taken
      exact ⟨kept, holds.clientTidy.step_own moved, holds.serverClean.step_other moved,
        holds.clientClean.step_own holds.serverClean holds.sound.toServer moved⟩

/-- Both TCP connections of the stream stand. -/
def Standing (stream : ForwardedConnection) : Prop :=
  stream.client.stage = .forwarding ∧ stream.server.failed = false ∧
    stream.client.failed = false

theorem Flowing.unfaulted (holds : stream.Flowing) (standing : stream.Standing) :
    stream.server.faulted = false ∧ stream.client.faulted = false := by
  obtain ⟨connected, server, client⟩ := standing
  simp [TcpForwarder.faulted, holds.standing, connected, server, client]

theorem Flowing.passed (holds : stream.Flowing) (standing : stream.Standing)
    (server : ∀ call, TcpForwarder.due call = true →
      stream.server.forwardStep stream.client call = none)
    (client : ∀ call, TcpForwarder.due call = true →
      stream.client.forwardStep stream.server call = none) :
    Direction.Passed stream.server stream.client ∧
      Direction.Passed stream.client stream.server := by
  obtain ⟨here, there⟩ := holds.unfaulted standing
  have upOut := holds.sound.toClient.passed_up holds.tidy holds.serverClean here there server
  have downOut := holds.sound.toClient.passed_down holds.clientTidy holds.clientClean there
    here client
  have upBack := holds.sound.toServer.passed_up holds.clientTidy holds.clientClean there here
    client
  have downBack := holds.sound.toServer.passed_down holds.tidy holds.serverClean here there
    server
  exact ⟨⟨downOut.1.trans upOut.1, fun ended => downOut.2 (upOut.2 ended)⟩,
    downBack.1.trans upBack.1, fun ended => downBack.2 (upBack.2 ended)⟩

/-- How many steps the two tasks can still take by themselves. -/
def work (stream : ForwardedConnection) : Nat :=
  Direction.work stream.server stream.client + Direction.work stream.client stream.server +
    stream.server.live + stream.client.live +
    if stream.client.stage = .unaccepted then 1 else 0

theorem work_server {call : CopyEvent}
    (taken : stream.step (.server (.forward call)) = some next) : next.work < stream.work := by
  obtain ⟨⟨self, other⟩, moved, rfl⟩ := Option.map_eq_some_iff.mp taken
  simp only [TcpForwarder.step] at moved
  split at moved
  · have less := TcpForwarder.forwardStep_work moved
    obtain ⟨_, _, quicOut, rfl, _⟩ := TcpForwarder.forwardStep_over ‹_› moved
    simp only [work]
    omega
  · cases moved

theorem work_client {call : CopyEvent}
    (taken : stream.step (.client (.forward call)) = some next) : next.work < stream.work := by
  obtain ⟨⟨self, other⟩, moved, rfl⟩ := Option.map_eq_some_iff.mp taken
  have stages := TcpForwarder.step_stage moved
  simp only [TcpForwarder.step] at moved
  split at moved
  · rename_i stage
    have less := TcpForwarder.forwardStep_work moved
    have same : self.stage = .forwarding := by
      rcases stages with kept | ⟨impossible, _⟩ | ⟨before, _⟩
      · exact kept.trans stage
      · cases impossible
      · cases before.symm.trans stage
    simp only [work, stage, same, reduceCtorEq, if_false]
    omega
  · cases moved

theorem work_accepted (taken : stream.step (.client .accepted) = some next) :
    next.work < stream.work := by
  obtain ⟨⟨self, other⟩, moved, rfl⟩ := Option.map_eq_some_iff.mp taken
  simp only [TcpForwarder.step] at moved
  split at moved
  · rename_i unaccepted
    cases moved
    have left : stream.work = Direction.work stream.server stream.client +
        Direction.work stream.client stream.server + stream.server.live +
        stream.client.live + 1 := by
      simp only [work, unaccepted, if_true]
    rw [left]
    exact Nat.lt_succ_self _
  · cases moved

end ForwardedConnection

namespace TunnelSession

variable {session next final : TunnelSession}

def work (session : TunnelSession) : Nat :=
  (session.streams.map ForwardedConnection.work).sum

/-- A step of one of the two programs' tasks, due or not: the calls that fail included. -/
def Event.ofTask : Event → Bool
  | .accept | .stream _ (.server (.forward _)) | .stream _ (.client (.forward _)) => true
  | _ => false

/-- What begins true of a stream and its steps keep, a session's steps keep of every
stream. -/
theorem forall_streams_step (invariant : ForwardedConnection → Prop) (start : invariant {})
    (preserved : ∀ (stream : ForwardedConnection) (event : ForwardedConnection.Event)
      (next : ForwardedConnection), invariant stream → stream.step event = some next →
        invariant next)
    {event : Event} (holds : ∀ stream ∈ session.streams, invariant stream)
    (taken : session.step event = some next) : ∀ stream ∈ next.streams, invariant stream := by
  cases event with
  | listener event =>
      obtain ⟨listener, _, rfl⟩ := Option.map_eq_some_iff.mp taken
      intro stream member
      rcases List.mem_append.mp member with before | new
      · exact holds stream before
      · cases event with
        | opened =>
            cases List.mem_singleton.mp new
            exact start
        | _ => cases new
  | accept =>
      simp only [step] at taken
      split at taken
      · obtain ⟨streams, moved, rfl⟩ := Option.map_eq_some_iff.mp taken
        exact forall_stepAt invariant preserved holds moved
      · cases taken
  | stream index event =>
      simp only [step] at taken
      split at taken
      · cases taken
      · obtain ⟨streams, moved, rfl⟩ := Option.map_eq_some_iff.mp taken
        exact forall_stepAt invariant preserved holds moved

theorem forall_streams (invariant : ForwardedConnection → Prop) (start : invariant {})
    (preserved : ∀ (stream : ForwardedConnection) (event : ForwardedConnection.Event)
      (next : ForwardedConnection), invariant stream → stream.step event = some next →
        invariant next)
    {port : UInt16} {events : List Event}
    (ran : run step { listener := { port := port } } events = some session) :
    ∀ stream ∈ session.streams, invariant stream := by
  refine run_invariant (fun session : TunnelSession =>
    ∀ stream ∈ session.streams, invariant stream) ?_ ?_ ran
  · exact fun _ _ _ holds taken => forall_streams_step invariant start preserved holds taken
  · exact fun stream member => absurd member List.not_mem_nil

theorem work_stepAt {streams : List ForwardedConnection} {index : Nat}
    {event : ForwardedConnection.Event}
    (moved : stepAt ForwardedConnection.step session.streams index event = some streams)
    (less : ∀ stream next : ForwardedConnection, stream.step event = some next →
      next.work < stream.work) :
    (streams.map ForwardedConnection.work).sum < session.work := by
  obtain ⟨stream, stream', _, taken, total⟩ := sum_stepAt ForwardedConnection.work moved
  have fewer := less stream stream' taken
  unfold work
  omega

theorem work_step {event : Event} (own : event.ofTask = true)
    (taken : session.step event = some next) : next.work < session.work := by
  cases event with
  | listener event => cases own
  | accept =>
      simp only [step] at taken
      split at taken
      · obtain ⟨streams, moved, rfl⟩ := Option.map_eq_some_iff.mp taken
        exact work_stepAt moved fun _ _ => ForwardedConnection.work_accepted
      · cases taken
  | stream index event =>
      simp only [step] at taken
      split at taken
      · cases taken
      · obtain ⟨streams, moved, rfl⟩ := Option.map_eq_some_iff.mp taken
        cases event with
        | server event =>
            cases event with
            | forward call => exact work_stepAt moved fun _ _ => ForwardedConnection.work_server
            | _ => cases own
        | client event =>
            cases event with
            | forward call => exact work_stepAt moved fun _ _ => ForwardedConnection.work_client
            | _ => cases own

theorem quiescent_of_both_atRest
    (unheard : (session.streams.drop session.accepted).any
      ForwardedConnection.visible = false)
    (server : ∀ stream ∈ session.streams, stream.server.AtRest stream.client)
    (client : ∀ stream ∈ session.streams, stream.client.AtRest stream.server) :
    session.Quiescent := by
  intro event isDue
  cases event with
  | listener event => cases isDue
  | accept => simp [step, unheard]
  | stream index event =>
      by_contra enabled
      obtain ⟨next, taken⟩ := Option.ne_none_iff_exists'.mp enabled
      simp only [step] at taken
      split at taken
      · cases taken
      · obtain ⟨streams, moved, _⟩ := Option.map_eq_some_iff.mp taken
        obtain ⟨stream, stream', found, resumed, _⟩ := stepAt_eq_some.mp moved
        have member := List.mem_of_getElem? found
        cases event with
        | server event =>
            cases event with
            | forward call =>
                simp [ForwardedConnection.step, TcpForwarder.step,
                  (server stream member).forwardStep_eq_none isDue] at resumed
            | _ => cases isDue
        | client event =>
            cases event with
            | forward call =>
                simp [ForwardedConnection.step, TcpForwarder.step,
                  (client stream member).forwardStep_eq_none isDue] at resumed
            | _ => cases isDue

def oneByteIn : List Event :=
  [.listener (.localAddr true), .listener .accepted, .listener .opened,
    .stream 0 (.server (.peerSends [7])),
    .stream 0 (.server (.forward (.aToB (.read [7])))),
    .stream 0 (.server (.forward (.aToB (.wrote [7])))), .accept,
    .stream 0 (.client .connected)]

def oneByteOut : List Event :=
  [.stream 0 (.client (.forward (.bToA (.read [7])))),
    .stream 0 (.client (.forward (.bToA (.wrote [7]))))]

/-- The destination's connection has failed before the byte is written. -/
def oneByteLost : List Event :=
  [.stream 0 (.client (.forward (.bToA (.read [7])))),
    .stream 0 (.client (.forward (.bToA
      (.writeFailed "Connection reset by peer (os error 104)"))))]

def afterOneByte : ForwardedConnection where
  server :=
    { stage := .forwarding
      inbound := { delivered := [7] }
      forward :=
        { copy := { aToB := { amount := 1 } }, streamACounter := 0, streamBCounter := 0 }
      quicOut := { delivered := [7] } }
  client :=
    { stage := .forwarding
      outbound := { pending := [7] }
      forward :=
        { copy := { bToA := { amount := 1 } }, streamACounter := 0, streamBCounter := 0 } }

end TunnelSession

end PortRedirect.Tunnel
