import Mathlib.Algebra.Order.BigOperators.Group.List
import PortRedirect.Tunnel.Delivery

namespace PortRedirect

open PortRedirect.Stream
open PortRedirect.Transition

/-! The byte counters of the two programs, over the connections of one session. -/

namespace Forward.ForwardBidirectional

variable {forward next : ForwardBidirectional} {event : CopyEvent}

/-- What a call does to the counters: nothing, unless the copy ends by it without an
error. -/
theorem step_counters (taken : forward.step event = some next) :
    (next.result ≠ none ∧
      (next.copy.aToB.stage = .done ∧ next.copy.bToA.stage = .done) ∧
      next.streamACounter = forward.streamACounter + next.copy.aToB.amount ∧
      next.streamBCounter = forward.streamBCounter + next.copy.bToA.amount) ∨
    (¬ (next.copy.aToB.stage = .done ∧ next.copy.bToA.stage = .done) ∨
      next.copy.aToB = forward.copy.aToB ∧ next.copy.bToA = forward.copy.bToA) ∧
      next.streamACounter = forward.streamACounter ∧
      next.streamBCounter = forward.streamBCounter := by
  obtain ⟨live, copy, moved, outcome⟩ := step_eq_some taken
  obtain ⟨idle, cases⟩ := CopyBidirectional.step_cases moved
  have settled (before : CopyBidirectional) (idle : before.result = none)
      (same : copy = before.settle) :
      (next.result ≠ none ∧
        (next.copy.aToB.stage = .done ∧ next.copy.bToA.stage = .done) ∧
        next.streamACounter = forward.streamACounter + next.copy.aToB.amount ∧
        next.streamBCounter = forward.streamBCounter + next.copy.bToA.amount) ∨
      ¬ (next.copy.aToB.stage = .done ∧ next.copy.bToA.stage = .done) ∧
        next.streamACounter = forward.streamACounter ∧
        next.streamBCounter = forward.streamBCounter := by
    have aToB : copy.aToB = before.aToB := by rw [same, CopyBidirectional.settle_aToB]
    have bToA : copy.bToA = before.bToA := by rw [same, CopyBidirectional.settle_bToA]
    rcases CopyBidirectional.settle_result idle with ⟨busy, unfinished⟩ | ⟨ended, done⟩
    · rw [← same] at busy
      rw [← aToB, ← bToA] at unfinished
      rcases outcome with ⟨_, rfl⟩ | ⟨copied, ended, _⟩
      · exact .inr ⟨unfinished, rfl, rfl⟩
      · cases busy.symm.trans ended
    · rw [← same, ← aToB, ← bToA] at ended
      rw [← aToB, ← bToA] at done
      rcases outcome with ⟨busy, _⟩ | ⟨copied, reported, rfl⟩
      · cases busy.symm.trans ended
      · cases reported.symm.trans ended
        exact .inl ⟨afterCopy_returned _ _, done, rfl, rfl⟩
  rcases cases with ⟨call, transfer, _, _, same⟩ | ⟨call, transfer, _, _, same⟩ |
    ⟨call, error, _, same⟩
  · exact (settled { forward.copy with aToB := transfer } idle same).imp_right
      (And.imp_left .inl)
  · exact (settled { forward.copy with bToA := transfer } idle same).imp_right
      (And.imp_left .inl)
  · right
    rcases outcome with ⟨busy, _⟩ | ⟨copied, reported, rfl⟩
    · rw [same] at busy
      cases busy
    · rw [same] at reported
      cases reported
      refine ⟨.inr ⟨?_, ?_⟩, afterCopy_error { forward with copy := copy } error⟩
      · rw [afterCopy_copy, same]
      · rw [afterCopy_copy, same]

end Forward.ForwardBidirectional

namespace Tunnel

open PortRedirect.Forward

namespace TcpForwarder

variable {forwarder other next other' : TcpForwarder}

/-- The counters of a task tell what it has written on both sides when both directions
were copied to their ends, and nothing before that or otherwise. -/
structure Metered (forwarder : TcpForwarder) : Prop where
  amountA : forwarder.aToB.amount = forwarder.quicOut.sent.length
  amountB : forwarder.bToA.amount = forwarder.outbound.sent.length
  unfinished : forwarder.forward.result = none → ¬ forwarder.Done
  counted : (forwarder.Done ∧
      forwarder.forward.streamACounter = forwarder.aToB.amount ∧
      forwarder.forward.streamBCounter = forwarder.bToA.amount) ∨
    ¬ forwarder.Done ∧ forwarder.forward.streamACounter = 0 ∧
      forwarder.forward.streamBCounter = 0

theorem metered_start (stage : Stage) : Metered { stage := stage } where
  amountA := rfl
  amountB := rfl
  unfinished := fun _ done => TransferStage.noConfusion done.1
  counted := .inr ⟨fun done => TransferStage.noConfusion done.1, rfl, rfl⟩

theorem sent_drop (forwarder : TcpForwarder) :
    forwarder.drop.quicOut.sent = forwarder.quicOut.sent ∧
      forwarder.drop.outbound.sent = forwarder.outbound.sent := by
  refine ⟨rfl, ?_⟩
  unfold drop
  cases forwarder.failed <;> rfl

theorem Resumes.kept {moved : TcpForwarder} (resumes : moved.Resumes next) :
    next.forward = moved.forward ∧ next.quicOut.sent = moved.quicOut.sent ∧
      next.outbound.sent = moved.outbound.sent := by
  rcases resumes with ⟨_, rfl⟩ | ⟨_, _, rfl⟩
  · exact ⟨rfl, rfl, rfl⟩
  · exact ⟨rfl, moved.sent_drop⟩

/-- What a call has written, a task's amounts have grown by. -/
theorem forwardStep_amounts {call : CopyEvent} (holds : forwarder.Metered)
    (taken : forwarder.forwardStep other call = some (next, other')) :
    next.aToB.amount = next.quicOut.sent.length ∧
      next.bToA.amount = next.outbound.sent.length := by
  obtain ⟨_, cases⟩ := forwardStep_cases taken
  rcases cases with
    ⟨call, forward, inbound, quicOut, _, called, same, effect, resumes, _⟩ |
    ⟨call, forward, quicIn, outbound, _, called, same, effect, resumes, _⟩ |
    ⟨forward, sameA, sameB, _, _, rfl, _⟩
  · obtain ⟨kept, quic, tcp⟩ := resumes.kept
    obtain ⟨_, amount, _⟩ := Transfer.step_ok called
    unfold aToB bToA
    rw [kept, quic, tcp]
    constructor
    · rw [amount, holds.amountA, TransferEvent.effect_target effect, List.length_append]
    · rw [same, holds.amountB]
  · obtain ⟨kept, quic, tcp⟩ := resumes.kept
    obtain ⟨_, amount, _⟩ := Transfer.step_ok called
    unfold aToB bToA
    rw [kept, quic, tcp]
    constructor
    · rw [same, holds.amountA]
    · rw [amount, holds.amountB, TransferEvent.effect_target effect, List.length_append]
  · obtain ⟨quic, tcp⟩ := sent_drop { forwarder with forward := forward }
    rw [quic, tcp]
    constructor
    · exact (congrArg Transfer.amount sameA).trans holds.amountA
    · exact (congrArg Transfer.amount sameB).trans holds.amountB

theorem Metered.forwardStep {call : CopyEvent} (holds : forwarder.Metered)
    (taken : forwarder.forwardStep other call = some (next, other')) : next.Metered := by
  obtain ⟨amountA, amountB⟩ := forwardStep_amounts holds taken
  obtain ⟨live, _⟩ := forwardStep_cases taken
  have idle := holds.unfinished live
  obtain ⟨_, noneA, noneB⟩ := holds.counted.resolve_left fun counted => idle counted.1
  rcases ForwardBidirectional.step_counters (forwardStep_forward taken) with
    ⟨returned, done, countedA, countedB⟩ | ⟨unfinished, countedA, countedB⟩
  · rw [noneA, Nat.zero_add] at countedA
    rw [noneB, Nat.zero_add] at countedB
    exact ⟨amountA, amountB, fun running => absurd running returned,
      .inl ⟨done, countedA, countedB⟩⟩
  · have still : ¬ next.Done := by
      rcases unfinished with unfinished | ⟨sameA, sameB⟩
      · exact unfinished
      · unfold Done aToB bToA
        rw [sameA, sameB]
        exact idle
    exact ⟨amountA, amountB, fun _ => still,
      .inr ⟨still, countedA.trans noneA, countedB.trans noneB⟩⟩

theorem Metered.step_own {event : Event} (holds : forwarder.Metered)
    (taken : forwarder.step other event = some (next, other')) : next.Metered := by
  obtain ⟨amountA, amountB, unfinished, counted⟩ := holds
  rcases step_cases taken with ⟨call, _, _, called⟩ | ⟨rfl,
    ⟨bytes, _, _, rfl⟩ | ⟨_, rfl⟩ | ⟨bytes, outbound, _, handed, rfl⟩ | ⟨_, _, rfl⟩ |
      ⟨_, rfl⟩ | ⟨_, _, rfl⟩ | ⟨_, _, rfl⟩ | ⟨reason, _, _, rfl⟩⟩
  · exact Metered.forwardStep ⟨amountA, amountB, unfinished, counted⟩ called
  · exact ⟨amountA, amountB, unfinished, counted⟩
  · exact ⟨amountA, amountB, unfinished, counted⟩
  · have sent : outbound.sent = forwarder.outbound.sent := (Pipe.deliver_eq_some handed).2.1
    refine ⟨amountA, ?_, unfinished, counted⟩
    rw [sent]
    exact amountB
  · exact ⟨amountA, amountB, unfinished, counted⟩
  · exact ⟨amountA, amountB, unfinished, counted⟩
  · exact ⟨amountA, amountB, unfinished, counted⟩
  · exact ⟨amountA, amountB, unfinished, counted⟩
  · exact ⟨amountA, amountB, unfinished, counted⟩

theorem forwardStep_other_sent {call : CopyEvent}
    (taken : forwarder.forwardStep other call = some (next, other')) :
    other'.quicOut.sent = other.quicOut.sent := by
  obtain ⟨_, cases⟩ := forwardStep_cases taken
  rcases cases with ⟨call, forward, inbound, quicOut, _, _, _, _, _, rfl⟩ |
    ⟨call, forward, quicIn, outbound, _, _, _, effect, _, rfl⟩ |
    ⟨forward, _, _, _, _, _, rfl⟩
  · rfl
  · exact (TransferEvent.effect_source effect).1
  · rfl

theorem Metered.step_other {event : Event} (holds : other.Metered)
    (taken : forwarder.step other event = some (next, other')) : other'.Metered := by
  have sent : other'.quicOut.sent = other.quicOut.sent := by
    rcases step_over taken with ⟨call, _, called⟩ | ⟨_, rfl, _⟩
    · exact forwardStep_other_sent called
    · rfl
  obtain ⟨quicOut, rfl, _⟩ := TcpForwarder.step_other taken
  refine ⟨?_, holds.amountB, holds.unfinished, holds.counted⟩
  rw [sent]
  exact holds.amountA

/-- A task counts no more than it has written. -/
theorem Metered.counters_le (holds : forwarder.Metered) :
    forwarder.forward.streamACounter ≤ forwarder.quicOut.sent.length ∧
      forwarder.forward.streamBCounter ≤ forwarder.outbound.sent.length := by
  have amountA := holds.amountA
  have amountB := holds.amountB
  rcases holds.counted with ⟨_, countedA, countedB⟩ | ⟨_, countedA, countedB⟩
  · omega
  · omega

end TcpForwarder

/-- What has been written to the receiving side of a direction is no more than was
sent. -/
theorem Direction.sent_le {source sink : TcpForwarder} (holds : Direction source sink) :
    source.quicOut.sent.length ≤ source.inbound.sent.length ∧
      sink.outbound.sent.length ≤ source.quicOut.sent.length := by
  constructor
  · have delivered := (@Pipe.delivered_isPrefix source.inbound).length_le
    rw [holds.up.flow, List.length_append] at delivered
    omega
  · have delivered := (@Pipe.delivered_isPrefix source.quicOut).length_le
    rw [holds.down.flow, List.length_append] at delivered
    omega

namespace ForwardedConnection

variable {stream next : ForwardedConnection}

structure Metered (stream : ForwardedConnection) : Prop extends Flowing stream where
  serverMetered : stream.server.Metered
  clientMetered : stream.client.Metered

theorem metered_start : Metered {} where
  toFlowing := flowing_start
  serverMetered := TcpForwarder.metered_start _
  clientMetered := TcpForwarder.metered_start _

theorem metered_step {event : Event} (holds : stream.Metered)
    (taken : stream.step event = some next) : next.Metered := by
  have flowing := flowing_step holds.toFlowing taken
  cases event with
  | server event =>
      obtain ⟨⟨self, other⟩, moved, rfl⟩ := Option.map_eq_some_iff.mp taken
      exact ⟨flowing, holds.serverMetered.step_own moved, holds.clientMetered.step_other moved⟩
  | client event =>
      obtain ⟨⟨self, other⟩, moved, rfl⟩ := Option.map_eq_some_iff.mp taken
      exact ⟨flowing, holds.serverMetered.step_other moved, holds.clientMetered.step_own moved⟩

/-- The bytes that the external peer has sent, and those of the destination. -/
def sentExternal (stream : ForwardedConnection) : Nat := stream.server.inbound.sent.length

def sentDestination (stream : ForwardedConnection) : Nat := stream.client.inbound.sent.length

theorem Metered.counters_le (holds : stream.Metered) :
    (stream.server.forward.streamACounter ≤ stream.sentExternal ∧
      stream.client.forward.streamBCounter ≤ stream.sentExternal) ∧
    stream.client.forward.streamACounter ≤ stream.sentDestination ∧
      stream.server.forward.streamBCounter ≤ stream.sentDestination := by
  obtain ⟨serverA, serverB⟩ := holds.serverMetered.counters_le
  obtain ⟨clientA, clientB⟩ := holds.clientMetered.counters_le
  obtain ⟨up, down⟩ := holds.sound.toClient.sent_le
  obtain ⟨back, home⟩ := holds.sound.toServer.sent_le
  unfold sentExternal sentDestination
  omega

/-- Where both tasks are over and neither TCP connection failed, both have counted all
that was sent. -/
theorem Metered.counters_eq (holds : stream.Metered) (standing : stream.Standing)
    (ended : stream.server.dropped = true ∧ stream.client.dropped = true) :
    (stream.server.forward.streamACounter = stream.sentExternal ∧
      stream.client.forward.streamBCounter = stream.sentExternal) ∧
    stream.client.forward.streamACounter = stream.sentDestination ∧
      stream.server.forward.streamBCounter = stream.sentDestination := by
  obtain ⟨here, there⟩ := holds.unfaulted standing
  have server := holds.serverClean here there ended.1
  have client := holds.clientClean there here ended.2
  obtain ⟨_, serverA, serverB⟩ := holds.serverMetered.counted.resolve_right
    fun uncounted => uncounted.1 server
  obtain ⟨_, clientA, clientB⟩ := holds.clientMetered.counted.resolve_right
    fun uncounted => uncounted.1 client
  obtain ⟨_, up⟩ := holds.sound.toClient.up.complete server.1
  obtain ⟨_, down⟩ := holds.sound.toClient.down.complete client.2
  obtain ⟨_, back⟩ := holds.sound.toServer.up.complete client.1
  obtain ⟨_, home⟩ := holds.sound.toServer.down.complete server.2
  rw [serverA, serverB, clientA, clientB, holds.serverMetered.amountA,
    holds.serverMetered.amountB, holds.clientMetered.amountA, holds.clientMetered.amountB,
    down, up, home, back]
  exact ⟨⟨rfl, rfl⟩, rfl, rfl⟩

end ForwardedConnection

namespace TunnelSession

variable {session next : TunnelSession}

/-- What the server's tasks have added to its two counters, which are `AtomicU64` and taken
not to wrap. -/
def serverTransmitted (session : TunnelSession) : Nat × Nat :=
  ((session.streams.map fun stream => stream.server.forward.streamACounter).sum,
    (session.streams.map fun stream => stream.server.forward.streamBCounter).sum)

def clientTransmitted (session : TunnelSession) : Nat × Nat :=
  ((session.streams.map fun stream => stream.client.forward.streamACounter).sum,
    (session.streams.map fun stream => stream.client.forward.streamBCounter).sum)

def sentExternal (session : TunnelSession) : Nat :=
  (session.streams.map ForwardedConnection.sentExternal).sum

def sentDestination (session : TunnelSession) : Nat :=
  (session.streams.map ForwardedConnection.sentDestination).sum

/-- One byte goes in, and both peers end. -/
def oneByteThenEnds : List Event :=
  oneByteIn ++ oneByteOut ++
    [.stream 0 (.server .peerEnds), .stream 0 (.client .peerEnds),
      .stream 0 (.server (.forward (.aToB .eof))),
      .stream 0 (.server (.forward (.aToB .flushed))),
      .stream 0 (.server (.forward (.aToB .shutdown))),
      .stream 0 (.client (.forward (.bToA .eof))),
      .stream 0 (.client (.forward (.bToA .flushed))),
      .stream 0 (.client (.forward (.bToA .shutdown))),
      .stream 0 (.client (.forward (.aToB .eof))),
      .stream 0 (.client (.forward (.aToB .flushed))),
      .stream 0 (.client (.forward (.aToB .shutdown))),
      .stream 0 (.server (.forward (.bToA .eof))),
      .stream 0 (.server (.forward (.bToA .flushed))),
      .stream 0 (.server (.forward (.bToA .shutdown)))]

end TunnelSession

end Tunnel

end PortRedirect
