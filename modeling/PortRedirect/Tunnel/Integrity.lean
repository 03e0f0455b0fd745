import PortRedirect.Tunnel.TcpForwarder

namespace PortRedirect.Tunnel

open PortRedirect.Text
open PortRedirect.Forward
open PortRedirect.Protocol
open PortRedirect.Stream
open PortRedirect.Transition

/-- One direction of the tunnel, from the source's TCP peer to the sink's. -/
structure Direction (source sink : TcpForwarder) : Prop where
  up : source.aToB.Between source.inbound source.quicOut
  down : sink.bToA.Between source.quicOut sink.outbound
  middle : source.quicOut.finished = true →
    source.aToB.stage = .done ∨ source.dropped = true
  exit : sink.outbound.finished = true → sink.bToA.stage = .done ∨ sink.dropped = true
  shown : sink.sawEnd = true → sink.outbound.AtEnd
  whole : sink.outbound.finished = true → source.faulted = true ∨
    source.inbound.finished = true ∧ sink.outbound.sent = source.inbound.sent

/-- What lets a task be over. -/
def Excused (forwarder other : TcpForwarder) : Prop :=
  forwarder.dropped = true →
    forwarder.Done ∨ forwarder.faulted = true ∨ other.dropped = true

namespace TcpForwarder

variable {forwarder other next other' : TcpForwarder}

theorem dropped_of_forwarding (stage : forwarder.stage = .forwarding) :
    forwarder.dropped = forwarder.forward.result.isSome := by
  simp [dropped, result, stage]

theorem running_of_live (stage : forwarder.stage = .forwarding)
    (live : forwarder.forward.result = none) : ¬ forwarder.dropped = true := by
  rw [dropped_of_forwarding stage, live]
  exact Bool.false_ne_true

theorem dropped_of_returned (returned : forwarder.forward.result ≠ none) :
    forwarder.dropped = true := by
  unfold dropped result
  split
  · rfl
  · exact Option.isSome_iff_ne_none.mpr returned

theorem faulted_of_failed (failed : forwarder.failed = true) :
    forwarder.faulted = true := by
  unfold faulted
  split
  · rfl
  · exact failed

theorem advance {stage : Stage}
    (before : forwarder.stage = .unaccepted ∨ forwarder.stage = .connecting)
    (after : stage = .connecting ∨ stage = .forwarding) :
    dropped { forwarder with stage := stage } = forwarder.dropped ∧
      faulted { forwarder with stage := stage } = forwarder.faulted := by
  rcases before with before | before
  · rcases after with rfl | rfl
    · simp [dropped, result, faulted, before]
    · simp [dropped, result, faulted, before]
  · rcases after with rfl | rfl
    · simp [dropped, result, faulted, before]
    · simp [dropped, result, faulted, before]

end TcpForwarder

namespace Direction

variable {source sink : TcpForwarder}

theorem start : Direction { stage := .forwarding } { stage := .unaccepted } ∧
    Direction { stage := .unaccepted } { stage := .forwarding } := by
  have empty (first second : TcpForwarder.Stage) :
      Direction { stage := first } { stage := second } := by
    refine ⟨Transfer.Between.start, Transfer.Between.start, ?_, ?_, ?_, ?_⟩
    · intro finished
      cases finished
    · intro finished
      cases finished
    · intro shown
      cases shown
    · intro finished
      cases finished
  exact ⟨empty _ _, empty _ _⟩

theorem drop_source (holds : Direction source sink) (gone : source.dropped = true) :
    Direction source.drop sink where
  up := holds.up.finish_target
  down := holds.down.finish_source
  middle := fun _ => .inr gone
  exit := holds.exit
  shown := holds.shown
  whole := holds.whole

/-- The sink drops its streams: its TCP peer is shown the end after what is on the way. -/
theorem drop_sink (holds : Direction source sink) (gone : sink.dropped = true)
    (whole : sink.failed = false → source.faulted = true ∨
      source.inbound.finished = true ∧ sink.outbound.sent = source.inbound.sent) :
    Direction source sink.drop := by
  cases failed : sink.failed with
  | false =>
      have closed : sink.drop.outbound = sink.outbound.finish := by
        simp [TcpForwarder.drop, failed]
      refine ⟨holds.up, ?_, holds.middle, fun _ => .inr gone, ?_, ?_⟩
      · rw [closed]
        exact holds.down.finish_target
      · intro shown
        rw [closed]
        exact (holds.shown shown).finish
      · intro _
        rw [closed]
        exact whole failed
  | true =>
      have kept : sink.drop.outbound = sink.outbound := by
        simp [TcpForwarder.drop, failed]
      refine ⟨holds.up, ?_, holds.middle, fun _ => .inr gone, ?_, ?_⟩
      · rw [kept]
        exact holds.down
      · rw [kept]
        exact holds.shown
      · rw [kept]
        exact holds.whole

theorem drop_done (holds : Direction source sink) (gone : sink.dropped = true)
    (done : sink.bToA.stage = .done) : Direction source sink.drop :=
  holds.drop_sink gone fun _ => holds.whole (holds.down.closed done)

variable {other next other' : TcpForwarder}

theorem forward_source {event : CopyEvent} (holds : Direction source other)
    (stage : source.stage = .forwarding)
    (taken : source.forwardStep other event = some (next, other')) :
    Direction next other' := by
  obtain ⟨live, cases⟩ := TcpForwarder.forwardStep_cases taken
  have running := TcpForwarder.running_of_live stage live
  rcases cases with
    ⟨call, forward, inbound, quicOut, rfl, called, same, effect, resumes, rfl⟩ |
    ⟨call, forward, quicIn, outbound, rfl, called, same, effect, resumes, rfl⟩ |
    ⟨forward, sameA, sameB, returned, _, rfl, rfl⟩
  · have opened : source.quicOut.finished = false := by
      by_contra finished
      rcases holds.middle (by simpa using finished) with done | dropped
      · exact holds.up.not_done called done
      · exact running dropped
    obtain ⟨sent, finished⟩ := TransferEvent.effect_source effect
    have moved : Direction { source with
        forward := forward, inbound := inbound, quicOut := quicOut } other' := by
      refine ⟨holds.up.step called effect, holds.down.fed opened effect, ?_, holds.exit,
        holds.shown, ?_⟩
      · exact fun ended => .inl (Transfer.done_of_finished called effect opened ended)
      · rw [show inbound.finished = source.inbound.finished from finished,
          show inbound.sent = source.inbound.sent from sent]
        exact holds.whole
    rcases resumes with ⟨_, rfl⟩ | ⟨_, returned, rfl⟩
    · exact moved
    · exact moved.drop_source (TcpForwarder.dropped_of_returned returned)
  · have moved : Direction { source with forward := forward, outbound := outbound }
        { other with quicOut := quicIn } := by
      refine ⟨?_, holds.down, ?_, holds.exit, holds.shown, holds.whole⟩
      · rw [show TcpForwarder.aToB { source with
          forward := forward, outbound := outbound } = source.aToB from same]
        exact holds.up
      · intro finished
        rw [show TcpForwarder.aToB { source with
          forward := forward, outbound := outbound } = source.aToB from same]
        exact .inl ((holds.middle finished).resolve_right running)
    rcases resumes with ⟨_, rfl⟩ | ⟨_, returned, rfl⟩
    · exact moved
    · exact moved.drop_source (TcpForwarder.dropped_of_returned returned)
  · have gone := @TcpForwarder.dropped_of_returned { source with forward := forward } returned
    have moved : Direction { source with forward := forward } other' := by
      refine ⟨?_, holds.down, fun _ => .inr gone, holds.exit, holds.shown, holds.whole⟩
      rw [show TcpForwarder.aToB { source with forward := forward } = source.aToB from sameA]
      exact holds.up
    exact moved.drop_source gone

/-- A call of the sink's task.  Its QUIC stream fails under it only after the source's
task is over, and its TCP peer is shown an end only for that of the source's peer. -/
theorem forward_sink {event : CopyEvent} (holds : Direction source sink)
    (back : Direction sink source) (excused : Excused source sink)
    (stage : sink.stage = .forwarding)
    (taken : sink.forwardStep source event = some (next, other')) :
    Direction other' next := by
  obtain ⟨live, cases⟩ := TcpForwarder.forwardStep_cases taken
  have running := TcpForwarder.running_of_live stage live
  rcases cases with
    ⟨call, forward, inbound, quicOut, rfl, called, same, effect, resumes, rfl⟩ |
    ⟨call, forward, quicIn, outbound, rfl, called, same, effect, resumes, rfl⟩ |
    ⟨forward, sameA, sameB, returned, cause, rfl, rfl⟩
  · have kept : TcpForwarder.bToA { sink with
        forward := forward, inbound := inbound, quicOut := quicOut } = sink.bToA := same
    have moved : Direction other' { sink with
        forward := forward, inbound := inbound, quicOut := quicOut } := by
      refine ⟨holds.up, ?_, holds.middle, ?_, holds.shown, holds.whole⟩
      · rw [kept]
        exact holds.down
      · intro finished
        rw [kept]
        exact .inl ((holds.exit finished).resolve_right running)
    rcases resumes with ⟨_, rfl⟩ | ⟨done, returned, rfl⟩
    · exact moved
    · exact moved.drop_done (TcpForwarder.dropped_of_returned returned) done.2
  · have opened : sink.outbound.finished = false := by
      by_contra finished
      rcases holds.exit (by simpa using finished) with done | dropped
      · exact holds.down.not_done called done
      · exact running dropped
    obtain ⟨sent, finished⟩ := TransferEvent.effect_source effect
    have up : source.aToB.Between source.inbound quicIn := holds.up.read_by effect
    have down := holds.down.step called effect
    have moved : Direction { source with quicOut := quicIn }
        { sink with forward := forward, outbound := outbound } := by
      refine ⟨up, down, ?_, ?_, ?_, ?_⟩
      · intro ended
        exact holds.middle (finished.symm.trans ended)
      · exact fun ended => .inl (Transfer.done_of_finished called effect opened ended)
      · intro shown
        have ended := (holds.shown shown).1
        rw [opened] at ended
        cases ended
      · intro ended
        have done := Transfer.done_of_finished called effect opened ended
        obtain ⟨drained, passed⟩ := down.complete done
        have complete (done : source.aToB.stage = .done) :
            source.faulted = true ∨
              source.inbound.finished = true ∧ outbound.sent = source.inbound.sent := by
          obtain ⟨closed, whole⟩ := up.complete done
          exact .inr ⟨closed, passed.trans whole⟩
        rcases holds.middle (finished.symm.trans drained) with done | dropped
        · exact complete done
        · rcases excused dropped with done | faulted | stopped
          · exact complete done.1
          · exact .inl faulted
          · exact absurd stopped running
    rcases resumes with ⟨_, rfl⟩ | ⟨done, returned, rfl⟩
    · exact moved
    · exact moved.drop_done (TcpForwarder.dropped_of_returned returned) done.2
  · have gone := @TcpForwarder.dropped_of_returned { sink with forward := forward } returned
    have moved : Direction other' { sink with forward := forward } := by
      refine ⟨holds.up, ?_, holds.middle, fun _ => .inr gone, holds.shown, holds.whole⟩
      rw [show TcpForwarder.bToA { sink with forward := forward } = sink.bToA from sameB]
      exact holds.down
    apply moved.drop_sink gone
    intro standing
    rcases cause with failed | ⟨_, dropped, unfinished⟩
    · exact absurd (standing.symm.trans failed) Bool.false_ne_true
    · left
      rcases excused dropped with done | faulted | stopped
      · have ended := back.down.ended (by rw [done.2]; exact TransferStage.noConfusion)
        rcases back.middle ended.1 with done | dropped
        · exact absurd done unfinished
        · exact absurd dropped running
      · exact faulted
      · exact absurd stopped running

theorem step_source {event : TcpForwarder.Event} (holds : Direction source sink)
    (taken : source.step sink event = some (next, other')) : Direction next other' := by
  rcases TcpForwarder.step_cases taken with ⟨call, _, stage, called⟩ | ⟨rfl,
    ⟨bytes, _, live, rfl⟩ | ⟨_, rfl⟩ | ⟨bytes, outbound, _, _, rfl⟩ | ⟨_, _, rfl⟩ |
      ⟨_, rfl⟩ | ⟨_, stage, rfl⟩ | ⟨_, stage, rfl⟩ | ⟨reason, _, stage, rfl⟩⟩
  · exact holds.forward_source stage called
  · refine ⟨holds.up.write_source live, holds.down, holds.middle, holds.exit, holds.shown, ?_⟩
    intro finished
    refine (holds.whole finished).imp_right ?_
    rintro ⟨ended, _⟩
    cases live.symm.trans ended
  · refine ⟨holds.up.finish_source, holds.down, holds.middle, holds.exit, holds.shown, ?_⟩
    intro finished
    exact (holds.whole finished).imp_right fun whole => ⟨rfl, whole.2⟩
  · exact ⟨holds.up, holds.down, holds.middle, holds.exit, holds.shown, holds.whole⟩
  · exact ⟨holds.up, holds.down, holds.middle, holds.exit, holds.shown, holds.whole⟩
  · exact ⟨holds.up, holds.down, holds.middle, holds.exit, holds.shown,
      fun _ => .inl (TcpForwarder.faulted_of_failed rfl)⟩
  · obtain ⟨dropped, faulted⟩ := TcpForwarder.advance (.inl stage) (.inl rfl)
    refine ⟨holds.up, holds.down, ?_, holds.exit, holds.shown, ?_⟩
    · rw [dropped]
      exact holds.middle
    · rw [faulted]
      exact holds.whole
  · obtain ⟨dropped, faulted⟩ := TcpForwarder.advance (.inr stage) (.inr rfl)
    refine ⟨holds.up, holds.down, ?_, holds.exit, holds.shown, ?_⟩
    · rw [dropped]
      exact holds.middle
    · rw [faulted]
      exact holds.whole
  · exact ⟨holds.up.finish_target, holds.down.finish_source, fun _ => .inr rfl, holds.exit,
      holds.shown, fun _ => .inl rfl⟩

/-- A step of the sink's side. -/
theorem step_sink {event : TcpForwarder.Event} (holds : Direction source sink)
    (back : Direction sink source) (excused : Excused source sink)
    (taken : sink.step source event = some (next, other')) : Direction other' next := by
  rcases TcpForwarder.step_cases taken with ⟨call, _, stage, called⟩ | ⟨rfl,
    ⟨bytes, _, live, rfl⟩ | ⟨_, rfl⟩ | ⟨bytes, outbound, _, handed, rfl⟩ |
      ⟨_, atEnd, rfl⟩ | ⟨_, rfl⟩ | ⟨_, stage, rfl⟩ | ⟨_, stage, rfl⟩ |
      ⟨reason, _, stage, rfl⟩⟩
  · exact holds.forward_sink back excused stage called
  · exact ⟨holds.up, holds.down, holds.middle, holds.exit, holds.shown, holds.whole⟩
  · exact ⟨holds.up, holds.down, holds.middle, holds.exit, holds.shown, holds.whole⟩
  · obtain ⟨_, sent, _, finished⟩ := Pipe.deliver_eq_some handed
    refine ⟨holds.up, holds.down.deliver_target handed, holds.middle, ?_, ?_, ?_⟩
    · exact fun ended => holds.exit (finished.symm.trans ended)
    · exact fun shown => (holds.shown shown).deliver handed
    · intro ended
      rw [show outbound.sent = sink.outbound.sent from sent]
      exact holds.whole (finished.symm.trans ended)
  · exact ⟨holds.up, holds.down, holds.middle, holds.exit, fun _ => atEnd, holds.whole⟩
  · exact ⟨holds.up, holds.down, holds.middle, holds.exit, holds.shown, holds.whole⟩
  · refine ⟨holds.up, holds.down, holds.middle, ?_, holds.shown, holds.whole⟩
    rw [(TcpForwarder.advance (.inl stage) (.inl rfl)).1]
    exact holds.exit
  · refine ⟨holds.up, holds.down, holds.middle, ?_, holds.shown, holds.whole⟩
    rw [(TcpForwarder.advance (.inr stage) (.inr rfl)).1]
    exact holds.exit
  · exact ⟨holds.up, holds.down, holds.middle, fun _ => .inr rfl, holds.shown, holds.whole⟩

end Direction

namespace TcpForwarder

variable {forwarder other next other' : TcpForwarder}

theorem step_over {event : Event}
    (taken : forwarder.step other event = some (next, other')) :
    (∃ call, forwarder.stage = .forwarding ∧
        forwarder.forwardStep other call = some (next, other')) ∨
      next.forward = forwarder.forward ∧ other' = other ∧
        (forwarder.faulted = true → next.faulted = true) ∧
        (next.dropped = forwarder.dropped ∨ next.dropped = true ∧ next.faulted = true) := by
  rcases step_cases taken with ⟨call, _, stage, called⟩ | ⟨rfl,
    ⟨bytes, _, _, rfl⟩ | ⟨_, rfl⟩ | ⟨bytes, outbound, _, _, rfl⟩ | ⟨_, _, rfl⟩ |
      ⟨_, rfl⟩ | ⟨_, stage, rfl⟩ | ⟨_, stage, rfl⟩ | ⟨reason, _, _, rfl⟩⟩
  · exact .inl ⟨call, stage, called⟩
  · exact .inr ⟨rfl, rfl, id, .inl rfl⟩
  · exact .inr ⟨rfl, rfl, id, .inl rfl⟩
  · exact .inr ⟨rfl, rfl, id, .inl rfl⟩
  · exact .inr ⟨rfl, rfl, id, .inl rfl⟩
  · exact .inr ⟨rfl, rfl, fun _ => faulted_of_failed rfl, .inl rfl⟩
  · obtain ⟨dropped, faulted⟩ := advance (.inl stage) (.inl rfl)
    exact .inr ⟨rfl, rfl, fun already => faulted.trans already, .inl dropped⟩
  · obtain ⟨dropped, faulted⟩ := advance (.inr stage) (.inr rfl)
    exact .inr ⟨rfl, rfl, fun already => faulted.trans already, .inl dropped⟩
  · exact .inr ⟨rfl, rfl, fun _ => rfl, .inr ⟨rfl, rfl⟩⟩

/-- What a call does to the end of its task, and that it only reads from the other's. -/
theorem forwardStep_over {event : CopyEvent} (stage : forwarder.stage = .forwarding)
    (taken : forwarder.forwardStep other event = some (next, other')) :
    ¬ forwarder.dropped = true ∧ Excused next other' ∧
      ∃ quicOut, other' = { other with quicOut := quicOut } ∧
        quicOut.finished = other.quicOut.finished := by
  obtain ⟨live, cases⟩ := forwardStep_cases taken
  refine ⟨running_of_live stage live, ?_⟩
  rcases cases with
    ⟨call, forward, inbound, quicOut, _, _, _, _, resumes, rfl⟩ |
    ⟨call, forward, quicIn, outbound, _, _, _, effect, resumes, rfl⟩ |
    ⟨forward, _, _, _, cause, rfl, rfl⟩
  · refine ⟨?_, _, rfl, rfl⟩
    rcases resumes with ⟨running, rfl⟩ | ⟨done, _, rfl⟩
    · exact fun gone => absurd gone (running_of_live stage running)
    · exact fun _ => .inl done
  · refine ⟨?_, _, rfl, (TransferEvent.effect_source effect).2⟩
    rcases resumes with ⟨running, rfl⟩ | ⟨done, _, rfl⟩
    · exact fun gone => absurd gone (running_of_live stage running)
    · exact fun _ => .inl done
  · refine ⟨fun _ => ?_, _, rfl, rfl⟩
    rcases cause with failed | ⟨_, dropped, _⟩
    · exact .inr (.inl (faulted_of_failed failed))
    · exact .inr (.inr dropped)

end TcpForwarder

namespace Excused

variable {forwarder other next other' : TcpForwarder} {event : TcpForwarder.Event}

theorem step_own (holds : Excused forwarder other)
    (taken : forwarder.step other event = some (next, other')) : Excused next other' := by
  rcases TcpForwarder.step_over taken with ⟨call, stage, called⟩ |
    ⟨forward, rfl, faulted, gone⟩
  · exact (TcpForwarder.forwardStep_over stage called).2.1
  · intro dropped
    rcases gone with same | ⟨_, refused⟩
    · rcases holds (same.symm.trans dropped) with done | already | stopped
      · refine .inl ?_
        unfold TcpForwarder.Done TcpForwarder.aToB TcpForwarder.bToA
        rw [forward]
        exact done
      · exact .inr (.inl (faulted already))
      · exact .inr (.inr stopped)
    · exact .inr (.inl refused)

theorem step_other (holds : Excused other forwarder)
    (taken : forwarder.step other event = some (next, other')) : Excused other' next := by
  rcases TcpForwarder.step_over taken with ⟨call, stage, called⟩ |
    ⟨_, rfl, _, gone⟩
  · obtain ⟨running, _, quicOut, rfl, _⟩ := TcpForwarder.forwardStep_over stage called
    intro dropped
    rcases holds dropped with done | faulted | stopped
    · exact .inl done
    · exact .inr (.inl faulted)
    · exact absurd stopped running
  · intro dropped
    rcases holds dropped with done | faulted | stopped
    · exact .inl done
    · exact .inr (.inl faulted)
    · right
      right
      rcases gone with same | ⟨gone, _⟩
      · exact same.trans stopped
      · exact gone

end Excused

namespace ForwardedConnection

variable {connection next : ForwardedConnection} {event : Event}

/-- Both directions, whatever has happened to their ends. -/
structure Sound (connection : ForwardedConnection) : Prop where
  toClient : Direction connection.server connection.client
  toServer : Direction connection.client connection.server
  server : Excused connection.server connection.client
  client : Excused connection.client connection.server

theorem sound_start : Sound {} where
  toClient := Direction.start.1
  toServer := Direction.start.2
  server := fun dropped => by cases dropped
  client := fun dropped => by cases dropped

theorem sound_step (holds : connection.Sound) (taken : connection.step event = some next) :
    next.Sound := by
  obtain ⟨toClient, toServer, server, client⟩ := holds
  cases event with
  | server event =>
      obtain ⟨⟨self, other⟩, moved, rfl⟩ := Option.map_eq_some_iff.mp taken
      exact ⟨toClient.step_source moved, toServer.step_sink toClient client moved,
        server.step_own moved, client.step_other moved⟩
  | client event =>
      obtain ⟨⟨self, other⟩, moved, rfl⟩ := Option.map_eq_some_iff.mp taken
      exact ⟨toClient.step_sink toServer server moved, toServer.step_source moved,
        server.step_other moved, client.step_own moved⟩

/-- What the receiving TCP peer has read of what the sending one has sent. -/
structure Intact (source sink : TcpForwarder) : Prop where
  inOrder : sink.outbound.delivered <+: source.inbound.sent
  ended : sink.sawEnd = true →
    source.inbound.finished = true ∧ sink.outbound.delivered = source.inbound.sent

end ForwardedConnection

/-- Bytes arrive in order and none are made up, in every state of a direction. -/
theorem Direction.delivered_isPrefix {source sink : TcpForwarder}
    (holds : Direction source sink) :
    sink.outbound.delivered <+: source.inbound.sent := by
  calc
    sink.outbound.delivered <+: sink.outbound.sent := Pipe.delivered_isPrefix
    _ <+: source.quicOut.delivered := ⟨_, holds.down.flow.symm⟩
    _ <+: source.quicOut.sent := Pipe.delivered_isPrefix
    _ <+: source.inbound.delivered := ⟨_, holds.up.flow.symm⟩
    _ <+: source.inbound.sent := Pipe.delivered_isPrefix

/-- An end that is shown is the sender's own, after all of its bytes, unless the sender's
TCP connection failed. -/
theorem Direction.sawEnd {source sink : TcpForwarder} (holds : Direction source sink)
    (shown : sink.sawEnd = true) :
    source.faulted = true ∨ source.inbound.finished = true ∧
      sink.outbound.delivered = source.inbound.sent := by
  have atEnd := holds.shown shown
  refine (holds.whole atEnd.1).imp_right ?_
  rintro ⟨ended, passed⟩
  exact ⟨ended, atEnd.delivered_eq.trans passed⟩

namespace ForwardedConnection

/-- In every state that a forwarded connection gets to: in either direction the bytes
delivered are a prefix of the bytes sent, and a clean end is shown only for the sender's
own after all of its bytes, or when the sender's TCP connection has failed or been
refused. -/
theorem tunnel_integrity {events : List Event} {final : ForwardedConnection}
    (ran : run step {} events = some final) :
    (final.client.outbound.delivered <+: final.server.inbound.sent ∧
        final.server.outbound.delivered <+: final.client.inbound.sent) ∧
      (final.client.sawEnd = true → final.server.faulted = true ∨
        final.server.inbound.finished = true ∧
          final.client.outbound.delivered = final.server.inbound.sent) ∧
      (final.server.sawEnd = true → final.client.faulted = true ∨
        final.client.inbound.finished = true ∧
          final.server.outbound.delivered = final.client.inbound.sent) := by
  have sound := run_invariant Sound (fun _ _ _ holds taken => sound_step holds taken)
    sound_start ran
  exact ⟨⟨sound.toClient.delivered_isPrefix, sound.toServer.delivered_isPrefix⟩,
    sound.toClient.sawEnd, sound.toServer.sawEnd⟩

def oneByteAcross : List Event :=
  [.server (.peerSends [7]), .server (.forward (.aToB (.read [7]))),
    .server (.forward (.aToB (.wrote [7]))), .client .accepted, .client .connected,
    .client (.forward (.bToA (.read [7]))), .client (.forward (.bToA (.wrote [7]))),
    .client (.peerReads [7])]

def endAcross : List Event :=
  oneByteAcross ++
    [.server .peerEnds, .server (.forward (.aToB .eof)),
      .server (.forward (.aToB .flushed)), .server (.forward (.aToB .shutdown)),
      .client (.forward (.bToA .eof)), .client (.forward (.bToA .flushed)),
      .client (.forward (.bToA .shutdown)), .client .peerReadsEnd]

theorem tunnel_integrity_endAcross :
    ∃ final, run step {} endAcross = some final ∧ final.client.sawEnd = true ∧
      final.server.inbound.finished = true ∧
      final.client.outbound.delivered = final.server.inbound.sent := by
  have runs : (run step {} endAcross).map
      (fun final => (final.client.sawEnd, final.server.faulted)) = some (true, false) := by
    decide
  obtain ⟨final, ran, same⟩ := Option.map_eq_some_iff.mp runs
  rw [Prod.mk.injEq] at same
  have whole := (tunnel_integrity ran).2.1 same.1
  rw [same.2] at whole
  exact ⟨final, ran, same.1, whole.resolve_left Bool.false_ne_true⟩

/-- The destination answers with two bytes and resets its connection when the client has
read one. -/
def resetAcross : List Event :=
  oneByteAcross ++
    [.client (.peerSends [1, 2]), .client (.forward (.aToB (.read [1]))),
      .client (.forward (.aToB (.wrote [1]))), .client .legFails,
      .client (.forward (.aToB (.readFailed "Connection reset by peer (os error 104)"))),
      .server (.forward (.bToA (.read [1]))), .server (.forward (.bToA (.wrote [1]))),
      .server (.forward (.bToA .eof)), .server (.forward (.bToA .flushed)),
      .server (.forward (.bToA .shutdown)), .server (.peerReads [1]),
      .server .peerReadsEnd]

/-- The external peer takes the one byte for the whole answer. -/
theorem not_intact_resetAcross :
    ∃ final, run step {} resetAcross = some final ∧ final.client.inbound.sent = [1, 2] ∧
      final.client.inbound.finished = false ∧ final.server.outbound.delivered = [1] ∧
      final.server.sawEnd = true ∧ ¬ Intact final.client final.server := by
  have runs : (run step {} resetAcross).map
      (fun final => (final.client.inbound.sent, final.client.inbound.finished,
        final.server.outbound.delivered, final.server.sawEnd)) =
        some ([1, 2], false, [1], true) := by
    decide
  obtain ⟨final, ran, same⟩ := Option.map_eq_some_iff.mp runs
  simp only [Prod.mk.injEq] at same
  obtain ⟨sent, finished, delivered, shown⟩ := same
  refine ⟨final, ran, sent, finished, delivered, shown, ?_⟩
  intro intact
  have ended := (intact.ended shown).1
  rw [finished] at ended
  cases ended

end ForwardedConnection

end PortRedirect.Tunnel
