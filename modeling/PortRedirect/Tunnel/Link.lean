import PortRedirect.Tunnel.Delivery

namespace PortRedirect

open PortRedirect.Text
open PortRedirect.Forward
open PortRedirect.Stream
open PortRedirect.Transition

universe u

/-! One direction of a TCP connection, as its two peers know it: what is sent arrives in
order, and the end after all of it, unless the sender's side has broken. -/

structure Link (α : Type u) where
  sent : List α := []
  closed : Bool := false
  broken : Bool := false
  received : List α := []
  ended : Bool := false

inductive Link.Event (α : Type u) where
  | send (values : List α)
  | close
  | fault
  | receive (values : List α)
  | receiveEnd

def Link.step {α : Type u} [DecidableEq α] (link : Link α) : Link.Event α → Option (Link α)
  | .send values =>
      if link.closed = false then some { link with sent := link.sent ++ values } else none
  | .close => some { link with closed := true }
  | .fault => some { link with broken := true }
  | .receive values =>
      if (link.ended = true → values = []) ∧ link.received ++ values <+: link.sent then
        some { link with received := link.received ++ values }
      else none
  | .receiveEnd =>
      if link.broken = true ∨ link.closed = true ∧ link.received = link.sent then
        some { link with ended := true }
      else none

namespace Tunnel

/-! The tunnel is such a connection in both directions, whatever its two tasks do. -/

namespace TcpForwarder

variable {forwarder other next other' : TcpForwarder}

/-- What a task's TCP peer has done and seen. -/
structure Leg where
  sent : Bytes
  closed : Bool
  broken : Bool
  received : Bytes
  ended : Bool

def leg (forwarder : TcpForwarder) : Leg where
  sent := forwarder.inbound.sent
  closed := forwarder.inbound.finished
  broken := forwarder.faulted
  received := forwarder.outbound.delivered
  ended := forwarder.sawEnd

theorem leg_drop (forwarder : TcpForwarder) : forwarder.drop.leg = forwarder.leg := by
  unfold drop
  cases failed : forwarder.failed with
  | false => simp [leg, faulted, Pipe.finish, failed]
  | true => simp [leg, faulted, failed]

theorem Resumes.leg {moved : TcpForwarder} (resumes : moved.Resumes next) :
    next.leg = moved.leg := by
  rcases resumes with ⟨_, rfl⟩ | ⟨_, _, rfl⟩
  · rfl
  · exact moved.leg_drop

/-- The calls of a task are nothing that a TCP peer does or sees. -/
theorem forwardStep_leg {call : CopyEvent}
    (taken : forwarder.forwardStep other call = some (next, other')) :
    next.leg = forwarder.leg ∧ other'.leg = other.leg := by
  obtain ⟨_, cases⟩ := forwardStep_cases taken
  rcases cases with
    ⟨call, forward, inbound, quicOut, _, _, _, effect, resumes, rfl⟩ |
    ⟨call, forward, quicIn, outbound, _, _, _, effect, resumes, rfl⟩ |
    ⟨forward, _, _, _, _, rfl, rfl⟩
  · obtain ⟨sent, finished⟩ := TransferEvent.effect_source effect
    refine ⟨resumes.leg.trans ?_, rfl⟩
    simp [leg, faulted, sent, finished]
  · have delivered : outbound.delivered = forwarder.outbound.delivered := by
      rcases (TransferEvent.effect_cases effect).2 with rfl | ⟨bytes, rfl⟩ | ⟨_, rfl⟩
      · rfl
      · rfl
      · rfl
    refine ⟨resumes.leg.trans ?_, rfl⟩
    simp [leg, faulted, delivered]
  · exact ⟨leg_drop { forwarder with forward := forward }, rfl⟩

end TcpForwarder

/-- One direction, from the source's TCP peer to the sink's. -/
def link (source sink : TcpForwarder) : Link UInt8 where
  sent := source.leg.sent
  closed := source.leg.closed
  broken := source.leg.broken
  received := sink.leg.received
  ended := sink.leg.ended

def sourceLabel : TcpForwarder.Event → List (Link.Event UInt8)
  | .peerSends bytes => [.send bytes]
  | .peerEnds => [.close]
  | .legFails | .connectFailed _ => [.fault]
  | _ => []

def sinkLabel : TcpForwarder.Event → List (Link.Event UInt8)
  | .peerReads bytes => [.receive bytes]
  | .peerReadsEnd => [.receiveEnd]
  | _ => []

namespace Direction

variable {source sink next other' : TcpForwarder} {event : TcpForwarder.Event}

theorem link_step_source (taken : source.step sink event = some (next, other')) :
    run Link.step (link source sink) (sourceLabel event) = some (link next other') := by
  rcases TcpForwarder.step_cases taken with ⟨call, rfl, _, called⟩ | ⟨rfl,
    ⟨bytes, rfl, live, rfl⟩ | ⟨rfl, rfl⟩ | ⟨bytes, outbound, rfl, _, rfl⟩ | ⟨rfl, _, rfl⟩ |
      ⟨rfl, rfl⟩ | ⟨rfl, stage, rfl⟩ | ⟨rfl, stage, rfl⟩ | ⟨reason, rfl, _, rfl⟩⟩
  · obtain ⟨here, there⟩ := TcpForwarder.forwardStep_leg called
    simp only [sourceLabel, run_nil, link, here, there]
  · have opened : (link source other').closed = false := live
    rw [sourceLabel, run_singleton_eq_some, Link.step, if_pos opened]
    simp only [link, TcpForwarder.leg, Pipe.sent_write]
    rfl
  · rfl
  · rfl
  · rfl
  · have broken : TcpForwarder.faulted { source with failed := true } = true :=
      TcpForwarder.faulted_of_failed rfl
    rw [sourceLabel, run_singleton_eq_some]
    simp only [link, TcpForwarder.leg, broken]
    rfl
  · have kept := (TcpForwarder.advance (.inl stage) (.inl rfl)).2
    simp only [sourceLabel, run_nil, link, TcpForwarder.leg, kept]
  · have kept := (TcpForwarder.advance (.inr stage) (.inr rfl)).2
    simp only [sourceLabel, run_nil, link, TcpForwarder.leg, kept]
  · rfl

theorem link_step_sink (holds : Direction source sink)
    (after : Direction other' next)
    (taken : sink.step source event = some (next, other')) :
    run Link.step (link source sink) (sinkLabel event) = some (link other' next) := by
  rcases TcpForwarder.step_cases taken with ⟨call, rfl, _, called⟩ | ⟨rfl,
    ⟨bytes, rfl, live, rfl⟩ | ⟨rfl, rfl⟩ | ⟨bytes, outbound, rfl, handed, rfl⟩ |
      ⟨rfl, _, rfl⟩ | ⟨rfl, rfl⟩ | ⟨rfl, stage, rfl⟩ | ⟨rfl, stage, rfl⟩ |
      ⟨reason, rfl, _, rfl⟩⟩
  · obtain ⟨here, there⟩ := TcpForwarder.forwardStep_leg called
    simp only [sinkLabel, run_nil, link, here, there]
  · rfl
  · rfl
  · obtain ⟨delivered, _, pending, _⟩ := Pipe.deliver_eq_some handed
    have front : sink.outbound.delivered ++ bytes <+: other'.inbound.sent := by
      rw [← delivered]
      exact after.delivered_isPrefix
    have nothing : sink.sawEnd = true → bytes = [] := by
      intro shown
      rw [(holds.shown shown).2] at pending
      exact (List.append_eq_nil_iff.mp pending.symm).1
    rw [sinkLabel, run_singleton_eq_some, Link.step, if_pos ⟨nothing, front⟩]
    simp only [link, TcpForwarder.leg, delivered]
  · have ended : (link other' sink).broken = true ∨ (link other' sink).closed = true ∧
        (link other' sink).received = (link other' sink).sent := after.sawEnd rfl
    rw [sinkLabel, run_singleton_eq_some, Link.step, if_pos ended]
    rfl
  · rfl
  · rfl
  · rfl
  · rfl

end Direction

namespace ForwardedConnection

variable {connection next : ForwardedConnection}

def toClientLabel : Event → List (Link.Event UInt8)
  | .server event => sourceLabel event
  | .client event => sinkLabel event

def toServerLabel : Event → List (Link.Event UInt8)
  | .server event => sinkLabel event
  | .client event => sourceLabel event

theorem link_step {event : Event} (sound : connection.Sound)
    (taken : connection.step event = some next) :
    run Link.step (link connection.server connection.client) (toClientLabel event) =
        some (link next.server next.client) ∧
      run Link.step (link connection.client connection.server) (toServerLabel event) =
        some (link next.client next.server) := by
  have after := sound_step sound taken
  cases event with
  | server event =>
      obtain ⟨⟨self, other⟩, moved, rfl⟩ := Option.map_eq_some_iff.mp taken
      exact ⟨Direction.link_step_source moved,
        sound.toServer.link_step_sink after.toServer moved⟩
  | client event =>
      obtain ⟨⟨self, other⟩, moved, rfl⟩ := Option.map_eq_some_iff.mp taken
      exact ⟨sound.toClient.link_step_sink after.toClient moved,
        Direction.link_step_source moved⟩

end ForwardedConnection

end Tunnel

end PortRedirect
