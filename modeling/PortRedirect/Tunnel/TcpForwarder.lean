import PortRedirect.Forward
import PortRedirect.Stream.Pipe

namespace PortRedirect.Tunnel

open PortRedirect.Text
open PortRedirect.Forward
open PortRedirect.Protocol
open PortRedirect.Stream

/-! `forward_tcp_to_quic_stream` of the server and of the client, with the two TCP peers
and the QUIC stream between them.  The QUIC connection stays open. -/

namespace TcpForwarder

inductive Stage where
  /-- The client has not accepted the stream yet. -/
  | unaccepted
  | connecting
  | refused (error : Error)
  | forwarding
deriving DecidableEq, Repr

inductive Event where
  | peerSends (bytes : Bytes)
  | peerEnds
  | peerReads (bytes : Bytes)
  /-- The TCP peer is shown a clean end of stream. -/
  | peerReadsEnd
  | legFails
  | accepted
  | connected
  | connectFailed (reason : String)
  | forward (event : CopyEvent)
deriving DecidableEq, Repr

end TcpForwarder

/-- One of the two tasks, with its TCP connection and the QUIC stream's direction that
it writes. -/
structure TcpForwarder where
  stage : TcpForwarder.Stage
  /-- What the TCP peer has sent. -/
  inbound : Pipe := {}
  /-- What has been written to the TCP peer. -/
  outbound : Pipe := {}
  failed : Bool := false
  sawEnd : Bool := false
  forward : ForwardBidirectional := { streamACounter := 0, streamBCounter := 0 }
  quicOut : Pipe := {}
deriving DecidableEq, Repr

namespace TcpForwarder

def result (forwarder : TcpForwarder) : Option (Except Error Unit) :=
  match forwarder.stage with
  | .refused error => some (.error error)
  | _ => forwarder.forward.result

def dropped (forwarder : TcpForwarder) : Bool := forwarder.result.isSome

/-- The TCP connection failed, or never came to be. -/
def faulted (forwarder : TcpForwarder) : Bool :=
  match forwarder.stage with
  | .refused _ => true
  | _ => forwarder.failed

/-- A peer that has dropped its unread `RecvStream` has stopped the stream with code 0. -/
def stopped : String := "sending stopped by peer: error 0"

/-- Whether a call may fail as it does. -/
def mayFail (forwarder other : TcpForwarder) : CopyEvent → Prop
  | .aToB (.readFailed _) => forwarder.failed = true
  | .aToB (.writeFailed error) => other.dropped = true ∧ error = stopped
  | .bToA (.readFailed _) => False
  | .bToA (.writeFailed _) => forwarder.failed = true
  | _ => True

instance (forwarder other : TcpForwarder) (event : CopyEvent) :
    Decidable (forwarder.mayFail other event) := by
  unfold mayFail
  split <;> infer_instance

/-- What the task drops: an unfinished `SendStream` is finished, and a TCP connection
that still stands is closed. -/
def drop (forwarder : TcpForwarder) : TcpForwarder :=
  { forwarder with
    outbound :=
      if forwarder.failed then forwarder.outbound else forwarder.outbound.finish
    quicOut := forwarder.quicOut.finish }

/-- The task after a call: it goes on, or returns. -/
def settle (forwarder : TcpForwarder) : TcpForwarder :=
  match forwarder.forward.result with
  | none => forwarder
  | some _ => forwarder.drop

/-- The call of a forwarding task and what it does to the streams. -/
def forwardStep (forwarder other : TcpForwarder) (event : CopyEvent) :
    Option (TcpForwarder × TcpForwarder) :=
  if forwarder.mayFail other event then
    (forwarder.forward.step event).bind fun forward =>
      match event with
      | .aToB call =>
          (call.effect forwarder.inbound forwarder.quicOut).map fun pipes =>
            ({ forwarder with
                forward := forward, inbound := pipes.1, quicOut := pipes.2 }.settle, other)
      | .bToA call =>
          (call.effect other.quicOut forwarder.outbound).map fun pipes =>
            ({ forwarder with forward := forward, outbound := pipes.2 }.settle,
              { other with quicOut := pipes.1 })
  else
    none

/-- A step of one side, given the other. -/
def step (forwarder other : TcpForwarder) : Event → Option (TcpForwarder × TcpForwarder)
  | .peerSends bytes =>
      if forwarder.stage = .forwarding ∧ forwarder.inbound.finished = false then
        some ({ forwarder with inbound := forwarder.inbound.write bytes }, other)
      else none
  | .peerEnds =>
      if forwarder.stage = .forwarding then
        some ({ forwarder with inbound := forwarder.inbound.finish }, other)
      else none
  | .peerReads bytes =>
      (forwarder.outbound.deliver bytes).map fun outbound =>
        ({ forwarder with outbound := outbound }, other)
  | .peerReadsEnd =>
      if forwarder.outbound.AtEnd then some ({ forwarder with sawEnd := true }, other)
      else none
  | .legFails =>
      if forwarder.stage = .forwarding then some ({ forwarder with failed := true }, other)
      else none
  | .accepted =>
      if forwarder.stage = .unaccepted then
        some ({ forwarder with stage := .connecting }, other)
      else none
  | .connected =>
      if forwarder.stage = .connecting then
        some ({ forwarder with stage := .forwarding }, other)
      else none
  | .connectFailed reason =>
      if forwarder.stage = .connecting then
        some ({ forwarder with
          stage := .refused (.message ("failed to connect to destination: " ++ reason))
          quicOut := forwarder.quicOut.finish }, other)
      else none
  | .forward event =>
      if forwarder.stage = .forwarding then forwarder.forwardStep other event else none

/-- From the TCP peer to the QUIC stream. -/
def aToB (forwarder : TcpForwarder) : Transfer := forwarder.forward.copy.aToB

/-- From the QUIC stream to the TCP peer. -/
def bToA (forwarder : TcpForwarder) : Transfer := forwarder.forward.copy.bToA

/-- Both directions have been copied to their ends. -/
def Done (forwarder : TcpForwarder) : Prop :=
  forwarder.aToB.stage = .done ∧ forwarder.bToA.stage = .done

variable {forwarder other next other' : TcpForwarder}

def Resumes (moved next : TcpForwarder) : Prop :=
  (moved.forward.result = none ∧ next = moved) ∨
    (moved.Done ∧ moved.forward.result ≠ none ∧ next = moved.drop)

theorem settle_resumes {moved : TcpForwarder}
    (outcome : moved.forward.result = none ∨ moved.Done) : moved.Resumes moved.settle := by
  unfold settle
  cases returned : moved.forward.result with
  | none => exact .inl ⟨returned, rfl⟩
  | some result =>
      rw [returned] at outcome
      refine .inr ⟨outcome.resolve_left (Option.some_ne_none result), ?_, rfl⟩
      rw [returned]
      exact Option.some_ne_none result

theorem settle_returned {moved : TcpForwarder} (returned : moved.forward.result ≠ none) :
    moved.settle = moved.drop := by
  unfold settle
  split
  · rename_i running
    exact absurd running returned
  · rfl

/-- Everything that a call of the forwarding task can do. -/
theorem forwardStep_cases {event : CopyEvent}
    (taken : forwarder.forwardStep other event = some (next, other')) :
    forwarder.forward.result = none ∧
      ((∃ call forward inbound quicOut, event = .aToB call ∧
          forwarder.aToB.step quicStreamReadBufferSize call = some (.ok forward.copy.aToB) ∧
          forward.copy.bToA = forwarder.bToA ∧
          call.effect forwarder.inbound forwarder.quicOut = some (inbound, quicOut) ∧
          Resumes { forwarder with
            forward := forward, inbound := inbound, quicOut := quicOut } next ∧
          other' = other) ∨
        (∃ call forward quicIn outbound, event = .bToA call ∧
          forwarder.bToA.step quicStreamReadBufferSize call = some (.ok forward.copy.bToA) ∧
          forward.copy.aToB = forwarder.aToB ∧
          call.effect other.quicOut forwarder.outbound = some (quicIn, outbound) ∧
          Resumes { forwarder with forward := forward, outbound := outbound } next ∧
          other' = { other with quicOut := quicIn }) ∨
        ∃ forward, forward.copy.aToB = forwarder.aToB ∧ forward.copy.bToA = forwarder.bToA ∧
          forward.result ≠ none ∧
          (forwarder.failed = true ∨ (∃ error, event = .aToB (.writeFailed error)) ∧
            other.dropped = true ∧ forwarder.aToB.stage ≠ .done) ∧
          next = { forwarder with forward := forward }.drop ∧ other' = other) := by
  unfold forwardStep at taken
  split at taken
  · rename_i may
    obtain ⟨forward, moved, taken⟩ := Option.bind_eq_some_iff.mp taken
    obtain ⟨live, cases⟩ := ForwardBidirectional.step_cases moved
    refine ⟨live, ?_⟩
    rcases cases with ⟨call, rfl, called, same, outcome⟩ |
      ⟨call, rfl, called, same, outcome⟩ |
      ⟨⟨call, error, ⟨rfl, called⟩ | ⟨rfl, called⟩⟩, sameA, sameB, returned⟩
    · obtain ⟨⟨inbound, quicOut⟩, effect, result⟩ := Option.map_eq_some_iff.mp taken
      cases result
      exact .inl ⟨call, forward, inbound, quicOut, rfl, called, same, effect,
        settle_resumes outcome, rfl⟩
    · obtain ⟨⟨quicIn, outbound⟩, effect, result⟩ := Option.map_eq_some_iff.mp taken
      cases result
      exact .inr (.inl ⟨call, forward, quicIn, outbound, rfl, called, same, effect,
        settle_resumes outcome, rfl⟩)
    · have dropped := @settle_returned { forwarder with forward := forward } returned
      rcases Transfer.fault_of_error called with ⟨text, rfl⟩ | ⟨text, rfl, unfinished⟩
      · cases taken
        exact .inr (.inr ⟨forward, sameA, sameB, returned, .inl may, dropped, rfl⟩)
      · cases taken
        exact .inr (.inr
          ⟨forward, sameA, sameB, returned, .inr ⟨⟨text, rfl⟩, may.1, unfinished⟩, dropped,
            rfl⟩)
    · have dropped := @settle_returned { forwarder with forward := forward } returned
      rcases Transfer.fault_of_error called with ⟨text, rfl⟩ | ⟨text, rfl, unfinished⟩
      · exact may.elim
      · cases taken
        exact .inr (.inr ⟨forward, sameA, sameB, returned, .inl may, dropped, rfl⟩)
  · cases taken

theorem forwardStep_forward {event : CopyEvent}
    (taken : forwarder.forwardStep other event = some (next, other')) :
    forwarder.forward.step event = some next.forward := by
  have kept (moved : TcpForwarder) : moved.settle.forward = moved.forward := by
    unfold settle
    split <;> rfl
  unfold forwardStep at taken
  split at taken
  · obtain ⟨forward, moved, taken⟩ := Option.bind_eq_some_iff.mp taken
    cases event with
    | aToB call =>
        obtain ⟨pipes, _, result⟩ := Option.map_eq_some_iff.mp taken
        cases result
        rw [kept]
        exact moved
    | bToA call =>
        obtain ⟨pipes, _, result⟩ := Option.map_eq_some_iff.mp taken
        cases result
        rw [kept]
        exact moved
  · cases taken

theorem step_cases {event : Event}
    (taken : forwarder.step other event = some (next, other')) :
    (∃ call, event = .forward call ∧ forwarder.stage = .forwarding ∧
        forwarder.forwardStep other call = some (next, other')) ∨
      other' = other ∧
        ((∃ bytes, event = .peerSends bytes ∧ forwarder.inbound.finished = false ∧
            next = { forwarder with inbound := forwarder.inbound.write bytes }) ∨
          (event = .peerEnds ∧
            next = { forwarder with inbound := forwarder.inbound.finish }) ∨
          (∃ bytes outbound, event = .peerReads bytes ∧
            forwarder.outbound.deliver bytes = some outbound ∧
            next = { forwarder with outbound := outbound }) ∨
          (event = .peerReadsEnd ∧ forwarder.outbound.AtEnd ∧
            next = { forwarder with sawEnd := true }) ∨
          (event = .legFails ∧ next = { forwarder with failed := true }) ∨
          (event = .accepted ∧ forwarder.stage = .unaccepted ∧
            next = { forwarder with stage := .connecting }) ∨
          (event = .connected ∧ forwarder.stage = .connecting ∧
            next = { forwarder with stage := .forwarding }) ∨
          ∃ reason, event = .connectFailed reason ∧ forwarder.stage = .connecting ∧
            next =
              { forwarder with
                stage :=
                  .refused (.message ("failed to connect to destination: " ++ reason))
                quicOut := forwarder.quicOut.finish }) := by
  cases event with
  | peerSends bytes =>
      simp only [step] at taken
      split at taken
      · rename_i sends
        cases taken
        exact .inr ⟨rfl, .inl ⟨bytes, rfl, sends.2, rfl⟩⟩
      · cases taken
  | peerEnds =>
      simp only [step] at taken
      split at taken
      · cases taken
        exact .inr ⟨rfl, .inr (.inl ⟨rfl, rfl⟩)⟩
      · cases taken
  | peerReads bytes =>
      obtain ⟨outbound, handed, same⟩ := Option.map_eq_some_iff.mp taken
      cases same
      exact .inr ⟨rfl, .inr (.inr (.inl ⟨bytes, outbound, rfl, handed, rfl⟩))⟩
  | peerReadsEnd =>
      simp only [step] at taken
      split at taken
      · rename_i atEnd
        cases taken
        exact .inr ⟨rfl, .inr (.inr (.inr (.inl ⟨rfl, atEnd, rfl⟩)))⟩
      · cases taken
  | legFails =>
      simp only [step] at taken
      split at taken
      · cases taken
        exact .inr ⟨rfl, .inr (.inr (.inr (.inr (.inl ⟨rfl, rfl⟩))))⟩
      · cases taken
  | accepted =>
      simp only [step] at taken
      split at taken
      · rename_i stage
        cases taken
        exact .inr ⟨rfl, .inr (.inr (.inr (.inr (.inr (.inl ⟨rfl, stage, rfl⟩)))))⟩
      · cases taken
  | connected =>
      simp only [step] at taken
      split at taken
      · rename_i stage
        cases taken
        exact .inr ⟨rfl, .inr (.inr (.inr (.inr (.inr (.inr (.inl ⟨rfl, stage, rfl⟩))))))⟩
      · cases taken
  | connectFailed reason =>
      simp only [step] at taken
      split at taken
      · rename_i stage
        cases taken
        exact .inr ⟨rfl, .inr (.inr (.inr (.inr (.inr (.inr (.inr
          ⟨reason, rfl, stage, rfl⟩))))))⟩
      · cases taken
  | forward call =>
      simp only [step] at taken
      split at taken
      · rename_i stage
        exact .inl ⟨call, rfl, stage, taken⟩
      · cases taken

end TcpForwarder

/-- The two tasks of a forwarded connection: the server's has its TCP connection from the
start, the client's waits for the stream. -/
structure ForwardedConnection where
  server : TcpForwarder := { stage := .forwarding }
  client : TcpForwarder := { stage := .unaccepted }
deriving DecidableEq, Repr

namespace ForwardedConnection

inductive Event where
  | server (event : TcpForwarder.Event)
  | client (event : TcpForwarder.Event)
deriving DecidableEq, Repr

def step (connection : ForwardedConnection) : Event → Option ForwardedConnection
  | .server event =>
      (connection.server.step connection.client event).map fun sides =>
        { server := sides.1, client := sides.2 }
  | .client event =>
      (connection.client.step connection.server event).map fun sides =>
        { server := sides.2, client := sides.1 }

end ForwardedConnection

end PortRedirect.Tunnel
