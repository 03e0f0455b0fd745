import PortRedirect.Protocol.Basic
import PortRedirect.Transition.Run

namespace PortRedirect.Server

open PortRedirect.Protocol
open PortRedirect.Transition

/-! `handle_tcp_listener`: the task that accepts external connections for one session
and opens a QUIC stream for each, one at a time. -/

inductive Outcome where
  | forwarded
  | shutDown
deriving DecidableEq, Repr

/-- A TCP connection that the task has accepted and is done with. -/
structure Connection where
  /-- Accepted when the session had closed its QUIC connection already. -/
  late : Bool
  outcome : Outcome
deriving DecidableEq, Repr

namespace TcpListener

inductive Phase where
  | starting
  | selecting
  | opening (late : Bool)
  | shuttingDown (late : Bool)
  | finished (result : Except Error Unit)

inductive Event where
  | localAddr (found : Bool)
  | cancelled
  | accepted
  | acceptFailed
  | opened
  | openFailed
  /-- `shutdown` of the TCP stream has ended, well or not. -/
  | shutdown
deriving DecidableEq, Repr

end TcpListener

/-- The task owns the listening socket and drops it when it finishes.  The counters
are what this task adds to them. -/
structure TcpListener where
  port : UInt16
  phase : TcpListener.Phase := .starting
  settled : List Connection := []
  tcpConnectionsAccepted : Nat := 0
  tcpConnectionsFailedAccepting : Nat := 0
  quicDataStreamOpeningErrors : Nat := 0

namespace TcpListener

def finished (listener : TcpListener) : Bool :=
  match listener.phase with
  | .finished _ => true
  | _ => false

def settle (listener : TcpListener) (late : Bool) (outcome : Outcome) : TcpListener :=
  { listener with
    phase := .selecting
    settled := listener.settled ++ [{ late := late, outcome := outcome }] }

/-- One step, given whether the session's token is cancelled and whether it has
closed its QUIC connection.  `open_bi` fails on a closed connection. -/
def step (listener : TcpListener) (cancelled closed : Bool) (event : Event) :
    Option TcpListener :=
  match listener.phase with
  | .starting =>
      match event with
      | .localAddr true => some { listener with phase := .selecting }
      | .localAddr false =>
          some { listener with phase := .finished (.error (.io .localAddr)) }
      | _ => none
  | .selecting =>
      match event with
      | .cancelled =>
          if cancelled then some { listener with phase := .finished (.ok ()) } else none
      | .accepted =>
          some { listener with
            phase := .opening closed
            tcpConnectionsAccepted := listener.tcpConnectionsAccepted + 1 }
      | .acceptFailed =>
          some { listener with
            tcpConnectionsFailedAccepting :=
              listener.tcpConnectionsFailedAccepting + 1 }
      | _ => none
  | .opening late =>
      match event with
      | .opened => if closed then none else some (listener.settle late .forwarded)
      | .openFailed =>
          some { listener with
            phase := .shuttingDown late
            quicDataStreamOpeningErrors := listener.quicDataStreamOpeningErrors + 1 }
      | _ => none
  | .shuttingDown late =>
      match event with
      | .shutdown => some (listener.settle late .shutDown)
      | _ => none
  | .finished _ => none

theorem step_port {cancelled closed : Bool} {listener next : TcpListener} {event : Event}
    (taken : listener.step cancelled closed event = some next) :
    next.port = listener.port := by
  unfold step at taken
  split at taken
  · split at taken
    · cases taken
      rfl
    · cases taken
      rfl
    · cases taken
  · split at taken
    · split at taken
      · cases taken
        rfl
      · cases taken
    · cases taken
      rfl
    · cases taken
      rfl
    · cases taken
  · split at taken
    · split at taken
      · cases taken
      · cases taken
        rfl
    · cases taken
      rfl
    · cases taken
  · split at taken
    · cases taken
      rfl
    · cases taken
  · cases taken

/-- The accepted connections not settled yet. -/
def unsettled : Phase → Nat
  | .opening _ | .shuttingDown _ => 1
  | _ => 0

def refusing : Phase → Nat
  | .shuttingDown _ => 1
  | _ => 0

def refused (listener : TcpListener) : Nat :=
  listener.settled.countP (fun connection => connection.outcome = .shutDown)

/-- Every accepted connection is settled or at hand, every failure to open a stream
is counted once, and a connection accepted after the close has no stream. -/
structure Accounted (closed : Bool) (listener : TcpListener) : Prop where
  accepted : listener.tcpConnectionsAccepted =
    listener.settled.length + unsettled listener.phase
  errors : listener.quicDataStreamOpeningErrors =
    listener.refused + refusing listener.phase
  late : ∀ connection ∈ listener.settled, connection.late = true →
    connection.outcome = .shutDown
  opening : listener.phase = .opening true → closed = true

theorem Accounted.start (port : UInt16) (closed : Bool) :
    Accounted closed { port := port } where
  accepted := rfl
  errors := rfl
  late := fun _ member => by cases member
  opening := fun impossible => by cases impossible

/-- The close itself does not disturb the accounts. -/
theorem Accounted.close {listener : TcpListener} {closed : Bool}
    (holds : Accounted closed listener) : Accounted true listener :=
  { holds with opening := fun _ => rfl }

private theorem Accounted.settle {listener : TcpListener} {closed late : Bool}
    {outcome : Outcome}
    (accepted : listener.tcpConnectionsAccepted = listener.settled.length + 1)
    (errors : listener.quicDataStreamOpeningErrors =
      listener.refused + if outcome = .shutDown then 1 else 0)
    (settled : ∀ connection ∈ listener.settled, connection.late = true →
      connection.outcome = .shutDown)
    (refused : late = true → outcome = .shutDown) :
    Accounted closed (listener.settle late outcome) where
  accepted := by simpa [TcpListener.settle, unsettled] using accepted
  errors := by
    simpa [TcpListener.settle, TcpListener.refused, refusing, List.countP_append]
      using errors
  late := by
    intro connection member
    rcases List.mem_append.mp member with before | last
    · exact settled connection before
    · rw [List.mem_singleton.mp last]
      exact refused
  opening := fun impossible => by cases impossible

theorem Accounted.step {cancelled closed : Bool} {listener next : TcpListener}
    {event : Event} (holds : Accounted closed listener)
    (taken : listener.step cancelled closed event = some next) :
    Accounted closed next := by
  obtain ⟨accepted, errors, late, opening⟩ := holds
  unfold TcpListener.step at taken
  split at taken
  · rename_i phase
    simp only [phase] at accepted errors
    split at taken
    · cases taken
      exact ⟨accepted, errors, late, fun impossible => by cases impossible⟩
    · cases taken
      exact ⟨accepted, errors, late, fun impossible => by cases impossible⟩
    · cases taken
  · rename_i phase
    simp only [phase] at accepted errors
    split at taken
    · split at taken
      · cases taken
        exact ⟨accepted, errors, late, fun impossible => by cases impossible⟩
      · cases taken
    · cases taken
      refine ⟨by simpa [unsettled] using accepted, errors, late, ?_⟩
      intro same
      exact Phase.opening.inj same
    · cases taken
      refine ⟨?_, ?_, late, fun impossible => by simp [phase] at impossible⟩
      · simpa [phase] using accepted
      · simpa [phase, TcpListener.refused, refusing] using errors
    · cases taken
  · rename_i wasLate phase
    simp only [phase] at accepted errors
    split at taken
    · split at taken
      · cases taken
      · rename_i open_
        cases taken
        refine Accounted.settle accepted (by simpa [refusing] using errors) late ?_
        rintro rfl
        exact absurd (opening phase) open_
    · cases taken
      refine ⟨accepted, ?_, late, fun impossible => by cases impossible⟩
      simpa [TcpListener.refused, refusing] using errors
    · cases taken
  · rename_i wasLate phase
    simp only [phase] at accepted errors
    split at taken
    · cases taken
      exact Accounted.settle accepted (by simpa [refusing] using errors) late
        (fun _ => rfl)
    · cases taken
  · cases taken

end TcpListener

end PortRedirect.Server
