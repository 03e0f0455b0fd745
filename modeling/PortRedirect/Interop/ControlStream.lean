import PortRedirect.Client.ServerHandler
import PortRedirect.Server.SessionTranscript

namespace PortRedirect.Interop

open PortRedirect.Text
open PortRedirect.Stream
open PortRedirect.Protocol
open PortRedirect.Transition

/-! The server's session and the client's on one control stream, with their timers.
The stream carries every message whole and at once. -/

/-- The server is in the middle of a message. -/
def serverWriting (session : Server.Session) : Bool :=
  match session.stage with
  | .authenticate _ (.writeRequest _) | .authenticate _ (.writeVerdict _ _)
  | .controlLoop (.writePong _) => true
  | _ => false

def clientWriting (session : Client.Session) : Bool :=
  match session.stage, session.keepalive with
  | .authenticate (.writeResponse _), _ => true
  | _, some client =>
      match client.phase with
      | .writePing _ => true
      | _ => false
  | _, none => false

/-- A read takes all that is pending, or all that its buffer has room for. -/
def readsWhole (resumes : Event → Bool) (pending : Bytes) : Event → Bool
  | .received bytes =>
      decide (bytes = pending) ||
        !resumes (.received (pending.take (bytes.length + 1)))
  | _ => true

structure ControlStream where
  pair : Duplex Server.Session Client.Session := { left := {}, right := {} }
  now : Nat := 0
  /-- The deadline of the timeout that the server's handler awaits in. -/
  serverDeadline : Nat := authenticationTimeout
  nextTick : Nat := 0
  pongDeadline : Nat := 0

namespace ControlStream

inductive Label where
  | delay (duration : Nat)
  | server (event : Server.Session.Event)
  | client (event : Client.Session.Event)

/-- The timeout that the server enters between two states. -/
def entersTimeout (before after : Server.Session) : Option Nat :=
  match before.stage, after.stage with
  | .authenticate _ _, .configure _ => some configurationTimeout
  | .bind _, .controlLoop _ | .controlLoop .flushPong, .controlLoop (.readLine _) =>
      some (connectionKeepaliveInterval + connectionKeepaliveReadTimeout)
  | _, _ => none

section

variable (setting : Server.Setting) (config : Client.ClientAppData)

def pairStep : Duplex Server.Session Client.Session →
    Server.Session.Event ⊕ Client.Session.Event →
    Option (Duplex Server.Session Client.Session) :=
  Duplex.step (Server.Session.party setting) (Client.Session.party setting.sha512 config)

/-- Whether the timers and the stream let an event of the server happen. -/
def serverMay (stream : ControlStream) (after : Server.Session) :
    Server.Session.Event → Bool
  | .control .elapsed => decide (stream.serverDeadline ≤ stream.now)
  | .control (.sent _) => !serverWriting after
  | .control event =>
      readsWhole (fun event => (stream.pair.left.control setting event).isSome)
        stream.pair.toLeft.pending event
  | _ => true

def serverStep (stream : ControlStream) (event : Server.Session.Event) :
    Option ControlStream :=
  match pairStep setting config stream.pair (.inl event) with
  | none => none
  | some pair =>
      if stream.serverMay setting pair.left event then
        some
          { stream with
            pair := pair
            serverDeadline :=
              match entersTimeout stream.pair.left pair.left with
              | some duration => stream.now + duration
              | none => stream.serverDeadline }
      else
        none

def clientMay (stream : ControlStream) (after : Client.Session) :
    Client.Session.Event → Bool
  | .control .tick => decide (stream.nextTick ≤ stream.now)
  | .control .elapsed => decide (stream.pongDeadline ≤ stream.now)
  | .control (.sent _) => !clientWriting after
  | .control event =>
      readsWhole
        (fun event => (stream.pair.right.control setting.sha512 config event).isSome)
        stream.pair.toRight.pending event
  | _ => true

def clientStep (stream : ControlStream) (event : Client.Session.Event) :
    Option ControlStream :=
  match pairStep setting config stream.pair (.inr event) with
  | none => none
  | some pair =>
      if stream.clientMay setting config pair.right event then
        some
          { stream with
            pair := pair
            nextTick :=
              if event = .control .tick then stream.nextTick + connectionKeepaliveInterval
              -- The first tick of an interval is due when it is made.
              else if stream.pair.right.keepalive = none ∧ pair.right.keepalive ≠ none then
                stream.now
              else stream.nextTick
            pongDeadline :=
              if event = .control .flushed then
                stream.now + connectionKeepaliveReadTimeout
              else stream.pongDeadline }
      else
        none

/-- Time passes while no message is on its way. -/
def step (stream : ControlStream) : Label → Option ControlStream
  | .delay duration =>
      if stream.pair.toLeft.pending = [] ∧ stream.pair.toRight.pending = [] then
        some { stream with now := stream.now + duration }
      else none
  | .server event => stream.serverStep setting config event
  | .client event => stream.clientStep setting config event

end

variable {setting : Server.Setting} {config : Client.ClientAppData}
  {stream next final : ControlStream}

theorem serverStep_pair {event : Server.Session.Event}
    (taken : stream.serverStep setting config event = some next) :
    pairStep setting config stream.pair (.inl event) = some next.pair := by
  unfold serverStep at taken
  cases moved : pairStep setting config stream.pair (.inl event) with
  | none => simp [moved] at taken
  | some pair =>
      simp only [moved] at taken
      split at taken
      · cases taken
        rfl
      · cases taken

theorem clientStep_pair {event : Client.Session.Event}
    (taken : stream.clientStep setting config event = some next) :
    pairStep setting config stream.pair (.inr event) = some next.pair := by
  unfold clientStep at taken
  cases moved : pairStep setting config stream.pair (.inr event) with
  | none => simp [moved] at taken
  | some pair =>
      simp only [moved] at taken
      split at taken
      · cases taken
        rfl
      · cases taken

theorem run_pair {labels : List Label} (ran : run (step setting config) stream labels = some final) :
    ∃ events, run (pairStep setting config) stream.pair events = some final.pair := by
  induction labels generalizing stream with
  | nil =>
      cases ran
      exact ⟨[], rfl⟩
  | cons label labels ih =>
      obtain ⟨next, taken, rest⟩ := run_cons_eq_some.mp ran
      obtain ⟨events, later⟩ := ih rest
      cases label with
      | delay duration =>
          simp only [step] at taken
          split at taken
          · cases taken
            exact ⟨events, later⟩
          · cases taken
      | server event =>
          exact ⟨.inl event :: events,
            run_cons_eq_some.mpr ⟨next.pair, serverStep_pair taken, later⟩⟩
      | client event =>
          exact ⟨.inr event :: events,
            run_cons_eq_some.mpr ⟨next.pair, clientStep_pair taken, later⟩⟩

end ControlStream

end PortRedirect.Interop
