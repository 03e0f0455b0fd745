import PortRedirect.Protocol.Basic
import PortRedirect.Stream.Duplex

namespace PortRedirect.Protocol

open PortRedirect.Text
open PortRedirect.Stream

def pingMessage : Bytes := utf8 "PING\n"
def pongMessage : Bytes := utf8 "PONG\n"
def connectionEndMessage : Bytes := utf8 "BYE\n"

/-! `run_keepalive_client_loop`, by its await points.  Every way out of the loop
returns `Ok`. -/

namespace KeepaliveClient

inductive Exit where
  | sendFailed
  | flushFailed
  | closed
  | unexpected (response : Bytes)
  | readFailed
  | timedOut
deriving DecidableEq, Repr

inductive Phase where
  | awaitTick
  | writePing (rest : Bytes)
  | flushPing
  | readPong (responseBuf : Bytes)
  | returned (exit : Exit)
deriving DecidableEq, Repr

end KeepaliveClient

structure KeepaliveClient where
  phase : KeepaliveClient.Phase := .awaitTick
  pongCount : Nat := 0
  /-- What the readers of the iterations so far held unread when they were
  dropped. -/
  unread : Bytes := []
deriving DecidableEq, Repr

namespace KeepaliveClient

def heardLine (client : KeepaliveClient) (responseBuf unread : Bytes) : KeepaliveClient :=
  if responseBuf = pongMessage then
    { phase := .awaitTick
      pongCount := client.pongCount + 1
      unread := client.unread ++ unread }
  else
    { client with phase := .returned (.unexpected responseBuf) }

def step (client : KeepaliveClient) (event : Event) : Option KeepaliveClient :=
  match client.phase with
  | .awaitTick =>
      match event with
      | .tick => some { client with phase := .writePing pingMessage }
      | _ => none
  | .writePing rest =>
      (pollWriteAll rest event).map fun
        | .written => { client with phase := .flushPing }
        | .remaining rest => { client with phase := .writePing rest }
        | .failed => { client with phase := .returned .sendFailed }
  | .flushPing =>
      (pollFlush event).map fun
        | .flushed => { client with phase := .readPong [] }
        | .failed => { client with phase := .returned .flushFailed }
  | .readPong responseBuf =>
      if event = .elapsed then
        some { client with phase := .returned .timedOut }
      else
        (pollReadUntil responseBuf event).map fun
          | .line responseBuf unread => client.heardLine responseBuf unread
          | .more responseBuf => { client with phase := .readPong responseBuf }
          | .eof responseBuf =>
              if responseBuf = [] then { client with phase := .returned .closed }
              else client.heardLine responseBuf []
          | .failed => { client with phase := .returned .readFailed }
  | .returned _ => none

def result (client : KeepaliveClient) : Option (Except Error Unit) :=
  match client.phase with
  -- each `break` leads to the `Ok(())` behind the loop
  | .returned _ => some (.ok ())
  | _ => none

/-- The loop owns its stream and drops it on return. -/
def party : Party KeepaliveClient Event where
  step := step
  io := some
  gone client :=
    match client.phase with
    | .returned _ => true
    | _ => false

end KeepaliveClient

/-! `run_control_channel_loop`, by its await points.  Every way out returns `Ok`. -/

namespace ControlChannelLoop

inductive Exit where
  | cancelled
  | closed
  | bye
  | unexpected (message : Bytes)
  | sendFailed
  | flushFailed
  | readFailed
  | timedOut
deriving DecidableEq, Repr

end ControlChannelLoop

inductive ControlChannelLoop where
  | readLine (buf : Bytes)
  | writePong (rest : Bytes)
  | flushPong
  | returned (exit : ControlChannelLoop.Exit)
deriving DecidableEq, Repr

namespace ControlChannelLoop

def start : ControlChannelLoop := .readLine []

/-- What follows a read that ended at a newline or at the end of the stream. -/
def heardMessage (buf : Bytes) : ControlChannelLoop :=
  if buf = [] then .returned .closed
  else if buf = pingMessage then .writePong pongMessage
  else if buf = connectionEndMessage then .returned .bye
  else .returned (.unexpected buf)

def step (state : ControlChannelLoop) (event : Event) : Option ControlChannelLoop :=
  match state with
  | .readLine buf =>
      if event = .elapsed then some (.returned .timedOut)
      else if event = .cancelled then some (.returned .cancelled)
      else
        -- one byte at a time
        (pollRead 1 event).map fun
          | .read bytes =>
              if bytes = [] ∨ bytes = [10] then heardMessage (buf ++ bytes)
              else .readLine (buf ++ bytes)
          | .failed => .returned .readFailed
  | .writePong rest =>
      (pollWriteAll rest event).map fun
        | .written => .flushPong
        | .remaining rest => .writePong rest
        | .failed => .returned .sendFailed
  | .flushPong =>
      (pollFlush event).map fun
        | .flushed => .readLine []
        | .failed => .returned .flushFailed
  | .returned _ => none

/-- Every way out but the one through the token's own cancellation cancels it. -/
def cancelsToken : ControlChannelLoop → Bool
  | .returned .cancelled => false
  | .returned _ => true
  | _ => false

def party : Party ControlChannelLoop Event where
  step := step
  io := some
  gone
    | .returned _ => true
    | _ => false

end ControlChannelLoop

end PortRedirect.Protocol
