import Mathlib.Data.UInt
import PortRedirect.Text.Utf8

namespace PortRedirect.Protocol

open PortRedirect.Text

/-! The constants of `PortRedirectProtocol`.  Durations are in milliseconds, the
grain of the timers they are given to. -/

def fromSecs (seconds : Nat) : Nat := 1000 * seconds

def connectionKeepaliveInterval : Nat := fromSecs 30
def connectionKeepaliveReadTimeout : Nat := fromSecs 30
def authenticationTimeout : Nat := fromSecs 10
def configurationTimeout : Nat := fromSecs 10
def challengeRequestBufferLength : Nat := 256
def quicStreamReadBufferSize : Nat := 64 * 1024

inductive IoError where
  | unexpectedEof
  | readFailed
  | writeFailed
  | bind
  | localAddr
  | reported (text : String)
deriving DecidableEq, Repr

/-- An `anyhow::Error`: a message of the program, an error of a library call
passed on by `?`, or either of them under a context. -/
inductive Error where
  | message (text : String)
  | io (error : IoError)
  | utf8
  | context (text : String) (source : Error)
deriving DecidableEq, Repr

def Error.cause : Error → Error
  | .context _ source => source.cause
  | error => error

/-! Time and randomness, as `protocol::utils` draws them. -/

/-- Nanoseconds since the UNIX epoch. -/
abbrev SystemTime := Int

/-- A time before the epoch counts as the epoch itself. -/
def elapsedMinutes (now : SystemTime) : UInt64 :=
  if 0 ≤ now then UInt64.ofNat (now.toNat / 1000000000) / 60 else 0

/-- What `generate_random_bytes` returns for 32 bytes: the system's random
source can fail, with its own text for the failure. -/
def generateRandomBytes (drawn : Except String (Vector UInt8 32)) :
    Except Error (Vector UInt8 32) :=
  match drawn with
  | .ok bytes => .ok bytes
  | .error reason => .error (.message ("failed to get random bytes: " ++ reason))

end PortRedirect.Protocol
