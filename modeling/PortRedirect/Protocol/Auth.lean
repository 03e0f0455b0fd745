import PortRedirect.Protocol.Basic
import PortRedirect.Stream.Duplex
import PortRedirect.Text.Digits

namespace PortRedirect.Protocol

open PortRedirect.Text
open PortRedirect.Stream

/-! The challenge and the text that answers it. -/

abbrev Digest := Vector UInt8 64

def challenge (randomBytes : Vector UInt8 32) (coarseUnixTime : UInt64) : String :=
  "this-is-the-challenge-" ++ hexEncode randomBytes.toList ++ "-at-" ++
    decimal coarseUnixTime.toNat ++ "-pr-v1"

def request (challenge : String) : String :=
  "WHO THE HECK ARE YOU?\n" ++ challenge ++ "\n"

/-- Both sides hash the challenge and then the key, with nothing in between. -/
def hashInput (challenge psk : String) : Bytes := utf8 challenge ++ utf8 psk

def expectedResponse (sha512 : Bytes → Digest) (challenge psk : String) : String :=
  hexEncode (sha512 (hashInput challenge psk)).toList

/-- What the server writes once it has compared the response. -/
def verdict (accepted : Bool) : Bytes :=
  if accepted then utf8 "HAPPY\n" else utf8 "BAD\n"

/-! `server_authenticate`, by its await points. -/

inductive ServerAuthenticate where
  | writeRequest (rest : Bytes)
  | flushRequest
  | readResponse (buffer : Bytes)
  | writeVerdict (accepted : Bool) (rest : Bytes)
  | flushVerdict (accepted : Bool)
  | returned (result : Except Error Unit)

namespace ServerAuthenticate

def start (challenge : String) : ServerAuthenticate :=
  if challengeRequestBufferLength < (utf8 (request challenge)).length then
    .returned (.error (.message "Challenge string exceeds maximum length"))
  else
    .writeRequest (utf8 (request challenge))

variable (sha512 : Bytes → Digest) (challenge psk : String)

/-- Steps 4 and 5: the buffer must be the expected response, white space at its
end aside. -/
def verify (buffer : Bytes) : ServerAuthenticate :=
  match fromUtf8 buffer with
  | none => .returned (.error .utf8)
  | some response =>
      let accepted := decide (trimEnd response = expectedResponse sha512 challenge psk)
      .writeVerdict accepted (verdict accepted)

def step (state : ServerAuthenticate) (event : Event) : Option ServerAuthenticate :=
  match state with
  | .writeRequest rest =>
      (pollWriteAll rest event).map fun
        | .written => .flushRequest
        | .remaining rest => .writeRequest rest
        | .failed => .returned (.error (.io .writeFailed))
  | .flushRequest =>
      (pollFlush event).map fun
        | .flushed => .readResponse []
        | .failed => .returned (.error (.io .writeFailed))
  | .readResponse buffer =>
      -- 128 hex digits and the newline
      (pollReadExact 129 buffer event).map fun
        | .filled buffer => verify sha512 challenge psk buffer
        | .more buffer => .readResponse buffer
        | .unexpectedEof => .returned (.error (.io .unexpectedEof))
        | .failed => .returned (.error (.io .readFailed))
  | .writeVerdict accepted rest =>
      (pollWriteAll rest event).map fun
        | .written => .flushVerdict accepted
        | .remaining rest => .writeVerdict accepted rest
        | .failed => .returned (.error (.io .writeFailed))
  | .flushVerdict accepted =>
      (pollFlush event).map fun
        | .flushed =>
            if accepted then .returned (.ok ())
            else .returned (.error
              (.message "Authentication failed: response mismatch"))
        | .failed => .returned (.error (.io .writeFailed))
  | .returned _ => none

def party : Party ServerAuthenticate Event where
  step := step sha512 challenge psk
  io := some
  gone
    | .returned (.error _) => true
    | _ => false

end ServerAuthenticate

/-! `client_authenticate`, by its await points. -/

inductive ClientAuthenticate where
  | readChallenge
  | writeResponse (rest : Bytes)
  | flushResponse
  | readReply
  | returned (result : Except Error Unit)

/-- Step 1 after the read: the prompt must be the first line, the challenge is
the second, wherever the read happened to stop. -/
def heardChallenge (message : Bytes) : Except Error String :=
  match fromUtf8 message with
  | none => .error .utf8
  | some message =>
      match lines message with
      | [] => .error (.message "Unexpected authentication prompt")
      | prompt :: rest =>
          if prompt = "WHO THE HECK ARE YOU?" then
            match rest with
            | [] => .error (.message "Missing challenge in authentication message")
            | challenge :: _ => .ok challenge
          else
            .error (.message "Unexpected authentication prompt")

def heardReply (reply : Bytes) : Except Error Unit :=
  match fromUtf8 reply with
  | none => .error .utf8
  | some reply =>
      if "HAPPY".toList <+: reply.toList then .ok ()
      else .error (.message ("Server rejected authentication: " ++ trim reply))

namespace ClientAuthenticate

def start : ClientAuthenticate := .readChallenge

variable (sha512 : Bytes → Digest) (psk : String)

def response (challenge : String) : String :=
  expectedResponse sha512 challenge psk ++ "\n"

def step (state : ClientAuthenticate) (event : Event) : Option ClientAuthenticate :=
  match state with
  | .readChallenge =>
      (pollRead challengeRequestBufferLength event).map fun
        | .read message =>
            match heardChallenge message with
            | .ok challenge => .writeResponse (utf8 (response sha512 psk challenge))
            | .error error => .returned (.error error)
        | .failed => .returned (.error (.io .readFailed))
  | .writeResponse rest =>
      (pollWriteAll rest event).map fun
        | .written => .flushResponse
        | .remaining rest => .writeResponse rest
        | .failed => .returned (.error (.io .writeFailed))
  | .flushResponse =>
      (pollFlush event).map fun
        | .flushed => .readReply
        | .failed => .returned (.error (.io .writeFailed))
  | .readReply =>
      (pollRead 16 event).map fun
        | .read reply => .returned (heardReply reply)
        | .failed => .returned (.error (.io .readFailed))
  | .returned _ => none

def party : Party ClientAuthenticate Event where
  step := step sha512 psk
  io := some
  gone
    | .returned (.error _) => true
    | _ => false

end ClientAuthenticate

end PortRedirect.Protocol
