import PortRedirect.Protocol.Challenge

namespace PortRedirect.Protocol

open PortRedirect.Text
open PortRedirect.Stream

/-! What the two sides of the authentication have read and written in each of
their states, whatever is at the other end of the stream. -/

/-- The expected response followed by one ASCII white-space byte. -/
def IsResponse (sha512 : Bytes → Digest) (challenge psk : String) (buffer : Bytes) :
    Prop :=
  ∃ byte, IsAsciiWhitespace byte ∧
    buffer = utf8 (expectedResponse sha512 challenge psk) ++ [byte]

section Server

variable {sha512 : Bytes → Digest} {challenge psk : String}

theorem length_expectedResponse (sha512 : Bytes → Digest) (challenge psk : String) :
    (utf8 (expectedResponse sha512 challenge psk)).length = 128 := by
  rw [expectedResponse, length_utf8_hexEncode, Vector.length_toList]

theorem IsResponse.length_eq {buffer : Bytes}
    (response : IsResponse sha512 challenge psk buffer) : buffer.length = 129 := by
  obtain ⟨byte, _, rfl⟩ := response
  rw [List.length_append, length_expectedResponse, List.length_singleton]

theorem trimmed_iff_isResponse {buffer : Bytes} (full : buffer.length = 129) :
    (fromUtf8 buffer).map trimEnd = some (expectedResponse sha512 challenge psk) ↔
      IsResponse sha512 challenge psk buffer := by
  apply trimEnd_decoded_iff
  · exact hexEncode_solid _
  · rw [full, length_expectedResponse]

namespace ServerAuthenticate

/-- A full buffer is judged by whether it is the response, and one that does not
decode never is. -/
theorem verify_cases (sha512 : Bytes → Digest) (challenge psk : String)
    {buffer : Bytes} (full : buffer.length = 129) :
    (IsResponse sha512 challenge psk buffer ∧
      verify sha512 challenge psk buffer = .writeVerdict true (verdict true)) ∨
    (¬ IsResponse sha512 challenge psk buffer ∧
      (verify sha512 challenge psk buffer = .returned (.error .utf8) ∨
        verify sha512 challenge psk buffer = .writeVerdict false (verdict false))) := by
  rw [← trimmed_iff_isResponse full]
  unfold verify
  cases decoded : fromUtf8 buffer with
  | none =>
      refine .inr ⟨?_, .inl rfl⟩
      simp
  | some response =>
      by_cases same : trimEnd response = expectedResponse sha512 challenge psk
      · refine .inl ⟨by rw [Option.map_some, same], ?_⟩
        simp [same]
      · refine .inr ⟨?_, .inr ?_⟩
        · intro trimmed
          exact same (Option.some.inj trimmed)
        · simp [same]

variable (sha512 challenge psk) in
/-- The server reads nothing before its request is out, exactly 129 bytes before
its verdict, and nothing after them. -/
def Transcript : ServerAuthenticate → Bytes → Bytes → Prop
  | .writeRequest rest, received, sent =>
      received = [] ∧ sent ++ rest = utf8 (request challenge)
  | .flushRequest, received, sent =>
      received = [] ∧ sent = utf8 (request challenge)
  | .readResponse buffer, received, sent =>
      received = buffer ∧ buffer.length < 129 ∧ sent = utf8 (request challenge)
  | .writeVerdict accepted rest, received, sent =>
      received.length = 129 ∧
        (accepted = true ↔ IsResponse sha512 challenge psk received) ∧
        sent ++ rest = utf8 (request challenge) ++ verdict accepted
  | .flushVerdict accepted, received, sent =>
      received.length = 129 ∧
        (accepted = true ↔ IsResponse sha512 challenge psk received) ∧
        sent = utf8 (request challenge) ++ verdict accepted
  | .returned (.ok ()), received, sent =>
      IsResponse sha512 challenge psk received ∧
        sent = utf8 (request challenge) ++ verdict true
  | .returned (.error error), received, _ =>
      error = .io .readFailed ∨ error = .io .writeFailed ∨
        (error = .io .unexpectedEof ∧ received.length < 129) ∨
        (received.length = 129 ∧ ¬ IsResponse sha512 challenge psk received)

theorem transcript_start (randomBytes : Vector UInt8 32) (coarseUnixTime : UInt64) :
    Transcript sha512 (Protocol.challenge randomBytes coarseUnixTime) psk
      (start (Protocol.challenge randomBytes coarseUnixTime)) [] [] := by
  rw [start_challenge]
  exact ⟨rfl, rfl⟩

private theorem transcript_verify {buffer : Bytes} (full : buffer.length = 129) :
    Transcript sha512 challenge psk (verify sha512 challenge psk buffer) buffer
      (utf8 (request challenge)) := by
  rcases verify_cases sha512 challenge psk full with
    ⟨response, judged⟩ | ⟨wrong, judged | judged⟩
  · rw [judged]
    exact ⟨full, by simp [response], rfl⟩
  · rw [judged]
    exact .inr (.inr (.inr ⟨full, wrong⟩))
  · rw [judged]
    exact ⟨full, by simp [wrong], rfl⟩

theorem transcript_step {state next : ServerAuthenticate} {event : Event}
    {received sent : Bytes} (holds : Transcript sha512 challenge psk state received sent)
    (taken : step sha512 challenge psk state event = some next) :
    Transcript sha512 challenge psk next (received ++ event.input)
      (sent ++ event.output) := by
  cases state with
  | writeRequest rest =>
      obtain ⟨nothing, written⟩ := holds
      obtain ⟨outcome, polled, rfl⟩ := Option.map_eq_some_iff.mp taken
      rcases pollWriteAll_eq_some polled with
        ⟨rfl, rfl⟩ | ⟨bytes, tail, rfl, rfl, rfl, _, _⟩ | ⟨rfl, rfl⟩
      · exact ⟨by simpa using nothing, written⟩
      · exact ⟨by simpa using nothing, by simpa using written⟩
      · exact .inr (.inl rfl)
  | flushRequest =>
      obtain ⟨outcome, polled, rfl⟩ := Option.map_eq_some_iff.mp taken
      rcases pollFlush_eq_some polled with ⟨rfl, rfl⟩ | ⟨rfl, rfl⟩
      · obtain ⟨nothing, written⟩ := holds
        exact ⟨by simpa using nothing, by decide, by simpa using written⟩
      · exact .inr (.inl rfl)
  | readResponse buffer =>
      obtain ⟨rfl, short, written⟩ := holds
      obtain ⟨outcome, polled, rfl⟩ := Option.map_eq_some_iff.mp taken
      rcases pollReadExact_eq_some polled with
        ⟨bytes, rfl, _, rfl, full⟩ | ⟨bytes, rfl, _, rfl, short⟩ | ⟨rfl, rfl⟩ |
          ⟨rfl, rfl⟩
      · simp only [Event.input, Event.output, List.append_nil, written]
        exact transcript_verify full
      · exact ⟨rfl, short, by simpa using written⟩
      · exact .inr (.inr (.inl ⟨rfl, by simpa using short⟩))
      · exact .inl rfl
  | writeVerdict accepted rest =>
      obtain ⟨full, judged, written⟩ := holds
      obtain ⟨outcome, polled, rfl⟩ := Option.map_eq_some_iff.mp taken
      rcases pollWriteAll_eq_some polled with
        ⟨rfl, rfl⟩ | ⟨bytes, tail, rfl, rfl, rfl, _, _⟩ | ⟨rfl, rfl⟩
      · exact ⟨by simpa using full, by simpa using judged, by simpa using written⟩
      · exact ⟨by simpa using full, by simpa using judged, by simpa using written⟩
      · exact .inr (.inl rfl)
  | flushVerdict accepted =>
      obtain ⟨full, judged, written⟩ := holds
      obtain ⟨outcome, polled, rfl⟩ := Option.map_eq_some_iff.mp taken
      rcases pollFlush_eq_some polled with ⟨rfl, rfl⟩ | ⟨rfl, rfl⟩
      · cases accepted with
        | true => exact ⟨by simpa using judged, by simpa using written⟩
        | false =>
            refine .inr (.inr (.inr ⟨by simpa using full, ?_⟩))
            simpa using judged
      · exact .inr (.inl rfl)
  | returned result => simp [step] at taken

theorem step_enabled {state : ServerAuthenticate} {received sent : Bytes}
    (holds : Transcript sha512 challenge psk state received sent)
    (running : ∀ result, state ≠ .returned result) (inbound outbound : Channel) :
    ∃ event next after, event.fault = false ∧
      step sha512 challenge psk state event = some next ∧
      transfer event inbound outbound true = some after := by
  cases state with
  | writeRequest rest =>
      refine ⟨.sent rest, .flushRequest, _, rfl, ?_, rfl⟩
      rw [step, pollWriteAll_sent_all, Option.map_some]
  | writeVerdict accepted rest =>
      refine ⟨.sent rest, .flushVerdict accepted, _, rfl, ?_, rfl⟩
      rw [step, pollWriteAll_sent_all, Option.map_some]
  | flushRequest | flushVerdict accepted => exact ⟨.flushed, _, _, rfl, rfl, rfl⟩
  | readResponse buffer =>
      obtain ⟨event, outcome, after, sound, polled, moved⟩ :=
        pollReadExact_enabled holds.2.1 (.inr rfl) outbound
      obtain ⟨next, taken⟩ : ∃ next,
          step sha512 challenge psk (.readResponse buffer) event = some next := by
        simp [step, polled]
      exact ⟨event, next, after, sound, taken, moved⟩
  | returned result => exact absurd rfl (running result)

theorem step_fault {state next : ServerAuthenticate} {event : Event}
    (fault : event.fault = true ∨ event = .eof)
    (taken : step sha512 challenge psk state event = some next) :
    ∃ error, next = .returned (.error error) := by
  cases state with
  | writeRequest rest | writeVerdict accepted rest =>
      obtain ⟨outcome, polled, rfl⟩ := Option.map_eq_some_iff.mp taken
      rcases pollWriteAll_eq_some polled with
        ⟨rfl, rfl⟩ | ⟨bytes, tail, rfl, rfl, _⟩ | ⟨rfl, rfl⟩
      · simp [Event.fault] at fault
      · simp [Event.fault] at fault
      · exact ⟨_, rfl⟩
  | flushRequest | flushVerdict accepted =>
      obtain ⟨outcome, polled, rfl⟩ := Option.map_eq_some_iff.mp taken
      rcases pollFlush_eq_some polled with ⟨rfl, rfl⟩ | ⟨rfl, rfl⟩
      · simp [Event.fault] at fault
      · exact ⟨_, rfl⟩
  | readResponse buffer =>
      obtain ⟨outcome, polled, rfl⟩ := Option.map_eq_some_iff.mp taken
      rcases pollReadExact_eq_some polled with
        ⟨bytes, rfl, _⟩ | ⟨bytes, rfl, _⟩ | ⟨rfl, rfl⟩ | ⟨rfl, rfl⟩
      · simp [Event.fault] at fault
      · simp [Event.fault] at fault
      · exact ⟨_, rfl⟩
      · exact ⟨_, rfl⟩
  | returned result => simp [step] at taken

theorem step_io {state : ServerAuthenticate} {event : Event} {error : IoError}
    (taken : step sha512 challenge psk state event =
      some (.returned (.error (.io error)))) :
    (error = .readFailed ∧ event = .readFailed) ∨
      (error = .writeFailed ∧ event = .writeFailed) ∨
      (error = .unexpectedEof ∧ event = .eof) := by
  cases state with
  | writeRequest rest | writeVerdict accepted rest =>
      obtain ⟨outcome, polled, ended⟩ := Option.map_eq_some_iff.mp taken
      rcases pollWriteAll_eq_some polled with
        ⟨rfl, rfl⟩ | ⟨bytes, tail, rfl, rfl, _⟩ | ⟨rfl, rfl⟩
      · cases ended
      · cases ended
      · cases ended
        exact .inr (.inl ⟨rfl, rfl⟩)
  | flushRequest =>
      obtain ⟨outcome, polled, ended⟩ := Option.map_eq_some_iff.mp taken
      rcases pollFlush_eq_some polled with ⟨rfl, rfl⟩ | ⟨rfl, rfl⟩
      · cases ended
      · cases ended
        exact .inr (.inl ⟨rfl, rfl⟩)
  | flushVerdict accepted =>
      obtain ⟨outcome, polled, ended⟩ := Option.map_eq_some_iff.mp taken
      rcases pollFlush_eq_some polled with ⟨rfl, rfl⟩ | ⟨rfl, rfl⟩
      · cases accepted <;> cases ended
      · cases ended
        exact .inr (.inl ⟨rfl, rfl⟩)
  | readResponse buffer =>
      obtain ⟨outcome, polled, ended⟩ := Option.map_eq_some_iff.mp taken
      rcases pollReadExact_eq_some polled with
        ⟨bytes, rfl, _, rfl, full⟩ | ⟨bytes, rfl, _, rfl, _⟩ | ⟨rfl, rfl⟩ | ⟨rfl, rfl⟩
      · rcases verify_cases sha512 challenge psk full with
          ⟨_, judged⟩ | ⟨_, judged | judged⟩
        · simp [judged] at ended
        · simp [judged] at ended
        · simp [judged] at ended
      · cases ended
      · cases ended
        exact .inr (.inr ⟨rfl, rfl⟩)
      · cases ended
        exact .inl ⟨rfl, rfl⟩
  | returned result => simp [step] at taken

theorem party_preserves :
    (party sha512 challenge psk).Preserves (Transcript sha512 challenge psk) := by
  intro state event next received sent holds taken
  exact transcript_step holds taken

end ServerAuthenticate

end Server

section Client

variable {sha512 : Bytes → Digest} {psk : String}

namespace ClientAuthenticate

variable (sha512 psk) in
/-- The client answers the challenge that its first read held and believes the
reply that its second read held. -/
def Transcript : ClientAuthenticate → Bytes → Bytes → Prop
  | .readChallenge, received, sent => received = [] ∧ sent = []
  | .writeResponse rest, received, sent =>
      ∃ challenge, heardChallenge received = .ok challenge ∧
        sent ++ rest = utf8 (response sha512 psk challenge)
  | .flushResponse, received, sent | .readReply, received, sent =>
      ∃ challenge, heardChallenge received = .ok challenge ∧
        sent = utf8 (response sha512 psk challenge)
  | .returned (.ok ()), received, sent =>
      ∃ message reply challenge, received = message ++ reply ∧
        heardChallenge message = .ok challenge ∧
        sent = utf8 (response sha512 psk challenge) ∧ heardReply reply = .ok ()
  | .returned (.error error), received, sent =>
      error = .io .readFailed ∨ error = .io .writeFailed ∨
        (heardChallenge received = .error error ∧ sent = []) ∨
        ∃ message reply challenge, received = message ++ reply ∧
          heardChallenge message = .ok challenge ∧
          sent = utf8 (response sha512 psk challenge) ∧
          heardReply reply = .error error

theorem transcript_start : Transcript sha512 psk start [] [] := ⟨rfl, rfl⟩

private theorem transcript_challenge (message : Bytes) :
    Transcript sha512 psk
      (match heardChallenge message with
        | .ok challenge => .writeResponse (utf8 (response sha512 psk challenge))
        | .error error => .returned (.error error)) message [] := by
  cases heard : heardChallenge message with
  | ok challenge => exact ⟨challenge, heard, rfl⟩
  | error error => exact .inr (.inr (.inl ⟨heard, rfl⟩))

private theorem transcript_reply {message sent : Bytes} {challenge : String}
    (heard : heardChallenge message = .ok challenge)
    (written : sent = utf8 (response sha512 psk challenge)) (reply : Bytes) :
    Transcript sha512 psk (.returned (heardReply reply)) (message ++ reply) sent := by
  cases outcome : heardReply reply with
  | ok result => exact ⟨message, reply, challenge, rfl, heard, written, outcome⟩
  | error error =>
      exact .inr (.inr (.inr ⟨message, reply, challenge, rfl, heard, written, outcome⟩))

theorem transcript_step {state next : ClientAuthenticate} {event : Event}
    {received sent : Bytes} (holds : Transcript sha512 psk state received sent)
    (taken : step sha512 psk state event = some next) :
    Transcript sha512 psk next (received ++ event.input) (sent ++ event.output) := by
  cases state with
  | readChallenge =>
      obtain ⟨rfl, rfl⟩ := holds
      obtain ⟨outcome, polled, rfl⟩ := Option.map_eq_some_iff.mp taken
      rcases pollRead_eq_some polled with
        ⟨bytes, rfl, rfl, _, _⟩ | ⟨rfl, rfl⟩ | ⟨rfl, rfl⟩
      · exact transcript_challenge bytes
      · exact transcript_challenge []
      · exact .inl rfl
  | writeResponse rest =>
      obtain ⟨challenge, heard, written⟩ := holds
      obtain ⟨outcome, polled, rfl⟩ := Option.map_eq_some_iff.mp taken
      rcases pollWriteAll_eq_some polled with
        ⟨rfl, rfl⟩ | ⟨bytes, tail, rfl, rfl, rfl, _, _⟩ | ⟨rfl, rfl⟩
      · exact ⟨challenge, by simpa using heard, written⟩
      · exact ⟨challenge, by simpa using heard, by simpa using written⟩
      · exact .inr (.inl rfl)
  | flushResponse =>
      obtain ⟨challenge, heard, written⟩ := holds
      obtain ⟨outcome, polled, rfl⟩ := Option.map_eq_some_iff.mp taken
      rcases pollFlush_eq_some polled with ⟨rfl, rfl⟩ | ⟨rfl, rfl⟩
      · exact ⟨challenge, by simpa using heard, by simpa using written⟩
      · exact .inr (.inl rfl)
  | readReply =>
      obtain ⟨challenge, heard, written⟩ := holds
      obtain ⟨outcome, polled, rfl⟩ := Option.map_eq_some_iff.mp taken
      rcases pollRead_eq_some polled with
        ⟨bytes, rfl, rfl, _, _⟩ | ⟨rfl, rfl⟩ | ⟨rfl, rfl⟩
      · exact transcript_reply heard (by simpa using written) bytes
      · exact transcript_reply heard (by simpa using written) []
      · exact .inl rfl
  | returned result => simp [step] at taken

theorem party_preserves : (party sha512 psk).Preserves (Transcript sha512 psk) := by
  intro state event next received sent holds taken
  exact transcript_step holds taken

end ClientAuthenticate

end Client

end PortRedirect.Protocol
