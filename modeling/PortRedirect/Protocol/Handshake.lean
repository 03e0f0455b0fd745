import PortRedirect.Protocol.Transcript
import PortRedirect.Transition.Run

namespace PortRedirect.Protocol

open PortRedirect.Text
open PortRedirect.Stream
open PortRedirect.Transition

/-! `server_authenticate` and `client_authenticate` at the two ends of one stream. -/

section Server

variable {sha512 : Bytes → Digest} {challenge psk : String}

namespace ServerAuthenticate

variable (sha512 challenge psk) in
theorem gone_iff {state : ServerAuthenticate} :
    (party sha512 challenge psk).gone state = true ↔
      ∃ error, state = .returned (.error error) := by
  cases state with
  | returned result => cases result <;> simp [party]
  | _ => simp [party]

def remaining : ServerAuthenticate → Nat
  | .writeRequest rest => rest.length + 139
  | .flushRequest => 138
  | .readResponse buffer => 129 - buffer.length + 8
  | .writeVerdict _ rest => rest.length + 2
  | .flushVerdict _ => 1
  | .returned _ => 0

variable (sha512 challenge psk) in
private theorem remaining_verify {buffer : Bytes} (full : buffer.length = 129) :
    (verify sha512 challenge psk buffer).remaining ≤ 8 := by
  rcases verify_cases sha512 challenge psk full with
    ⟨_, judged⟩ | ⟨_, judged | judged⟩
  all_goals
    rw [judged]
    decide

theorem remaining_step {state next : ServerAuthenticate} {event : Event}
    (taken : step sha512 challenge psk state event = some next) :
    next.remaining < state.remaining := by
  cases state with
  | writeRequest rest | writeVerdict accepted rest =>
      obtain ⟨outcome, polled, rfl⟩ := Option.map_eq_some_iff.mp taken
      rcases pollWriteAll_eq_some polled with
        ⟨rfl, rfl⟩ | ⟨bytes, tail, rfl, rfl, rfl, nonempty, _⟩ | ⟨rfl, rfl⟩
      · simp only [remaining]
        omega
      · have positive := List.length_pos_of_ne_nil nonempty
        simp only [remaining, List.length_append]
        omega
      · simp only [remaining]
        omega
  | flushRequest =>
      obtain ⟨outcome, polled, rfl⟩ := Option.map_eq_some_iff.mp taken
      rcases pollFlush_eq_some polled with ⟨rfl, rfl⟩ | ⟨rfl, rfl⟩ <;> decide
  | flushVerdict accepted =>
      obtain ⟨outcome, polled, rfl⟩ := Option.map_eq_some_iff.mp taken
      rcases pollFlush_eq_some polled with ⟨rfl, rfl⟩ | ⟨rfl, rfl⟩
      · cases accepted <;> decide
      · exact Nat.zero_lt_one
  | readResponse buffer =>
      obtain ⟨outcome, polled, rfl⟩ := Option.map_eq_some_iff.mp taken
      rcases pollReadExact_eq_some polled with
        ⟨bytes, rfl, nonempty, rfl, full⟩ | ⟨bytes, rfl, nonempty, rfl, short⟩ |
          ⟨rfl, rfl⟩ | ⟨rfl, rfl⟩
      · have positive := List.length_pos_of_ne_nil nonempty
        have after := remaining_verify sha512 challenge psk full
        refine Nat.lt_of_le_of_lt after ?_
        simp only [remaining]
        rw [List.length_append] at full
        omega
      · have positive := List.length_pos_of_ne_nil nonempty
        simp only [remaining, List.length_append] at short ⊢
        omega
      · simp only [remaining]
        omega
      · simp only [remaining]
        omega
  | returned result => simp [step] at taken

variable (sha512 challenge psk) in
/-- Nothing but the request and the verdict on the response is ever written. -/
def Written (received sent : Bytes) : Prop :=
  ∃ accepted, sent <+: utf8 (request challenge) ++ verdict accepted ∧
    (accepted = true → IsResponse sha512 challenge psk received)

theorem Transcript.written {state : ServerAuthenticate} {received sent : Bytes}
    (holds : Transcript sha512 challenge psk state received sent)
    (running : ∀ error, state ≠ .returned (.error error)) :
    Written sha512 challenge psk received sent := by
  cases state with
  | writeRequest rest =>
      refine ⟨false, ?_, by simp⟩
      rw [← holds.2, List.append_assoc]
      exact List.prefix_append _ _
  | flushRequest =>
      refine ⟨false, ?_, by simp⟩
      rw [holds.2]
      exact List.prefix_append _ _
  | readResponse buffer =>
      refine ⟨false, ?_, by simp⟩
      rw [holds.2.2]
      exact List.prefix_append _ _
  | writeVerdict accepted rest =>
      refine ⟨accepted, ?_, holds.2.1.mp⟩
      rw [← holds.2.2]
      exact List.prefix_append _ _
  | flushVerdict accepted =>
      refine ⟨accepted, ?_, holds.2.1.mp⟩
      rw [holds.2.2]
  | returned result =>
      cases result with
      | ok done =>
          refine ⟨true, ?_, fun _ => holds.1⟩
          rw [holds.2]
      | error error => exact absurd rfl (running error)

/-- A step that fails writes nothing.  It is a cut of the stream, or the response
is wrong. -/
theorem step_failed {state : ServerAuthenticate} {event : Event} {error : Error}
    {received sent : Bytes} (holds : Transcript sha512 challenge psk state received sent)
    (taken : step sha512 challenge psk state event = some (.returned (.error error))) :
    event.output = [] ∧ (event.input = [] ∨ received.length < 129) ∧
      (event.cut = true ∨ ((received ++ event.input).length = 129 ∧
        ¬ IsResponse sha512 challenge psk (received ++ event.input))) := by
  have after := transcript_step holds taken
  have cause : event.cut = true ∨ ((received ++ event.input).length = 129 ∧
      ¬ IsResponse sha512 challenge psk (received ++ event.input)) := by
    have cut {cause : IoError} (failed : error = .io cause) : event.cut = true := by
      subst failed
      rcases step_io taken with ⟨_, rfl⟩ | ⟨_, rfl⟩ | ⟨_, rfl⟩ <;> rfl
    rcases after with failed | failed | ⟨failed, _⟩ | wrong
    · exact .inl (cut failed)
    · exact .inl (cut failed)
    · exact .inl (cut failed)
    · exact .inr wrong
  cases state with
  | writeRequest rest | writeVerdict accepted rest =>
      obtain ⟨outcome, polled, ended⟩ := Option.map_eq_some_iff.mp taken
      rcases pollWriteAll_eq_some polled with
        ⟨rfl, rfl⟩ | ⟨bytes, tail, rfl, rfl, _⟩ | ⟨rfl, rfl⟩
      · cases ended
      · cases ended
      · exact ⟨rfl, .inl rfl, cause⟩
  | flushRequest | flushVerdict accepted =>
      obtain ⟨outcome, polled, ended⟩ := Option.map_eq_some_iff.mp taken
      rcases pollFlush_eq_some polled with ⟨rfl, rfl⟩ | ⟨rfl, rfl⟩
      · exact ⟨rfl, .inl rfl, cause⟩
      · exact ⟨rfl, .inl rfl, cause⟩
  | readResponse buffer =>
      obtain ⟨rfl, short, _⟩ := holds
      obtain ⟨outcome, polled, _⟩ := Option.map_eq_some_iff.mp taken
      rcases pollReadExact_eq_some polled with
        ⟨bytes, rfl, _⟩ | ⟨bytes, rfl, _⟩ | ⟨rfl, _⟩ | ⟨rfl, _⟩
      all_goals exact ⟨rfl, .inr short, cause⟩
  | returned result => simp [step] at taken

theorem written_step {state next : ServerAuthenticate} {event : Event}
    {received sent : Bytes} (holds : Transcript sha512 challenge psk state received sent)
    (written : Written sha512 challenge psk received sent)
    (taken : step sha512 challenge psk state event = some next) :
    Written sha512 challenge psk (received ++ event.input) (sent ++ event.output) := by
  by_cases failed : ∃ error, next = .returned (.error error)
  · obtain ⟨error, rfl⟩ := failed
    obtain ⟨silent, unread, _⟩ := step_failed holds taken
    obtain ⟨accepted, front, judged⟩ := written
    refine ⟨accepted, by rw [silent, List.append_nil]; exact front, ?_⟩
    intro accept
    have response := judged accept
    rcases unread with nothing | short
    · rw [nothing, List.append_nil]
      exact response
    · exact absurd response.length_eq (Nat.ne_of_lt short)
  · apply (transcript_step holds taken).written
    intro error ended
    exact failed ⟨error, ended⟩

end ServerAuthenticate

end Server

section Client

variable {sha512 : Bytes → Digest} {psk : String}

namespace ClientAuthenticate

variable (sha512 psk) in
theorem gone_iff {state : ClientAuthenticate} :
    (party sha512 psk).gone state = true ↔ ∃ error, state = .returned (.error error) := by
  cases state with
  | returned result => cases result <;> simp [party]
  | _ => simp [party]

def remaining : ClientAuthenticate → Nat
  | .readChallenge => 133
  | .writeResponse rest => rest.length + 3
  | .flushResponse => 2
  | .readReply => 1
  | .returned _ => 0

theorem length_response (sha512 : Bytes → Digest) (psk challenge : String) :
    (utf8 (response sha512 psk challenge)).length = 129 := by
  rw [response, utf8_append, List.length_append, length_expectedResponse]
  decide

/-! A server with the same key reads the whole response and accepts it. -/

theorem isResponse_response (sha512 : Bytes → Digest) (psk challenge : String) :
    IsResponse sha512 challenge psk (utf8 (response sha512 psk challenge)) := by
  refine ⟨10, by decide, ?_⟩
  rw [response, utf8_append]
  rfl

theorem pollReadExact_response (sha512 : Bytes → Digest) (psk challenge : String) :
    pollReadExact 129 [] (.received (utf8 (response sha512 psk challenge))) =
      some (.filled (utf8 (response sha512 psk challenge))) := by
  have whole := length_response sha512 psk challenge
  exact pollReadExact_filled (List.ne_nil_of_length_pos (by omega)) whole

theorem verify_response (sha512 : Bytes → Digest) (psk challenge : String) :
    ServerAuthenticate.verify sha512 challenge psk
      (utf8 (response sha512 psk challenge)) = .writeVerdict true (verdict true) := by
  rcases ServerAuthenticate.verify_cases sha512 challenge psk
      (length_response sha512 psk challenge) with ⟨_, judged⟩ | ⟨wrong, _⟩
  · exact judged
  · exact absurd (isResponse_response sha512 psk challenge) wrong

def answering : ClientAuthenticate → Bool
  | .writeResponse _ | .flushResponse | .readReply => true
  | _ => false

theorem Transcript.length_le {state : ClientAuthenticate} {received sent : Bytes}
    (holds : Transcript sha512 psk state received sent)
    (running : ∀ result, state ≠ .returned result) : sent.length ≤ 129 := by
  cases state with
  | readChallenge =>
      rw [holds.2]
      exact Nat.zero_le _
  | writeResponse rest =>
      obtain ⟨challenge, _, written⟩ := holds
      have size := congrArg List.length written
      rw [List.length_append, length_response] at size
      omega
  | flushResponse | readReply =>
      obtain ⟨challenge, _, written⟩ := holds
      rw [written, length_response]
  | returned result => exact absurd rfl (running result)

theorem step_cases {state next : ClientAuthenticate} {event : Event}
    (taken : step sha512 psk state event = some next) :
    (state = .readChallenge ∧ ∃ message, event = .received message ∧
      ((∃ challenge, heardChallenge message = .ok challenge ∧
          next = .writeResponse (utf8 (response sha512 psk challenge))) ∨
        ∃ error, heardChallenge message = .error error ∧
          next = .returned (.error error))) ∨
    (state = .readReply ∧ ∃ reply, event = .received reply ∧
      next = .returned (heardReply reply)) ∨
    (state.answering = true ∧ next.answering = true ∧ event.input = [] ∧
      next.remaining < state.remaining) ∨
    (event.cut = true ∧ (state = .readChallenge ∨ state.answering = true) ∧
      ∃ error, next = .returned (.error error)) := by
  cases state with
  | readChallenge =>
      obtain ⟨outcome, polled, rfl⟩ := Option.map_eq_some_iff.mp taken
      rcases pollRead_eq_some polled with
        ⟨message, rfl, rfl, _, _⟩ | ⟨rfl, rfl⟩ | ⟨rfl, rfl⟩
      · refine .inl ⟨rfl, message, rfl, ?_⟩
        cases heard : heardChallenge message with
        | ok challenge => exact .inl ⟨challenge, rfl, by simp only [heard]⟩
        | error error => exact .inr ⟨error, rfl, by simp only [heard]⟩
      · refine .inr (.inr (.inr ⟨rfl, .inl rfl, ?_⟩))
        exact ⟨.message "Unexpected authentication prompt", rfl⟩
      · exact .inr (.inr (.inr ⟨rfl, .inl rfl, _, rfl⟩))
  | writeResponse rest =>
      obtain ⟨outcome, polled, rfl⟩ := Option.map_eq_some_iff.mp taken
      rcases pollWriteAll_eq_some polled with
        ⟨rfl, rfl⟩ | ⟨bytes, tail, rfl, rfl, rfl, nonempty, _⟩ | ⟨rfl, rfl⟩
      · refine .inr (.inr (.inl ⟨rfl, rfl, rfl, ?_⟩))
        simp only [remaining]
        omega
      · refine .inr (.inr (.inl ⟨rfl, rfl, rfl, ?_⟩))
        have positive := List.length_pos_of_ne_nil nonempty
        simp only [remaining, List.length_append]
        omega
      · exact .inr (.inr (.inr ⟨rfl, .inr rfl, _, rfl⟩))
  | flushResponse =>
      obtain ⟨outcome, polled, rfl⟩ := Option.map_eq_some_iff.mp taken
      rcases pollFlush_eq_some polled with ⟨rfl, rfl⟩ | ⟨rfl, rfl⟩
      · exact .inr (.inr (.inl ⟨rfl, rfl, rfl, by decide⟩))
      · exact .inr (.inr (.inr ⟨rfl, .inr rfl, _, rfl⟩))
  | readReply =>
      obtain ⟨outcome, polled, rfl⟩ := Option.map_eq_some_iff.mp taken
      rcases pollRead_eq_some polled with
        ⟨reply, rfl, rfl, _, _⟩ | ⟨rfl, rfl⟩ | ⟨rfl, rfl⟩
      · exact .inr (.inl ⟨rfl, reply, rfl, rfl⟩)
      · refine .inr (.inr (.inr ⟨rfl, .inr rfl, ?_⟩))
        exact ⟨.message ("Server rejected authentication: " ++ trim ""), rfl⟩
      · exact .inr (.inr (.inr ⟨rfl, .inr rfl, _, rfl⟩))
  | returned result => simp [step] at taken

theorem remaining_step {state next : ClientAuthenticate} {event : Event}
    (taken : step sha512 psk state event = some next) :
    next.remaining < state.remaining := by
  rcases step_cases taken with
    ⟨rfl, message, rfl, ⟨challenge, _, rfl⟩ | ⟨error, _, rfl⟩⟩ | ⟨rfl, reply, rfl, rfl⟩ |
      ⟨_, _, _, less⟩ | ⟨_, rfl | waiting, error, rfl⟩
  · simp only [remaining, length_response]
    omega
  · exact Nat.zero_lt_succ _
  · exact Nat.zero_lt_one
  · exact less
  · exact Nat.zero_lt_succ _
  · cases state with
    | writeResponse rest | flushResponse | readReply => exact Nat.zero_lt_succ _
    | _ => cases waiting

end ClientAuthenticate

end Client

end PortRedirect.Protocol
