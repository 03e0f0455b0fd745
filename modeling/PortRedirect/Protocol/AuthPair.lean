import PortRedirect.Protocol.Handshake

namespace PortRedirect.Protocol

open PortRedirect.Text
open PortRedirect.Stream
open PortRedirect.Transition

/-! The two sides of the authentication on one stream.  The transport decides how
much each read returns; the client has two reads, and their sizes settle the rest. -/

abbrev AuthPair := Duplex ServerAuthenticate ClientAuthenticate

namespace AuthPair

section

variable (sha512 : Bytes → Digest) (challenge serverPsk clientPsk : String)

def step : AuthPair → Event ⊕ Event → Option AuthPair :=
  Duplex.step (ServerAuthenticate.party sha512 challenge serverPsk)
    (ClientAuthenticate.party sha512 clientPsk)

def start : AuthPair where
  left := .start challenge
  right := .start

end

def clientReads (events : List (Event ⊕ Event)) : List Bytes :=
  events.filterMap fun
    | .inr (.received bytes) => some bytes
    | _ => none

def serverCut (events : List (Event ⊕ Event)) : Bool :=
  events.any fun
    | .inl event => event.cut
    | .inr _ => false

section

variable (sha512 : Bytes → Digest) (challenge serverPsk clientPsk : String)

/-- The server has turned a whole response down. -/
def Refused (pair : AuthPair) : Prop :=
  (∃ error, pair.left = .returned (.error error)) ∧
    pair.toLeft.delivered.length = 129 ∧
    ¬ IsResponse sha512 challenge serverPsk pair.toLeft.delivered

/-- How far the client is, by its reads. -/
def Heard (reads : List Bytes) (pair : AuthPair) : Prop :=
  match pair.right with
  | .readChallenge => reads = []
  | .writeResponse _ | .flushResponse | .readReply =>
      reads = [pair.toRight.delivered] ∧
        pair.toRight.delivered <+: utf8 (request challenge)
  | .returned result =>
      ∃ message, message <+: utf8 (request challenge) ∧
        ((reads = [message] ∧ pair.toLeft.sent = [] ∧
            ∃ error, heardChallenge message = .error error ∧ result = .error error) ∨
          ∃ heard, heardChallenge message = .ok heard ∧
            pair.toLeft.sent =
              utf8 (ClientAuthenticate.response sha512 clientPsk heard) ∧
            ((∃ reply, reads = [message, reply] ∧
                pair.toRight.delivered = message ++ reply ∧
                result = heardReply reply) ∨
              (reads = [message] ∧ (∃ error, result = .error error) ∧
                pair.Refused sha512 challenge serverPsk)))

structure Handshake (events : List (Event ⊕ Event)) (pair : AuthPair) : Prop where
  server : pair.left.Transcript sha512 challenge serverPsk pair.toLeft.delivered
    pair.toRight.sent
  client : pair.right.Transcript sha512 clientPsk pair.toRight.delivered pair.toLeft.sent
  written : ServerAuthenticate.Written sha512 challenge serverPsk pair.toLeft.delivered
    pair.toRight.sent
  heard : pair.Heard sha512 challenge serverPsk clientPsk (clientReads events)
  /-- The server fails only by its own verdict or after the client has. -/
  failed : ∀ error, pair.left = .returned (.error error) →
    pair.Refused sha512 challenge serverPsk ∨
      (serverCut events = true ∧ ∃ error, pair.right = .returned (.error error))
  cut : serverCut events = true → ∃ error, pair.left = .returned (.error error)

end

namespace Handshake

variable {sha512 : Bytes → Digest} {serverPsk clientPsk : String} {challenge : String}
  {events : List (Event ⊕ Event)} {pair next : AuthPair} {event : Event}

theorem start (randomBytes : Vector UInt8 32) (coarseUnixTime : UInt64) :
    Handshake sha512 (Protocol.challenge randomBytes coarseUnixTime) serverPsk clientPsk []
      (AuthPair.start (Protocol.challenge randomBytes coarseUnixTime)) where
  server := by
    simp only [AuthPair.start, Channel.sent, List.append_nil]
    exact ServerAuthenticate.transcript_start randomBytes coarseUnixTime
  client := ClientAuthenticate.transcript_start
  written := by
    apply (ServerAuthenticate.transcript_start randomBytes coarseUnixTime).written
    intro error ended
    rw [start_challenge] at ended
    cases ended
  heard := rfl
  failed := by
    intro error ended
    simp only [AuthPair.start, start_challenge] at ended
    cases ended
  cut := fun cut => by cases cut

theorem clientReads_append_inl (events : List (Event ⊕ Event)) (event : Event) :
    clientReads (events ++ [.inl event]) = clientReads events := by
  simp [clientReads]

theorem clientReads_append_received (events : List (Event ⊕ Event)) (bytes : Bytes) :
    clientReads (events ++ [.inr (.received bytes)]) = clientReads events ++ [bytes] := by
  simp [clientReads]

theorem clientReads_append_quiet (events : List (Event ⊕ Event))
    (quiet : event.input = [] ∨ event.cut = true) (unread : event ≠ .received []) :
    clientReads (events ++ [.inr event]) = clientReads events := by
  cases event with
  | received bytes =>
      rcases quiet with nothing | cut
      · exact absurd (by rw [show bytes = [] from nothing]) unread
      · cases cut
  | _ => simp [clientReads]

theorem serverCut_append_inl (events : List (Event ⊕ Event)) (event : Event) :
    serverCut (events ++ [.inl event]) = (serverCut events || event.cut) := by
  simp [serverCut]

theorem serverCut_append_inr (events : List (Event ⊕ Event)) (event : Event) :
    serverCut (events ++ [.inr event]) = serverCut events := by
  simp [serverCut]

theorem step_inl
    (holds : Handshake sha512 challenge serverPsk clientPsk events pair)
    (taken : pair.step sha512 challenge serverPsk clientPsk (.inl event) = some next) :
    Handshake sha512 challenge serverPsk clientPsk (events ++ [.inl event]) next := by
  obtain ⟨resumed, same, delivered, sent, heardBytes, written⟩ :=
    Duplex.step_inl_eq_some taken
  simp only [Party.input, Party.output, ServerAuthenticate.party, Option.map_some,
    Option.getD_some] at delivered written
  have running : ∀ error, pair.left ≠ .returned (.error error) := by
    intro error ended
    rw [ended] at resumed
    cases resumed
  have uncut : serverCut events = false := by
    rw [Bool.eq_false_iff]
    intro cut
    obtain ⟨error, ended⟩ := holds.cut cut
    exact running error ended
  refine ⟨?_, ?_, ?_, ?_, ?_, ?_⟩
  · rw [delivered, written]
    exact ServerAuthenticate.transcript_step holds.server resumed
  · rw [same, heardBytes, sent]
    exact holds.client
  · rw [delivered, written]
    exact ServerAuthenticate.written_step holds.server holds.written resumed
  · have heard := holds.heard
    rw [clientReads_append_inl]
    unfold Heard at heard ⊢
    rw [same, heardBytes, sent]
    cases state : pair.right with
    | returned result =>
        simp only [state] at heard ⊢
        obtain ⟨message, front, refused | ⟨challenge, read, answered, replied | cut⟩⟩ := heard
        · exact ⟨message, front, .inl refused⟩
        · exact ⟨message, front, .inr ⟨challenge, read, answered, .inl replied⟩⟩
        · obtain ⟨_, _, ⟨error, ended⟩, _⟩ := cut
          exact absurd ended (running error)
    | _ =>
        simp only [state] at heard ⊢
        exact heard
  · intro error ended
    rw [ended] at resumed
    obtain ⟨_, _, cut | refused⟩ := ServerAuthenticate.step_failed holds.server resumed
    · refine .inr ⟨by rw [serverCut_append_inl, cut, Bool.or_true], ?_⟩
      have gone := transfer_cut cut (Duplex.step_inl_transfer taken rfl)
      rw [same]
      exact (ClientAuthenticate.gone_iff sha512 clientPsk).mp gone
    · refine .inl ⟨⟨error, ended⟩, ?_⟩
      rw [delivered]
      exact refused
  · intro cut
    rw [serverCut_append_inl, uncut, Bool.false_or] at cut
    apply ServerAuthenticate.step_fault _ resumed
    cases event with
    | eof => exact .inr rfl
    | readFailed | writeFailed => exact .inl rfl
    | _ => cases cut

theorem unanswered
    (holds : Handshake sha512 challenge serverPsk clientPsk events pair)
    (asked : pair.right = .readChallenge) :
    (∀ error, pair.left ≠ .returned (.error error)) ∧
      pair.toRight.sent <+: utf8 (request challenge) := by
  have client := holds.client
  rw [asked] at client
  obtain ⟨nothing, silent⟩ := client
  have unread : pair.toLeft.delivered = [] := by
    rw [Channel.sent, List.append_eq_nil_iff] at silent
    exact silent.1
  have running : ∀ error, pair.left ≠ .returned (.error error) := by
    intro error ended
    rcases holds.failed error ended with ⟨_, full, _⟩ | ⟨_, error, gone⟩
    · rw [unread] at full
      cases full
    · rw [asked] at gone
      cases gone
  refine ⟨running, ?_⟩
  have server := holds.server
  rw [unread] at server
  cases state : pair.left with
  | writeRequest rest =>
      rw [state] at server
      exact ⟨rest, server.2⟩
  | flushRequest =>
      rw [state] at server
      rw [server.2]
  | readResponse buffer =>
      rw [state] at server
      rw [server.2.2]
  | writeVerdict accepted rest | flushVerdict accepted =>
      rw [state] at server
      cases server.1
  | returned result =>
      cases result with
      | ok done =>
          rw [state] at server
          cases server.1.length_eq
      | error error => exact absurd state (running error)

theorem refused_of_cut
    (holds : Handshake sha512 challenge serverPsk clientPsk events pair)
    (running : ∀ result, pair.right ≠ .returned result)
    (cut : event.cut = true)
    (taken : pair.step sha512 challenge serverPsk clientPsk (.inr event) = some next) :
    pair.Refused sha512 challenge serverPsk := by
  have gone := transfer_cut cut (Duplex.step_inr_transfer taken rfl)
  obtain ⟨error, ended⟩ :=
    (ServerAuthenticate.gone_iff sha512 challenge serverPsk).mp gone
  rcases holds.failed error ended with refused | ⟨_, error, ended⟩
  · exact refused
  · exact absurd ended (running _)

private theorem heard_of_answering {reads : List Bytes}
    (answering : pair.right.answering = true) :
    pair.Heard sha512 challenge serverPsk clientPsk reads ↔
      reads = [pair.toRight.delivered] ∧
        pair.toRight.delivered <+: utf8 (request challenge) := by
  unfold Heard
  cases state : pair.right with
  | writeResponse rest | flushResponse | readReply => exact Iff.rfl
  | _ =>
      rw [state] at answering
      cases answering

private theorem answer_of_answering
    (holds : Handshake sha512 challenge serverPsk clientPsk events pair)
    (answering : pair.right.answering = true) :
    ∃ heard, heardChallenge pair.toRight.delivered = .ok heard ∧
      pair.toLeft.sent <+: utf8 (ClientAuthenticate.response sha512 clientPsk heard) := by
  have client := holds.client
  cases state : pair.right with
  | writeResponse rest =>
      rw [state] at client
      obtain ⟨heard, read, written⟩ := client
      exact ⟨heard, read, rest, written⟩
  | flushResponse | readReply =>
      rw [state] at client
      obtain ⟨heard, read, written⟩ := client
      exact ⟨heard, read, by rw [written]⟩
  | _ =>
      rw [state] at answering
      cases answering

/-- A server that has judged the response has been sent all of it. -/
theorem sent_of_delivered {heard : String}
    (front : pair.toLeft.sent <+:
      utf8 (ClientAuthenticate.response sha512 clientPsk heard))
    (full : pair.toLeft.delivered.length = 129) :
    pair.toLeft.delivered = pair.toLeft.sent ∧
      pair.toLeft.sent = utf8 (ClientAuthenticate.response sha512 clientPsk heard) := by
  have whole := ClientAuthenticate.length_response sha512 clientPsk heard
  have before : pair.toLeft.delivered <+: pair.toLeft.sent := List.prefix_append _ _
  have least := before.length_le
  have most := front.length_le
  exact ⟨before.eq_of_length_le (by omega), front.eq_of_length_le (by omega)⟩

theorem heard_step
    (holds : Handshake sha512 challenge serverPsk clientPsk events pair)
    (taken : pair.step sha512 challenge serverPsk clientPsk (.inr event) = some next) :
    next.Heard sha512 challenge serverPsk clientPsk
      (clientReads (events ++ [.inr event])) := by
  obtain ⟨resumed, same, delivered, sent, unread, written⟩ :=
    Duplex.step_inr_eq_some taken
  simp only [Party.input, Party.output, ClientAuthenticate.party, Option.map_some,
    Option.getD_some] at delivered written
  have heard := holds.heard
  rcases ClientAuthenticate.step_cases resumed with
    ⟨asked, message, rfl, told⟩ | ⟨waiting, reply, rfl, ended⟩ |
      ⟨before, after, nothing, _⟩ | ⟨cut, waiting, error, ended⟩
  · have front := (unanswered holds asked).2
    unfold Heard at heard
    simp only [asked] at heard
    have client := holds.client
    rw [asked] at client
    obtain ⟨nothing, silent⟩ := client
    rw [nothing, Event.input, List.nil_append] at delivered
    have arrived : message <+: utf8 (request challenge) := by
      have inOrder : next.toRight.delivered <+: next.toRight.sent := List.prefix_append _ _
      rw [delivered, sent] at inOrder
      exact inOrder.trans front
    rw [clientReads_append_received, heard, List.nil_append]
    rcases told with ⟨challenge, told, answers⟩ | ⟨error, told, ended⟩
    · rw [heard_of_answering (by rw [answers]; rfl), delivered]
      exact ⟨rfl, arrived⟩
    · unfold Heard
      simp only [ended]
      refine ⟨message, arrived, .inl ⟨rfl, ?_, error, told, rfl⟩⟩
      rw [written, silent]
      rfl
  · have answering : pair.right.answering = true := by
      rw [waiting]
      rfl
    rw [heard_of_answering answering] at heard
    have client := holds.client
    rw [waiting] at client
    obtain ⟨challenge, told, answered⟩ := client
    rw [clientReads_append_received, heard.1]
    unfold Heard
    simp only [ended]
    refine ⟨pair.toRight.delivered, heard.2, .inr ⟨challenge, told, ?_, .inl ?_⟩⟩
    · rw [written, answered]
      exact List.append_nil _
    · exact ⟨reply, rfl, delivered, rfl⟩
  · rw [heard_of_answering before] at heard
    rw [heard_of_answering after, delivered, nothing, List.append_nil,
      clientReads_append_quiet events (.inl nothing)]
    · exact heard
    · rintro rfl
      cases state : pair.right with
      | writeResponse rest | flushResponse | readReply =>
          rw [state] at resumed
          cases resumed
      | _ =>
          rw [state] at before
          cases before
  · have running : ∀ result, pair.right ≠ .returned result := by
      intro result returned
      rw [returned] at resumed
      cases resumed
    have refused := refused_of_cut holds running cut taken
    have quiet : event.input = [] ∧ event.output = [] ∧ event ≠ .received [] := by
      cases event with
      | eof | readFailed | writeFailed => exact ⟨rfl, rfl, by simp⟩
      | _ => cases cut
    rcases waiting with asked | answering
    · obtain ⟨⟨error, failed⟩, _⟩ := refused
      exact absurd failed ((unanswered holds asked).1 error)
    · rw [heard_of_answering answering] at heard
      obtain ⟨challenge, told, front⟩ := answer_of_answering holds answering
      have answered := (sent_of_delivered front refused.2.1).2
      rw [clientReads_append_quiet events (.inr cut) quiet.2.2, heard.1]
      unfold Heard
      simp only [ended]
      refine ⟨pair.toRight.delivered, heard.2, .inr ⟨challenge, told, ?_, .inr ?_⟩⟩
      · rw [written, answered, quiet.2.1, List.append_nil]
      · refine ⟨rfl, ⟨error, rfl⟩, ?_⟩
        unfold Refused
        rw [same, unread]
        exact refused

theorem step_inr
    (holds : Handshake sha512 challenge serverPsk clientPsk events pair)
    (taken : pair.step sha512 challenge serverPsk clientPsk (.inr event) = some next) :
    Handshake sha512 challenge serverPsk clientPsk (events ++ [.inr event]) next := by
  obtain ⟨resumed, same, delivered, sent, unread, written⟩ :=
    Duplex.step_inr_eq_some taken
  refine ⟨?_, ?_, ?_, heard_step holds taken, ?_, ?_⟩
  · rw [same, unread, sent]
    exact holds.server
  · rw [delivered, written]
    exact ClientAuthenticate.transcript_step holds.client resumed
  · rw [unread, sent]
    exact holds.written
  · intro error ended
    rw [same] at ended
    rcases holds.failed error ended with refused | ⟨_, error, returned⟩
    · refine .inl ?_
      unfold Refused
      rw [same, unread]
      exact refused
    · rw [returned] at resumed
      cases resumed
  · intro cut
    rw [serverCut_append_inr] at cut
    rw [same]
    exact holds.cut cut

theorem run {randomBytes : Vector UInt8 32} {coarseUnixTime : UInt64} {final : AuthPair}
    (ran : Transition.run
      (AuthPair.step sha512 (Protocol.challenge randomBytes coarseUnixTime) serverPsk
        clientPsk)
      (AuthPair.start (Protocol.challenge randomBytes coarseUnixTime)) events =
        some final) :
    Handshake sha512 (Protocol.challenge randomBytes coarseUnixTime) serverPsk clientPsk
      events final := by
  apply run_history_invariant _ _ (start randomBytes coarseUnixTime) ran
  intro history pair event next holds taken
  cases event with
  | inl event => exact step_inl holds taken
  | inr event => exact step_inr holds taken

end Handshake

end AuthPair

end PortRedirect.Protocol
