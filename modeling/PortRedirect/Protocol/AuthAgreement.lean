import PortRedirect.Crypto.Sha512
import PortRedirect.Protocol.AuthPair

namespace PortRedirect.Protocol

open PortRedirect.Text
open PortRedirect.Stream
open PortRedirect.Transition

/-! When the two sides of the authentication agree.  Every run ends with both sides
returned; what they return depends on the client's two reads. -/

namespace AuthPair

section

variable (sha512 : Bytes → Digest) (challenge serverPsk clientPsk : String)

/-- Equal keys authenticate both sides, keys that answer differently neither, and no
keys one side alone. -/
structure Agrees (pair : AuthPair) : Prop where
  equal : serverPsk = clientPsk →
    pair.left = .returned (.ok ()) ∧ pair.right = .returned (.ok ())
  differ : sha512 (hashInput challenge serverPsk) ≠ sha512 (hashInput challenge clientPsk) →
    (∃ error, pair.left = .returned (.error error)) ∧
      ∃ error, pair.right = .returned (.error error)
  same : pair.left = .returned (.ok ()) ↔ pair.right = .returned (.ok ())

def firstRead (events : List (Event ⊕ Event)) : Nat :=
  ((clientReads events).getD 0 []).length

def secondRead (events : List (Event ⊕ Event)) : Nat :=
  ((clientReads events).getD 1 []).length

/-- The first read returned the whole request and the second the word HAPPY. -/
def WholeReads (events : List (Event ⊕ Event)) : Prop :=
  firstRead events = (utf8 (request challenge)).length ∧ 5 ≤ secondRead events

/-- What the first read held of the challenge hashes to the expected response. -/
def Answers (events : List (Event ⊕ Event)) : Prop :=
  23 ≤ firstRead events ∧
    sha512 ((utf8 challenge).take (firstRead events - 22) ++ utf8 clientPsk) =
      sha512 (hashInput challenge serverPsk)

end

variable {sha512 : Bytes → Digest} {serverPsk clientPsk : String}
  {randomBytes : Vector UInt8 32} {coarseUnixTime : UInt64}
  {events : List (Event ⊕ Event)} {pair final : AuthPair}

/-! Every run ends. -/

theorem length_le
    (ran : run
      (step sha512 (challenge randomBytes coarseUnixTime) serverPsk clientPsk)
      (start (challenge randomBytes coarseUnixTime)) events = some final) :
    events.length ≤ 411 := by
  have bound := run_length_le
    (fun pair : AuthPair => pair.left.remaining + pair.right.remaining) (by
      intro pair event next taken
      cases event with
      | inl event =>
          obtain ⟨resumed, same, _⟩ := Duplex.step_inl_eq_some taken
          rw [same]
          exact Nat.add_lt_add_right (ServerAuthenticate.remaining_step resumed) _
      | inr event =>
          obtain ⟨resumed, same, _⟩ := Duplex.step_inr_eq_some taken
          rw [same]
          exact Nat.add_lt_add_left (ClientAuthenticate.remaining_step resumed) _) ran
  have size := length_challenge_le randomBytes coarseUnixTime
  have request := length_request _ (isAscii_challenge randomBytes coarseUnixTime)
  simp only [start, start_challenge, ServerAuthenticate.remaining,
    ClientAuthenticate.start, ClientAuthenticate.remaining] at bound
  omega

section Stuck

variable {challenge : String}

private theorem blocked_server
    (stuck : Stuck (step sha512 challenge serverPsk clientPsk) pair) (event : Event)
    {after : Channel × Channel}
    (resumes : pair.left.step sha512 challenge serverPsk event ≠ none) :
    transfer event pair.toLeft pair.toRight
      ((ClientAuthenticate.party sha512 clientPsk).gone pair.right) ≠ some after := by
  intro moved
  obtain ⟨state, resumed⟩ := Option.ne_none_iff_exists'.mp resumes
  have taken : step sha512 challenge serverPsk clientPsk pair (.inl event) = some _ :=
    Duplex.step_inl_eq resumed rfl moved
  rw [stuck (.inl event)] at taken
  cases taken

private theorem blocked_client
    (stuck : Stuck (step sha512 challenge serverPsk clientPsk) pair) (event : Event)
    {after : Channel × Channel}
    (resumes : pair.right.step sha512 clientPsk event ≠ none) :
    transfer event pair.toRight pair.toLeft
      ((ServerAuthenticate.party sha512 challenge serverPsk).gone pair.left) ≠
        some after := by
  intro moved
  obtain ⟨state, resumed⟩ := Option.ne_none_iff_exists'.mp resumes
  have taken : step sha512 challenge serverPsk clientPsk pair (.inr event) = some _ :=
    Duplex.step_inr_eq resumed rfl moved
  rw [stuck (.inr event)] at taken
  cases taken

private theorem stuck_server
    (stuck : Stuck (step sha512 challenge serverPsk clientPsk) pair)
    (holds : pair.left.Transcript sha512 challenge serverPsk pair.toLeft.delivered
      pair.toRight.sent)
    (running : ∀ result, pair.left ≠ .returned result) :
    (∃ buffer, pair.left = .readResponse buffer) ∧ pair.toLeft.pending = [] ∧
      ∀ error, pair.right ≠ .returned (.error error) := by
  cases state : pair.left with
  | writeRequest rest | writeVerdict accepted rest =>
      exfalso
      refine blocked_server stuck (.sent rest) ?_ rfl
      simp [state, ServerAuthenticate.step]
  | flushRequest | flushVerdict accepted =>
      exfalso
      refine blocked_server stuck .flushed ?_ rfl
      simp [state, ServerAuthenticate.step, pollFlush]
  | readResponse buffer =>
      rw [state] at holds
      by_cases live : pair.toLeft.pending ≠ [] ∨
          (ClientAuthenticate.party sha512 clientPsk).gone pair.right = true
      · obtain ⟨event, outcome, after, _, polled, moved⟩ :=
          pollReadExact_enabled holds.2.1 live pair.toRight
        exfalso
        refine blocked_server stuck event ?_ moved
        simp [state, ServerAuthenticate.step, polled]
      · rw [not_or, not_not] at live
        refine ⟨⟨buffer, rfl⟩, live.1, ?_⟩
        intro error ended
        exact live.2 ((ClientAuthenticate.gone_iff sha512 clientPsk).mpr ⟨error, ended⟩)
  | returned result => exact absurd state (running result)

private theorem stuck_client
    (stuck : Stuck (step sha512 challenge serverPsk clientPsk) pair)
    (running : ∀ result, pair.right ≠ .returned result) :
    (pair.right = .readChallenge ∨ pair.right = .readReply) ∧
      pair.toRight.pending = [] ∧ ∀ error, pair.left ≠ .returned (.error error) := by
  have reading {room : Nat} (positive : 0 < room)
      (reads : ∀ event outcome, pollRead room event = some outcome →
        pair.right.step sha512 clientPsk event ≠ none) :
      pair.toRight.pending = [] ∧ ∀ error, pair.left ≠ .returned (.error error) := by
    by_cases live : pair.toRight.pending ≠ [] ∨
        (ServerAuthenticate.party sha512 challenge serverPsk).gone pair.left = true
    · obtain ⟨event, outcome, after, _, polled, moved⟩ :=
        pollRead_enabled positive live pair.toLeft
      exact absurd moved (blocked_client stuck event (reads event outcome polled))
    · rw [not_or, not_not] at live
      refine ⟨live.1, ?_⟩
      intro error ended
      exact live.2
        ((ServerAuthenticate.gone_iff sha512 challenge serverPsk).mpr ⟨error, ended⟩)
  cases state : pair.right with
  | readChallenge =>
      refine ⟨.inl rfl, reading (Nat.zero_lt_succ 255) ?_⟩
      intro event outcome polled
      simp [state, ClientAuthenticate.step, challengeRequestBufferLength, polled]
  | readReply =>
      refine ⟨.inr rfl, reading (Nat.zero_lt_succ 15) ?_⟩
      intro event outcome polled
      simp [state, ClientAuthenticate.step, polled]
  | writeResponse rest =>
      exfalso
      refine blocked_client stuck (.sent rest) ?_ rfl
      simp [state, ClientAuthenticate.step]
  | flushResponse =>
      exfalso
      refine blocked_client stuck .flushed ?_ rfl
      simp [state, ClientAuthenticate.step, pollFlush]
  | returned result => exact absurd state (running result)

private theorem response_unsent
    (holds : Handshake sha512 challenge serverPsk clientPsk events pair) {buffer : Bytes}
    (waiting : pair.left = .readResponse buffer) (drained : pair.toLeft.pending = []) :
    pair.toLeft.sent.length < 129 := by
  have server := holds.server
  rw [waiting] at server
  rw [Channel.sent, drained, List.append_nil, server.1]
  exact server.2.1

private theorem client_returned
    (holds : Handshake sha512 challenge serverPsk clientPsk events pair)
    (stuck : Stuck (step sha512 challenge serverPsk clientPsk) pair) :
    ∃ result, pair.right = .returned result := by
  by_contra running
  rw [not_exists] at running
  obtain ⟨reading, drained, present⟩ := stuck_client stuck running
  have server := holds.server
  have client := holds.client
  have heard := holds.heard
  have all : pair.toRight.sent = pair.toRight.delivered := by
    rw [Channel.sent, drained, List.append_nil]
  have positive : 0 < (utf8 (request challenge)).length := by
    rw [utf8_request, List.length_append]
    exact Nat.add_pos_left (by decide) _
  by_cases waiting : ∀ result, pair.left ≠ .returned result
  · obtain ⟨⟨buffer, state⟩, emptied, _⟩ := stuck_server stuck server waiting
    have unsent := response_unsent holds state emptied
    rw [state] at server
    rcases reading with asked | waiting
    · rw [asked] at client
      rw [← server.2.2, all, client.1] at positive
      cases positive
    · rw [waiting] at client
      obtain ⟨challenge, _, answered⟩ := client
      rw [answered, ClientAuthenticate.length_response] at unsent
      exact absurd unsent (Nat.lt_irrefl _)
  · rw [not_forall] at waiting
    obtain ⟨result, state⟩ := waiting
    rw [not_not] at state
    cases result with
    | error error => exact present error state
    | ok done =>
        rw [state] at server
        obtain ⟨_, written⟩ := server
        have size := congrArg List.length (all.symm.trans written)
        have verdict : (verdict true).length = 6 := by decide
        rw [List.length_append, verdict] at size
        rcases reading with asked | waiting
        · rw [asked] at client
          rw [client.1, List.length_nil] at size
          omega
        · unfold Heard at heard
          simp only [waiting] at heard
          have bound := heard.2.length_le
          omega

theorem returned_of_stuck
    (holds : Handshake sha512 challenge serverPsk clientPsk events pair)
    (stuck : Stuck (step sha512 challenge serverPsk clientPsk) pair) :
    (∃ result, pair.left = .returned result) ∧
      ∃ result, pair.right = .returned result := by
  obtain ⟨result, returned⟩ := client_returned holds stuck
  refine ⟨?_, result, returned⟩
  by_contra running
  rw [not_exists] at running
  obtain ⟨⟨buffer, state⟩, emptied, present⟩ := stuck_server stuck holds.server running
  have unsent := response_unsent holds state emptied
  have client := holds.client
  rw [returned] at client
  cases result with
  | error error => exact present error returned
  | ok done =>
      obtain ⟨message, reply, challenge, _, _, answered, _⟩ := client
      rw [answered, ClientAuthenticate.length_response] at unsent
      exact absurd unsent (Nat.lt_irrefl _)

end Stuck

/-! What the reads decide. -/

private theorem heardReply_take : ∀ accepted, ∀ count < 7,
    (heardReply ((verdict accepted).take count) = .ok () ↔
      5 ≤ count ∧ accepted = true) := by
  decide +kernel

private theorem heardReply_verdict {accepted : Bool} {reply : Bytes}
    (front : reply <+: verdict accepted) :
    (heardReply reply = .ok () ↔ 5 ≤ reply.length) ∧
      (5 ≤ reply.length → accepted = true) := by
  have sizes : (verdict true).length = 6 ∧ (verdict false).length = 4 := by decide
  have bound := front.length_le
  have whole : reply = (verdict accepted).take reply.length := by
    rw [← List.prefix_iff_eq_take]
    exact front
  have small : reply.length < 7 := by
    cases accepted <;> omega
  have checked := heardReply_take accepted reply.length small
  rw [← whole] at checked
  have accept : 5 ≤ reply.length → accepted = true := by
    intro long
    cases accepted with
    | true => rfl
    | false => omega
  refine ⟨checked.trans ?_, accept⟩
  exact ⟨And.left, fun long => ⟨long, accept long⟩⟩

private theorem happy_of_heardReply {reply : Bytes} (heard : heardReply reply = .ok ()) :
    utf8 "HAPPY" <+: reply := by
  unfold heardReply at heard
  cases decoded : fromUtf8 reply with
  | none => simp [decoded] at heard
  | some text =>
      simp only [decoded] at heard
      split at heard
      · rename_i front
        obtain ⟨rest, joined⟩ := front
        refine ⟨utf8 (String.ofList rest), ?_⟩
        rw [← utf8_append, ← fromUtf8_eq_some.mp decoded]
        congr 1
        apply String.toList_inj.mp
        rw [String.toList_append, ← joined]
        exact congrArg ("HAPPY".toList ++ ·) String.toList_ofList
      · cases heard

/-- A second read that begins with the word HAPPY comes after the whole request. -/
private theorem whole_of_happy {message reply : Bytes} {accepted : Bool}
    (front : message <+: utf8 (request (challenge randomBytes coarseUnixTime)))
    (long : 23 ≤ message.length)
    (inOrder : message ++ reply <+:
      utf8 (request (challenge randomBytes coarseUnixTime)) ++ verdict accepted)
    (happy : utf8 "HAPPY" <+: reply) :
    message = utf8 (request (challenge randomBytes coarseUnixTime)) := by
  obtain ⟨rest, joined⟩ := front
  cases rest with
  | nil => rw [← joined, List.append_nil]
  | cons byte rest =>
      exfalso
      rw [← joined, List.append_assoc, List.prefix_append_right_inj] at inOrder
      have word : utf8 "HAPPY" = asciiByte 'H' :: utf8 "APPY" := by decide
      have first : asciiByte 'H' = byte := by
        obtain ⟨tail, same⟩ := happy.trans inOrder
        rw [word] at same
        exact List.head_eq_of_cons_eq same
      have prompt : (utf8 "WHO THE HECK ARE YOU?\n").length = 22 := by decide
      have parts := utf8_request (challenge randomBytes coarseUnixTime)
      rw [← joined] at parts
      have dropped := congrArg (List.drop 22) parts
      rw [← prompt, List.drop_left, prompt, List.drop_append_of_le_length (by omega)]
        at dropped
      have member : byte ∈ utf8 (challenge randomBytes coarseUnixTime) ++ utf8 "\n" := by
        rw [← dropped]
        exact List.mem_append_right _ List.mem_cons_self
      rcases List.mem_append.mp member with inside | newline
      · rw [← first] at inside
        exact not_mem_challenge randomBytes coarseUnixTime inside
      · rw [← first] at newline
        exact absurd newline (by decide)

variable (sha512 serverPsk clientPsk) in
private theorem answers_iff {message : Bytes} {heard : String}
    (front : message <+: utf8 (request (challenge randomBytes coarseUnixTime)))
    (told : heardChallenge message = .ok heard)
    (first : firstRead events = message.length) :
    Answers sha512 (challenge randomBytes coarseUnixTime) serverPsk clientPsk events ↔
      IsResponse sha512 (challenge randomBytes coarseUnixTime) serverPsk
        (utf8 (ClientAuthenticate.response sha512 clientPsk heard)) := by
  have cut := List.prefix_iff_eq_take.mp front
  rcases heardChallenge_take (isAscii_challenge randomBytes coarseUnixTime)
    (isPlainLine_challenge randomBytes coarseUnixTime) front.length_le with
    ⟨_, error, refused⟩ | ⟨long, challenge, accepted, part⟩
  · rw [← cut, told] at refused
    cases refused
  · rw [← cut, told] at accepted
    cases accepted
    have digests : Answers sha512 (Protocol.challenge randomBytes coarseUnixTime) serverPsk
          clientPsk events ↔
        sha512 (hashInput heard clientPsk) =
          sha512 (hashInput (Protocol.challenge randomBytes coarseUnixTime) serverPsk) := by
      rw [Answers, first, ← part]
      exact and_iff_right long
    rw [digests]
    constructor
    · intro same
      refine ⟨10, by decide, ?_⟩
      rw [ClientAuthenticate.response, utf8_append, expectedResponse, same]
      rfl
    · intro response
      obtain ⟨byte, _, same⟩ := response
      rw [ClientAuthenticate.response, utf8_append] at same
      have text := utf8_injective (List.append_inj_left' same rfl)
      exact Vector.toList_inj.mp (hexEncode_injective text)

/-- The three facts that the two results come down to. -/
private structure Outcome (sha512 : Bytes → Digest) (challenge serverPsk clientPsk : String)
    (events : List (Event ⊕ Event)) (pair : AuthPair) : Prop where
  server : pair.left = .returned (.ok ()) ↔
    Answers sha512 challenge serverPsk clientPsk events ∧ serverCut events = false
  client : pair.right = .returned (.ok ()) ↔ WholeReads challenge events
  whole : WholeReads challenge events →
    Answers sha512 challenge serverPsk clientPsk events ∧ serverCut events = false

private theorem outcome_of_unread
    (unanswered : ¬ Answers sha512 (challenge randomBytes coarseUnixTime) serverPsk
      clientPsk events)
    (silent : pair.left ≠ .returned (.ok ())) (short : secondRead events = 0)
    (failed : ∃ error, pair.right = .returned (.error error)) :
    Outcome sha512 (challenge randomBytes coarseUnixTime) serverPsk clientPsk events
      pair where
  server := iff_of_false silent fun both => unanswered both.1
  client := by
    obtain ⟨error, ended⟩ := failed
    rw [ended]
    refine iff_of_false (fun ok => by cases ok) fun whole => ?_
    have long := whole.2
    rw [short] at long
    exact absurd long (by decide)
  whole := by
    intro whole
    have long := whole.2
    rw [short] at long
    exact absurd long (by decide)

private theorem outcome_of_replied
    (holds : Handshake sha512 (challenge randomBytes coarseUnixTime) serverPsk clientPsk
      events pair) {message reply : Bytes} {heard : String}
    (serverReturned : ∃ result, pair.left = .returned result)
    (front : message <+: utf8 (request (challenge randomBytes coarseUnixTime)))
    (told : heardChallenge message = .ok heard)
    (answered : pair.toLeft.sent =
      utf8 (ClientAuthenticate.response sha512 clientPsk heard))
    (reads : clientReads events = [message, reply])
    (delivered : pair.toRight.delivered = message ++ reply)
    (returned : pair.right = .returned (heardReply reply)) :
    Outcome sha512 (challenge randomBytes coarseUnixTime) serverPsk clientPsk events
      pair := by
  have first : firstRead events = message.length := by
    rw [firstRead, reads]
    rfl
  have second : secondRead events = reply.length := by
    rw [secondRead, reads]
    rfl
  have answers := answers_iff sha512 serverPsk clientPsk front told first
  obtain ⟨accepted, written, judged⟩ := holds.written
  have long : 23 ≤ message.length := by
    rcases heardChallenge_take (isAscii_challenge randomBytes coarseUnixTime)
      (isPlainLine_challenge randomBytes coarseUnixTime) front.length_le with
      ⟨_, error, refused⟩ | ⟨long, _⟩
    · rw [← List.prefix_iff_eq_take.mp front, told] at refused
      cases refused
    · exact long
  have inOrder : message ++ reply <+:
      utf8 (request (challenge randomBytes coarseUnixTime)) ++ verdict accepted := by
    rw [← delivered]
    exact (List.prefix_append _ _).trans written
  have rest (whole : message = utf8 (request (challenge randomBytes coarseUnixTime))) :
      reply <+: verdict accepted := by
    rw [whole, List.prefix_append_right_inj] at inOrder
    exact inOrder
  have read (full : pair.toLeft.delivered.length = 129) : pair.toLeft.delivered =
      utf8 (ClientAuthenticate.response sha512 clientPsk heard) := by
    obtain ⟨same, _⟩ := Handshake.sent_of_delivered (by rw [answered]) full
    rw [same, answered]
  have accepts (response : IsResponse sha512 (challenge randomBytes coarseUnixTime)
      serverPsk pair.toLeft.delivered) :
      Answers sha512 (challenge randomBytes coarseUnixTime) serverPsk clientPsk events := by
    rw [answers, ← read response.length_eq]
    exact response
  have client : pair.right = .returned (.ok ()) ↔
      WholeReads (challenge randomBytes coarseUnixTime) events := by
    rw [returned, ClientAuthenticate.returned.injEq, WholeReads, first, second]
    constructor
    · intro ok
      have whole := whole_of_happy front long inOrder (happy_of_heardReply ok)
      exact ⟨by rw [whole], (heardReply_verdict (rest whole)).1.mp ok⟩
    · intro sizes
      have whole := front.eq_of_length sizes.1
      exact (heardReply_verdict (rest whole)).1.mpr sizes.2
  refine ⟨?_, client, ?_⟩
  · constructor
    · intro ok
      have server := holds.server
      rw [ok] at server
      refine ⟨accepts server.1, ?_⟩
      rw [Bool.eq_false_iff]
      intro cut
      obtain ⟨error, ended⟩ := holds.cut cut
      rw [ok] at ended
      cases ended
    · intro both
      obtain ⟨result, ended⟩ := serverReturned
      cases result with
      | ok done => exact ended
      | error error =>
          rcases holds.failed error ended with ⟨_, full, wrong⟩ | ⟨cut, _⟩
          · rw [read full] at wrong
            exact absurd (answers.mp both.1) wrong
          · rw [both.2] at cut
            cases cut
  · intro sizes
    have whole : message = _ := front.eq_of_length (first.symm.trans sizes.1)
    have response := judged ((heardReply_verdict (rest whole)).2 (second ▸ sizes.2))
    refine ⟨accepts response, ?_⟩
    rw [Bool.eq_false_iff]
    intro cut
    obtain ⟨error, ended⟩ := holds.cut cut
    rcases holds.failed error ended with ⟨_, _, wrong⟩ | ⟨_, error, gone⟩
    · exact wrong response
    · rw [client.mpr sizes] at gone
      cases gone

private theorem outcome
    (holds : Handshake sha512 (challenge randomBytes coarseUnixTime) serverPsk clientPsk
      events pair)
    (stuck : Stuck
      (step sha512 (challenge randomBytes coarseUnixTime) serverPsk clientPsk) pair) :
    Outcome sha512 (challenge randomBytes coarseUnixTime) serverPsk clientPsk events
      pair := by
  obtain ⟨serverReturned, result, returned⟩ := returned_of_stuck holds stuck
  have heard := holds.heard
  unfold Heard at heard
  simp only [returned] at heard
  obtain ⟨message, front, ⟨reads, silent, error, told, rfl⟩ | ⟨heard, told, answered, cases⟩⟩ :=
    heard
  · have first : firstRead events = message.length := by
      rw [firstRead, reads]
      rfl
    apply outcome_of_unread
    · intro answers
      rcases heardChallenge_take (isAscii_challenge randomBytes coarseUnixTime)
        (isPlainLine_challenge randomBytes coarseUnixTime) front.length_le with
        ⟨short, _⟩ | ⟨_, heard, accepted, _⟩
      · rw [← first] at short
        exact absurd answers.1 (Nat.not_le_of_lt short)
      · rw [← List.prefix_iff_eq_take.mp front, told] at accepted
        cases accepted
    · intro ok
      have server := holds.server
      rw [Channel.sent, List.append_eq_nil_iff] at silent
      rw [ok, silent.1] at server
      cases server.1.length_eq
    · rw [secondRead, reads]
      rfl
    · exact ⟨error, returned⟩
  · rcases cases with ⟨reply, reads, delivered, rfl⟩ | ⟨reads, ⟨error, rfl⟩, refused⟩
    · exact outcome_of_replied holds serverReturned front told answered reads delivered
        returned
    · have first : firstRead events = message.length := by
        rw [firstRead, reads]
        rfl
      obtain ⟨⟨failure, failed⟩, full, wrong⟩ := refused
      apply outcome_of_unread
      · rw [answers_iff sha512 serverPsk clientPsk front told first]
        obtain ⟨same, sent⟩ := Handshake.sent_of_delivered (by rw [answered]) full
        rw [← sent, ← same]
        exact wrong
      · rw [failed]
        exact fun ok => by cases ok
      · rw [secondRead, reads]
        rfl
      · exact ⟨error, returned⟩

private theorem digests_of_whole
    (whole : WholeReads (challenge randomBytes coarseUnixTime) events)
    (answers : Answers sha512 (challenge randomBytes coarseUnixTime) serverPsk clientPsk
      events) :
    sha512 (hashInput (challenge randomBytes coarseUnixTime) serverPsk) =
      sha512 (hashInput (challenge randomBytes coarseUnixTime) clientPsk) := by
  have all : (utf8 (challenge randomBytes coarseUnixTime)).take (firstRead events - 22) =
      utf8 (challenge randomBytes coarseUnixTime) := by
    apply List.take_of_length_le
    rw [whole.1, length_request _ (isAscii_challenge randomBytes coarseUnixTime),
      length_utf8_of_ascii (isAscii_challenge randomBytes coarseUnixTime)]
    omega
  obtain ⟨_, same⟩ := answers
  rw [all] at same
  exact same.symm

/-! A run that delivers the request whole and the verdict as far as one read wants. -/

def replyEvents (sha512 : Bytes → Digest) (challenge psk : String) (reply : Bytes) :
    List (Event ⊕ Event) :=
  [.inl (.sent (utf8 (request challenge))), .inl .flushed,
    .inr (.received (utf8 (request challenge))),
    .inr (.sent (utf8 (ClientAuthenticate.response sha512 psk challenge))), .inr .flushed,
    .inl (.received (utf8 (ClientAuthenticate.response sha512 psk challenge))),
    .inl (.sent (verdict true)), .inl .flushed, .inr (.received reply)]

theorem run_replyEvents (psk : String) {reply : Bytes} (front : reply <+: verdict true)
    (nonempty : reply ≠ []) :
    ∃ final, run (step sha512 (challenge randomBytes coarseUnixTime) psk psk)
        (start (challenge randomBytes coarseUnixTime))
        (replyEvents sha512 (challenge randomBytes coarseUnixTime) psk reply) =
          some final ∧
      final.left = .returned (.ok ()) ∧ final.right = .returned (heardReply reply) := by
  have asked := pollRead_request randomBytes coarseUnixTime
  have heard := heardChallenge_request randomBytes coarseUnixTime
  have answered := ClientAuthenticate.pollReadExact_response sha512 psk
    (challenge randomBytes coarseUnixTime)
  have judged := ClientAuthenticate.verify_response sha512 psk
    (challenge randomBytes coarseUnixTime)
  have sizes : (verdict true).length = 6 := by decide
  have bound := front.length_le
  have replied : pollRead 16 (.received reply) = some (.read reply) :=
    if_pos ⟨nonempty, by omega⟩
  refine ⟨{
    left := .returned (.ok ())
    right := .returned (heardReply reply)
    toRight :=
      { delivered := utf8 (request (challenge randomBytes coarseUnixTime)) ++ reply
        pending := (verdict true).drop reply.length }
    toLeft :=
      { delivered := utf8 (ClientAuthenticate.response sha512 psk
          (challenge randomBytes coarseUnixTime)) } }, ?_, rfl, rfl⟩
  rw [start, start_challenge]
  simp only [run, replyEvents, step, Duplex.step, ServerAuthenticate.party,
    ClientAuthenticate.party, ServerAuthenticate.step, ClientAuthenticate.step,
    ClientAuthenticate.start, pollWriteAll_sent_all, pollFlush,
    challengeRequestBufferLength, asked, answered, replied, heard, judged,
    Option.map_some, transfer, Channel.write, Channel.deliver, List.nil_append,
    List.prefix_refl, List.drop_length, if_pos, front]

theorem stuck_of_returned {challenge : String} {serverResult clientResult : Except Error Unit}
    (left : pair.left = .returned serverResult)
    (right : pair.right = .returned clientResult) :
    Stuck (step sha512 challenge serverPsk clientPsk) pair := by
  intro event
  cases event with
  | inl event =>
      simp only [step, Duplex.step, ServerAuthenticate.party, ServerAuthenticate.step, left]
  | inr event =>
      simp only [step, Duplex.step, ClientAuthenticate.party, ClientAuthenticate.step, right]

end AuthPair

/-- Every run is finite, and in every run that is over the two sides agree exactly
when the client's reads return the whole request and the whole word HAPPY, or the
keys differ and the server has not accepted a response to a cut challenge. -/
theorem authentication_agrees_iff (sha512 : Bytes → Digest) (serverPsk clientPsk : String)
    (randomBytes : Vector UInt8 32) (coarseUnixTime : UInt64)
    (events : List (Event ⊕ Event)) (final : AuthPair)
    (ran : run
      (AuthPair.step sha512 (challenge randomBytes coarseUnixTime) serverPsk clientPsk)
      (AuthPair.start (challenge randomBytes coarseUnixTime)) events = some final) :
    events.length ≤ 411 ∧
      (Stuck
          (AuthPair.step sha512 (challenge randomBytes coarseUnixTime) serverPsk clientPsk)
          final →
        (AuthPair.Agrees sha512 (challenge randomBytes coarseUnixTime) serverPsk clientPsk
            final ↔
          AuthPair.WholeReads (challenge randomBytes coarseUnixTime) events ∨
            (serverPsk ≠ clientPsk ∧
              (¬ AuthPair.Answers sha512 (challenge randomBytes coarseUnixTime) serverPsk
                  clientPsk events ∨
                AuthPair.serverCut events = true)))) := by
  refine ⟨AuthPair.length_le ran, ?_⟩
  intro stuck
  have holds := AuthPair.Handshake.run ran
  have outcome := AuthPair.outcome holds stuck
  obtain ⟨⟨serverResult, serverReturned⟩, clientResult, clientReturned⟩ :=
    AuthPair.returned_of_stuck holds stuck
  constructor
  · intro agrees
    by_cases keys : serverPsk = clientPsk
    · exact .inl (outcome.client.mp (agrees.equal keys).2)
    · by_cases whole : AuthPair.WholeReads (challenge randomBytes coarseUnixTime) events
      · exact .inl whole
      · refine .inr ⟨keys, ?_⟩
        have server := mt agrees.same.mp (mt outcome.client.mp whole)
        rw [outcome.server, not_and_or, Bool.not_eq_false] at server
        exact server
  · intro condition
    have failed (result : Except Error Unit) (bad : result ≠ .ok ()) :
        ∃ error, result = .error error := by
      cases result with
      | ok done => exact absurd rfl bad
      | error error => exact ⟨error, rfl⟩
    rcases condition with whole | ⟨keys, unaccepted⟩
    · have both := outcome.whole whole
      have server := outcome.server.mpr both
      have client := outcome.client.mpr whole
      refine ⟨fun _ => ⟨server, client⟩, ?_, iff_of_true server client⟩
      intro differ
      exact absurd (AuthPair.digests_of_whole whole both.1) differ
    · have server : final.left ≠ .returned (.ok ()) := by
        rw [Ne, outcome.server, not_and_or, Bool.not_eq_false]
        exact unaccepted
      have client : final.right ≠ .returned (.ok ()) := by
        rw [Ne, outcome.client]
        exact fun whole => server (outcome.server.mpr (outcome.whole whole))
      refine ⟨fun same => absurd same keys, fun _ => ⟨?_, ?_⟩, iff_of_false server client⟩
      · rw [serverReturned] at server ⊢
        obtain ⟨error, rfl⟩ := failed serverResult fun ok => server (by rw [ok])
        exact ⟨error, rfl⟩
      · rw [clientReturned] at client ⊢
        obtain ⟨error, rfl⟩ := failed clientResult fun ok => client (by rw [ok])
        exact ⟨error, rfl⟩

theorem authentication_agrees_whole :
    ∃ events final,
      run (AuthPair.step Crypto.Sha512.digest (challenge (Vector.replicate 32 0) 0) "key"
          "key")
        (AuthPair.start (challenge (Vector.replicate 32 0) 0)) events = some final ∧
      AuthPair.Agrees Crypto.Sha512.digest (challenge (Vector.replicate 32 0) 0) "key" "key"
        final := by
  obtain ⟨final, ran, left, right⟩ := AuthPair.run_replyEvents "key"
    (List.prefix_refl (verdict true)) (by decide)
  refine ⟨_, final, ran, ?_⟩
  apply ((authentication_agrees_iff Crypto.Sha512.digest "key" "key" (Vector.replicate 32 0)
    0 _ final ran).2 (AuthPair.stuck_of_returned left right)).mpr
  exact .inl ⟨rfl, by decide⟩

/-- One byte of the verdict arrives first: the server has authenticated the client,
and the client takes the byte for a rejection. -/
theorem authentication_disagrees :
    ∃ events final,
      run (AuthPair.step Crypto.Sha512.digest (challenge (Vector.replicate 32 0) 0) "key"
          "key")
        (AuthPair.start (challenge (Vector.replicate 32 0) 0)) events = some final ∧
      Stuck (AuthPair.step Crypto.Sha512.digest (challenge (Vector.replicate 32 0) 0) "key"
        "key") final ∧
      final.left = .returned (.ok ()) ∧ (∃ error, final.right = .returned (.error error)) ∧
      ¬ AuthPair.Agrees Crypto.Sha512.digest (challenge (Vector.replicate 32 0) 0) "key"
        "key" final := by
  obtain ⟨final, ran, left, right⟩ := AuthPair.run_replyEvents "key"
    (show utf8 "H" <+: verdict true by decide) (by decide)
  have rejected : heardReply (utf8 "H") =
      .error (.message "Server rejected authentication: H") := by decide +kernel
  rw [rejected] at right
  refine ⟨_, final, ran, AuthPair.stuck_of_returned left right, left, ⟨_, right⟩, ?_⟩
  intro agrees
  have both := (agrees.equal rfl).2
  rw [right] at both
  cases both

end PortRedirect.Protocol
