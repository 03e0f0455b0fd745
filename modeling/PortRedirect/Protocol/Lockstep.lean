import PortRedirect.Protocol.KeepaliveTranscript

namespace PortRedirect.Protocol

open PortRedirect.Text
open PortRedirect.Stream
open PortRedirect.Transition

/-! The two keepalive loops on one stream.  At most one PONG is ever outstanding,
so a reader that the client drops is empty. -/

abbrev KeepalivePair := Duplex KeepaliveClient ControlChannelLoop

namespace KeepalivePair

def step : KeepalivePair → Event ⊕ Event → Option KeepalivePair :=
  Duplex.step KeepaliveClient.party ControlChannelLoop.party

def start : KeepalivePair where
  left := {}
  right := .start

structure Lockstep (pair : KeepalivePair) : Prop where
  client : pair.left.Transcript pair.toLeft.delivered pair.toRight.sent
  server : pair.right.Transcript pair.toRight.delivered pair.toLeft.sent
  clean : pair.left.unread = []
  clientExpected : ∀ response, pair.left.phase ≠ .returned (.unexpected response)
  serverExpected : ∀ message, pair.right ≠ .returned (.unexpected message)
  /-- A message is left unfinished only for a peer that is gone. -/
  clientCut : pair.left.phase = .returned .sendFailed →
    ∃ exit, pair.right = .returned exit
  serverCut : pair.right = .returned .sendFailed →
    ∃ exit, pair.left.phase = .returned exit

theorem delivered_within_sent (channel : Channel) : channel.delivered <+: channel.sent :=
  List.prefix_append _ _

namespace Lockstep

theorem start : Lockstep KeepalivePair.start where
  client := KeepaliveClient.transcript_start
  server := ControlChannelLoop.transcript_start
  clean := rfl
  clientExpected := fun _ ended => by cases ended
  serverExpected := fun _ ended => by cases ended
  clientCut := fun ended => by cases ended
  serverCut := fun ended => by cases ended

variable {pair next : KeepalivePair} {event : Event}

theorem pongs_le_pings
    (server : pair.right.Transcript pair.toRight.delivered pair.toLeft.sent) :
    pair.toLeft.sent.length ≤ pair.toRight.sent.length := by
  obtain ⟨count, pings, pongs⟩ := server.bounds
  calc pair.toLeft.sent.length
      ≤ (repeated pongMessage count).length := pongs.length_le
    _ = (repeated pingMessage count).length := by
        rw [length_repeated, length_repeated, length_pongMessage, length_pingMessage]
    _ ≤ pair.toRight.delivered.length := pings.length_le
    _ ≤ pair.toRight.sent.length := (delivered_within_sent pair.toRight).length_le

private theorem clean_step (holds : Lockstep pair)
    (client : next.left.Transcript next.toLeft.delivered next.toRight.sent)
    (server : next.right.Transcript next.toRight.delivered next.toLeft.sent)
    (resumed : KeepaliveClient.step pair.left event = some next.left) :
    next.left.unread = [] := by
  rcases KeepaliveClient.step_unread resumed with waiting | same
  · have bound := (delivered_within_sent next.toLeft).length_le.trans (pongs_le_pings server)
    unfold KeepaliveClient.Transcript at client
    simp only [waiting] at client
    obtain ⟨written, size⟩ := client
    rw [written, size, length_repeated, length_pingMessage] at bound
    exact List.eq_nil_of_length_eq_zero (by omega)
  · rw [same, holds.clean]

private theorem clientExpected_step (holds : Lockstep pair)
    (taken : KeepalivePair.step pair (.inl event) = some next) (response : Bytes) :
    next.left.phase ≠ .returned (.unexpected response) := by
  intro ended
  obtain ⟨resumed, _, delivered, sent, _, _⟩ := Duplex.step_inl_eq_some taken
  obtain ⟨responseBuf, phase, other, heard⟩ := KeepaliveClient.step_cause resumed ended
  obtain ⟨count, _, pongs⟩ := holds.server.bounds
  have client := holds.client
  unfold KeepaliveClient.Transcript at client
  simp only [phase, holds.clean, List.length_nil, Nat.add_zero] at client
  obtain ⟨_, clean, front, received, size⟩ := client
  rw [← length_pongMessage] at size
  rcases heard with ⟨line, unread, rfl, unbroken, rfl⟩ | ⟨rfl, rfl, nonempty⟩
  · have before : front ++ (responseBuf ++ (line ++ [10]) ++ unread) <+:
        repeated pongMessage count := by
      have arrived := delivered_within_sent next.toLeft
      rw [delivered, sent, received] at arrived
      simp only [Party.input, KeepaliveClient.party, Option.map_some, Event.input,
        Option.getD_some] at arrived
      simpa using arrived.trans pongs
    obtain ⟨_, rest⟩ := prefix_repeated_of_append isLine_pongMessage.ne_nil before size
    apply other
    refine isLine_pongMessage.eq_of_prefix_repeated ?_
      ((List.prefix_append _ unread).trans rest)
    refine ⟨responseBuf ++ line, by rw [List.append_assoc], ?_⟩
    rw [List.mem_append, not_or]
    exact ⟨clean, unbroken⟩
  · -- The server is gone, and it did not stop in the middle of a PONG.
    obtain ⟨drained, gone⟩ := transfer_eof (Duplex.step_inl_transfer taken rfl)
    have all : pair.toLeft.sent = front ++ response := by
      rw [Channel.sent, drained, received, List.append_nil]
    have whole : ∃ count, pair.toLeft.sent = repeated pongMessage count := by
      have server := holds.server
      cases state : pair.right with
      | returned exit =>
          rw [state] at server
          obtain ⟨count, _, _, whole⟩ := server
          refine ⟨count, whole ?_⟩
          rintro rfl
          obtain ⟨_, left⟩ := holds.serverCut state
          rw [phase] at left
          cases left
      | _ => simp [state, ControlChannelLoop.party] at gone
    obtain ⟨total, whole⟩ := whole
    rw [whole] at all
    have before : front ++ response <+: repeated pongMessage total := by rw [all]
    obtain ⟨_, rest⟩ :=
      prefix_repeated_of_append isLine_pongMessage.ne_nil before size
    apply nonempty
    refine isLine_pongMessage.eq_nil_of_prefix_repeated rest clean ?_
    have lengths := congrArg List.length all
    rw [List.length_append, length_repeated, size] at lengths
    exact (Nat.dvd_add_right (Nat.dvd_mul_left _ _)).mp (lengths ▸ Nat.dvd_mul_left _ _)

private theorem serverExpected_step (holds : Lockstep pair)
    (taken : KeepalivePair.step pair (.inr event) = some next) (message : Bytes) :
    next.right ≠ .returned (.unexpected message) := by
  intro ended
  obtain ⟨resumed, _, delivered, sent, _, _⟩ := Duplex.step_inr_eq_some taken
  rw [ended] at resumed
  obtain ⟨buf, state, other, heard⟩ := ControlChannelLoop.step_cause resumed
  obtain ⟨pings, _⟩ := holds.client.bounds
  have server := holds.server
  rw [state] at server
  obtain ⟨count, received, clean, _⟩ := server
  have size : (repeated pingMessage count).length = count * pingMessage.length :=
    length_repeated _ _
  rcases heard with ⟨rfl, rfl⟩ | ⟨rfl, rfl, nonempty⟩
  · have before : repeated pingMessage count ++ (buf ++ [10]) <+:
        repeated pingMessage (pair.left.pongCount + 1) := by
      have arrived := delivered_within_sent next.toRight
      rw [delivered, sent, received] at arrived
      simp only [Party.input, ControlChannelLoop.party, Option.map_some, Event.input,
        Option.getD_some] at arrived
      simpa using arrived.trans pings
    obtain ⟨_, rest⟩ := prefix_repeated_of_append isLine_pingMessage.ne_nil before size
    apply other
    exact isLine_pingMessage.eq_of_prefix_repeated ⟨buf, rfl, clean⟩ rest
  · -- The client is gone, and it did not stop in the middle of a PING.
    obtain ⟨drained, gone⟩ := transfer_eof (Duplex.step_inr_transfer taken rfl)
    have all : pair.toRight.sent = repeated pingMessage count ++ message := by
      rw [Channel.sent, drained, received, List.append_nil]
    have whole : ∃ count, pair.toRight.sent = repeated pingMessage count := by
      have client := holds.client
      unfold KeepaliveClient.Transcript at client
      cases phase : pair.left.phase with
      | returned exit =>
          simp only [phase] at client
          refine ⟨pair.left.pongCount + 1, client.2.1 ?_⟩
          rintro rfl
          obtain ⟨_, right⟩ := holds.clientCut phase
          rw [state] at right
          cases right
      | _ => simp [phase, KeepaliveClient.party] at gone
    obtain ⟨total, whole⟩ := whole
    rw [whole] at all
    have before : repeated pingMessage count ++ message <+:
        repeated pingMessage total := by rw [all]
    obtain ⟨_, rest⟩ :=
      prefix_repeated_of_append isLine_pingMessage.ne_nil before size
    apply nonempty
    refine isLine_pingMessage.eq_nil_of_prefix_repeated rest clean ?_
    have lengths := congrArg List.length all
    rw [List.length_append, length_repeated, size] at lengths
    exact (Nat.dvd_add_right (Nat.dvd_mul_left _ _)).mp (lengths ▸ Nat.dvd_mul_left _ _)

private theorem step_inl (holds : Lockstep pair)
    (taken : KeepalivePair.step pair (.inl event) = some next) : Lockstep next := by
  obtain ⟨resumed, same, delivered, sent, otherDelivered, otherSent⟩ :=
    Duplex.step_inl_eq_some taken
  have client := KeepaliveClient.party_preserves _ _ _ _ _ holds.client resumed
  rw [← delivered, ← otherSent] at client
  have server := holds.server
  rw [← same, ← sent, ← otherDelivered] at server
  exact
    { client := client
      server := server
      clean := clean_step holds client server resumed
      clientExpected := clientExpected_step holds taken
      serverExpected := same ▸ holds.serverExpected
      clientCut := by
        intro ended
        obtain ⟨_, failed⟩ := KeepaliveClient.step_cause resumed ended
        subst failed
        have gone := transfer_cut rfl (Duplex.step_inl_transfer taken rfl)
        rw [same]
        cases state : pair.right with
        | returned exit => exact ⟨exit, rfl⟩
        | _ => simp [state, ControlChannelLoop.party] at gone
      serverCut := by
        intro ended
        rw [same] at ended
        obtain ⟨exit, phase⟩ := holds.serverCut ended
        simp [KeepaliveClient.party, KeepaliveClient.step, phase] at resumed }

private theorem step_inr (holds : Lockstep pair)
    (taken : KeepalivePair.step pair (.inr event) = some next) : Lockstep next := by
  obtain ⟨resumed, same, delivered, sent, otherDelivered, otherSent⟩ :=
    Duplex.step_inr_eq_some taken
  have server := ControlChannelLoop.party_preserves _ _ _ _ _ holds.server resumed
  rw [← delivered, ← otherSent] at server
  have client := holds.client
  rw [← same, ← sent, ← otherDelivered] at client
  exact
    { client := client
      server := server
      clean := by rw [same, holds.clean]
      clientExpected := same ▸ holds.clientExpected
      serverExpected := serverExpected_step holds taken
      clientCut := by
        intro ended
        rw [same] at ended
        obtain ⟨exit, state⟩ := holds.clientCut ended
        simp [ControlChannelLoop.party, ControlChannelLoop.step, state] at resumed
      serverCut := by
        intro ended
        rw [ended] at resumed
        obtain ⟨_, failed⟩ := ControlChannelLoop.step_cause resumed
        subst failed
        have gone := transfer_cut rfl (Duplex.step_inr_transfer taken rfl)
        rw [same]
        cases phase : pair.left.phase with
        | returned exit => exact ⟨exit, rfl⟩
        | _ => simp [phase, KeepaliveClient.party] at gone }

theorem step {event : Event ⊕ Event} (holds : Lockstep pair)
    (taken : KeepalivePair.step pair event = some next) : Lockstep next := by
  cases event with
  | inl event => exact step_inl holds taken
  | inr event => exact step_inr holds taken

theorem run {events : List (Event ⊕ Event)} (holds : Lockstep pair)
    (ran : Transition.run KeepalivePair.step pair events = some next) : Lockstep next := by
  refine run_invariant Lockstep ?_ holds ran
  intro pair event next holds taken
  exact holds.step taken

end Lockstep

/-- Between two rounds every PING has its PONG. -/
theorem Lockstep.answered {pair : KeepalivePair} (holds : Lockstep pair)
    (waiting : pair.left.phase = .awaitTick) :
    pair.toLeft.sent.length = pair.left.pongCount * 5 := by
  have upper := Lockstep.pongs_le_pings holds.server
  have lower := (delivered_within_sent pair.toLeft).length_le
  obtain ⟨_, counted⟩ := holds.client.bounds
  have client := holds.client
  unfold KeepaliveClient.Transcript at client
  simp only [waiting] at client
  rw [client.1, length_repeated, length_pingMessage] at upper
  omega

def messagesWritten (channel : Channel) : Nat := channel.sent.count 10

private theorem count_prefix {first second : Bytes} (before : first <+: second) :
    first.count 10 ≤ second.count 10 :=
  before.sublist.count_le 10

private theorem count_repeated {message : Bytes} (ends : IsLine 10 message)
    (count : Nat) : (repeated message count).count 10 = count := by
  have counted := ends.count_repeated List.not_mem_nil count
  rwa [List.append_nil] at counted

/-- In every reachable state of the two loops. -/
theorem lockstep {events : List (Event ⊕ Event)} {pair : KeepalivePair}
    (ran : run step start events = some pair) :
    pair.left.pongCount ≤ messagesWritten pair.toLeft ∧
      messagesWritten pair.toLeft ≤ messagesWritten pair.toRight ∧
      messagesWritten pair.toRight ≤ pair.left.pongCount + 1 ∧
      pair.toLeft.sent <+: repeated pongMessage (messagesWritten pair.toRight) ∧
      pair.toRight.sent <+: repeated pingMessage (pair.left.pongCount + 1) ∧
      (∀ response, pair.left.phase ≠ .returned (.unexpected response)) ∧
      (∀ message, pair.right ≠ .returned (.unexpected message)) ∧
      pair.left.unread = [] := by
  have holds := Lockstep.start.run ran
  obtain ⟨pingsSent, pongsHeard⟩ := holds.client.bounds
  obtain ⟨count, pingsHeard, pongsSent⟩ := holds.server.bounds
  have answered : repeated pongMessage pair.left.pongCount <+: pair.toLeft.sent := by
    have long : pair.left.pongCount * 5 ≤ pair.toLeft.sent.length := by
      have delivered := (delivered_within_sent pair.toLeft).length_le
      omega
    have bound := pongsSent.length_le
    rw [length_repeated, length_pongMessage] at bound
    apply List.prefix_of_prefix_length_le (repeated_mono _ _) pongsSent
    · rwa [length_repeated, length_pongMessage]
    · omega
  have counted : count ≤ messagesWritten pair.toRight := by
    have within := count_prefix (pingsHeard.trans (delivered_within_sent pair.toRight))
    rwa [count_repeated isLine_pingMessage] at within
  refine ⟨?_, ?_, ?_, pongsSent.trans (repeated_mono _ counted), pingsSent,
    holds.clientExpected, holds.serverExpected, holds.clean⟩
  · have within := count_prefix answered
    rwa [count_repeated isLine_pongMessage] at within
  · have within := count_prefix pongsSent
    rw [count_repeated isLine_pongMessage] at within
    exact within.trans counted
  · have within := count_prefix pingsSent
    rwa [count_repeated isLine_pingMessage] at within

def oneRound : List (Event ⊕ Event) :=
  [.inl .tick, .inl (.sent (utf8 "PING\n")), .inl .flushed,
    .inr (.received (utf8 "P")), .inr (.received (utf8 "I")),
    .inr (.received (utf8 "N")), .inr (.received (utf8 "G")),
    .inr (.received (utf8 "\n")), .inr (.sent (utf8 "PO")),
    .inl (.received (utf8 "PO")), .inr (.sent (utf8 "NG\n")),
    .inl (.received (utf8 "NG\n"))]

theorem lockstep_oneRound :
    ∃ pair, run step start oneRound = some pair ∧ pair.left.pongCount = 1 ∧
      messagesWritten pair.toLeft ≤ messagesWritten pair.toRight ∧
      messagesWritten pair.toRight ≤ pair.left.pongCount + 1 ∧
      pair.left.unread = [] := by
  have counted : (run step start oneRound).map (fun pair => pair.left.pongCount) =
      some 1 := by decide +kernel
  obtain ⟨pair, ran, one⟩ := Option.map_eq_some_iff.mp counted
  obtain ⟨_, written, sent, _, _, _, _, clean⟩ := lockstep ran
  exact ⟨pair, ran, one, written, sent, clean⟩

end KeepalivePair

end PortRedirect.Protocol
