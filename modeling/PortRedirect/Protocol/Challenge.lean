import PortRedirect.Protocol.Auth

namespace PortRedirect.Protocol

open PortRedirect.Text
open PortRedirect.Stream

/-! The challenge is one plain ASCII line, and what it is hashed with can be
read back from the hashed bytes. -/

theorem isAscii_challenge (randomBytes : Vector UInt8 32) (coarseUnixTime : UInt64) :
    IsAscii (challenge randomBytes coarseUnixTime) := by
  unfold challenge
  refine IsAscii.append (IsAscii.append (IsAscii.append (IsAscii.append ?_ ?_) ?_) ?_) ?_
  · decide
  · exact isAscii_hexEncode _
  · decide
  · exact isAscii_decimal _
  · decide

theorem isAscii_request {challenge : String} (ascii : IsAscii challenge) :
    IsAscii (request challenge) := by
  unfold request
  exact IsAscii.append (IsAscii.append (by decide) ascii) (by decide)

private theorem IsPlainLine.append {left right : String} (first : IsPlainLine left)
    (second : IsPlainLine right) : IsPlainLine (left ++ right) := by
  unfold IsPlainLine at *
  simp only [String.toList_append, List.mem_append, not_or]
  exact ⟨⟨first.1, second.1⟩, ⟨first.2, second.2⟩⟩

theorem isPlainLine_challenge (randomBytes : Vector UInt8 32)
    (coarseUnixTime : UInt64) :
    IsPlainLine (challenge randomBytes coarseUnixTime) := by
  unfold challenge
  refine IsPlainLine.append (IsPlainLine.append (IsPlainLine.append
    (IsPlainLine.append ?_ ?_) ?_) ?_) ?_
  · decide
  · exact isPlainLine_hexEncode _
  · decide
  · exact isPlainLine_decimal _
  · decide

theorem length_challenge_le (randomBytes : Vector UInt8 32) (coarseUnixTime : UInt64) :
    (challenge randomBytes coarseUnixTime).toList.length ≤ 116 := by
  have digits : (decimal coarseUnixTime.toNat).toList.length ≤ 20 := by
    apply length_decimal_le (by decide)
    have bound := coarseUnixTime.toNat_lt
    omega
  have hex : (hexEncode randomBytes.toList).toList.length = 64 := by
    rw [length_toList_hexEncode, Vector.length_toList]
  have front : "this-is-the-challenge-".toList.length = 22 := by decide
  have middle : "-at-".toList.length = 4 := by decide
  have back : "-pr-v1".toList.length = 6 := by decide
  unfold challenge
  iterate 4 rw [String.toList_append, List.length_append]
  rw [front, hex, middle, back]
  omega

theorem utf8_request (challenge : String) :
    utf8 (request challenge) =
      utf8 "WHO THE HECK ARE YOU?\n" ++ (utf8 challenge ++ utf8 "\n") := by
  have outer := utf8_append ("WHO THE HECK ARE YOU?\n" ++ challenge) "\n"
  rw [utf8_append "WHO THE HECK ARE YOU?\n" challenge, List.append_assoc] at outer
  exact outer

theorem length_request (challenge : String) (ascii : IsAscii challenge) :
    (utf8 (request challenge)).length = challenge.toList.length + 23 := by
  have front : "WHO THE HECK ARE YOU?\n".toList.length = 22 := by decide
  have back : "\n".toList.length = 1 := by decide
  rw [length_utf8_of_ascii (isAscii_request ascii)]
  unfold request
  iterate 2 rw [String.toList_append, List.length_append]
  rw [front, back]
  omega

/-- The length check before the request is sent never fires. -/
theorem start_challenge (randomBytes : Vector UInt8 32) (coarseUnixTime : UInt64) :
    ServerAuthenticate.start (challenge randomBytes coarseUnixTime) =
      .writeRequest (utf8 (request (challenge randomBytes coarseUnixTime))) := by
  have bound := length_challenge_le randomBytes coarseUnixTime
  rw [ServerAuthenticate.start, if_neg]
  rw [length_request _ (isAscii_challenge randomBytes coarseUnixTime)]
  unfold challengeRequestBufferLength
  omega

/-- The hashed bytes determine the random bytes, the minute and the key, although
nothing separates the challenge from the key: the hex part has a fixed length and
the minute ends where its `-` stands. -/
theorem hashInput_injective {firstBytes secondBytes : Vector UInt8 32}
    {firstTime secondTime : UInt64} {firstPsk secondPsk : String}
    (same : hashInput (challenge firstBytes firstTime) firstPsk =
      hashInput (challenge secondBytes secondTime) secondPsk) :
    firstBytes = secondBytes ∧ firstTime = secondTime ∧ firstPsk = secondPsk := by
  have texts : challenge firstBytes firstTime ++ firstPsk =
      challenge secondBytes secondTime ++ secondPsk := by
    apply utf8_injective
    simpa [hashInput] using same
  have chars := congrArg String.toList texts
  unfold challenge at chars
  iterate 5 rw [String.toList_append, String.toList_append] at chars
  iterate 4 rw [List.append_assoc, List.append_assoc] at chars
  have sameLength : (hexEncode firstBytes.toList).toList.length =
      (hexEncode secondBytes.toList).toList.length := by
    rw [length_toList_hexEncode, length_toList_hexEncode, Vector.length_toList,
      Vector.length_toList]
  obtain ⟨hexes, rest⟩ :=
    List.append_inj (List.append_cancel_left chars) sameLength
  have rest := List.append_cancel_left rest
  have dash : ∀ psk : String, "-pr-v1".toList ++ psk.toList =
      '-' :: ("pr-v1".toList ++ psk.toList) := fun _ => rfl
  rw [dash, dash] at rest
  obtain ⟨times, tails⟩ := decimal_append_injective (by decide) rest
  refine ⟨?_, UInt64.toNat_inj.mp times,
    String.toList_inj.mp (List.append_cancel_left tails)⟩
  exact Vector.toList_inj.mp (hexEncode_injective (String.toList_inj.mp hexes))

/-! What the client makes of a first read that stops anywhere in the request. -/

private theorem isPlainLine_prompt : IsPlainLine "WHO THE HECK ARE YOU?" := by decide

theorem lines_request {challenge : String} (plain : IsPlainLine challenge) :
    lines (request challenge) = ["WHO THE HECK ARE YOU?", challenge] := by
  have joined : request challenge =
      "WHO THE HECK ARE YOU?" ++ "\n" ++ (challenge ++ "\n" ++ "") := by
    rw [String.append_empty, ← String.append_assoc]
    rfl
  rw [joined, lines_append_newline isPlainLine_prompt, lines_append_newline plain,
    lines_empty]

private theorem heardChallenge_short : ∀ count < 23,
    (heardChallenge ((utf8 "WHO THE HECK ARE YOU?\n").take count)).toOption = none := by
  decide +kernel

/-- A first read that stops within the prompt is an error, and one that stops
after it holds as much of the challenge as it has read. -/
theorem heardChallenge_take {challenge : String} (ascii : IsAscii challenge)
    (plain : IsPlainLine challenge) {count : Nat}
    (bound : count ≤ (utf8 (request challenge)).length) :
    (count < 23 ∧
      ∃ error, heardChallenge ((utf8 (request challenge)).take count) = .error error) ∨
    (23 ≤ count ∧ ∃ heard,
      heardChallenge ((utf8 (request challenge)).take count) = .ok heard ∧
        utf8 heard = (utf8 challenge).take (count - 22)) := by
  have prompt : (utf8 "WHO THE HECK ARE YOU?\n").length = 22 := by decide
  have parts := utf8_request challenge
  rcases Nat.lt_or_ge count 23 with short | long
  · refine .inl ⟨short, ?_⟩
    have within : count ≤ (utf8 "WHO THE HECK ARE YOU?\n").length := by
      rw [prompt]
      exact Nat.le_of_lt_succ short
    have none := heardChallenge_short count short
    rw [parts, List.take_append_of_le_length within]
    cases heard : heardChallenge ((utf8 "WHO THE HECK ARE YOU?\n").take count) with
    | error error => exact ⟨error, rfl⟩
    | ok challenge => simp [heard, Except.toOption] at none
  · refine .inr ⟨long, ?_⟩
    obtain ⟨more, rfl⟩ := Nat.exists_eq_add_of_le (Nat.le_of_succ_le long)
    have positive : 1 ≤ more := Nat.le_of_add_le_add_left (a := 22) long
    have cut : (utf8 (request challenge)).take (22 + more) =
        utf8 "WHO THE HECK ARE YOU?\n" ++ (utf8 challenge ++ utf8 "\n").take more := by
      rw [parts, ← prompt, List.take_length_add_append]
    have size : (utf8 challenge).length = challenge.toList.length :=
      length_utf8_of_ascii ascii
    rw [length_request challenge ascii] at bound
    rw [Nat.add_sub_cancel_left]
    rcases Nat.lt_or_ge challenge.toList.length more with whole | part
    · refine ⟨challenge, ?_, ?_⟩
      · have all : (utf8 challenge ++ utf8 "\n").take more = utf8 challenge ++ utf8 "\n" := by
          apply List.take_of_length_le
          rw [List.length_append, size]
          exact whole
        rw [cut, all, ← parts, heardChallenge, fromUtf8_utf8]
        simp only [lines_request plain, if_pos]
      · rw [List.take_of_length_le (size ▸ Nat.le_of_lt whole)]
    · have front : utf8 (String.ofList (challenge.toList.take more)) =
          (utf8 challenge).take more := by
        rw [utf8_of_ascii (ascii.take more), utf8_of_ascii ascii, String.toList_ofList,
          List.map_take]
      refine ⟨String.ofList (challenge.toList.take more), ?_, front⟩
      have nonempty : String.ofList (challenge.toList.take more) ≠ "" := by
        intro empty
        have none : challenge.toList.take more = [] := by
          simpa using congrArg String.toList empty
        have zero := congrArg List.length none
        rw [List.length_take_of_le part, List.length_nil] at zero
        omega
      have text : (utf8 (request challenge)).take (22 + more) =
          utf8 ("WHO THE HECK ARE YOU?" ++ "\n" ++
            String.ofList (challenge.toList.take more)) := by
        rw [cut, List.take_append_of_le_length (size.symm ▸ part), ← front, ← utf8_append]
        rfl
      rw [text, heardChallenge, fromUtf8_utf8]
      simp only [lines_append_newline isPlainLine_prompt,
        lines_of_plain (plain.take more) nonempty, if_pos]

theorem pollRead_request (randomBytes : Vector UInt8 32) (coarseUnixTime : UInt64) :
    pollRead 256 (.received (utf8 (request (challenge randomBytes coarseUnixTime)))) =
      some (.read (utf8 (request (challenge randomBytes coarseUnixTime)))) := by
  have small := length_challenge_le randomBytes coarseUnixTime
  have size := length_request _ (isAscii_challenge randomBytes coarseUnixTime)
  apply if_pos
  refine ⟨List.ne_nil_of_length_pos ?_, ?_⟩ <;> omega

theorem heardChallenge_request (randomBytes : Vector UInt8 32) (coarseUnixTime : UInt64) :
    heardChallenge (utf8 (request (challenge randomBytes coarseUnixTime))) =
      .ok (challenge randomBytes coarseUnixTime) := by
  have ascii := isAscii_challenge randomBytes coarseUnixTime
  have size := length_request _ ascii
  rcases heardChallenge_take ascii (isPlainLine_challenge randomBytes coarseUnixTime)
    le_rfl with ⟨short, _⟩ | ⟨_, heard, told, part⟩
  · omega
  · rw [List.take_length] at told
    rw [told]
    rw [List.take_of_length_le (by rw [size, length_utf8_of_ascii ascii]; omega)] at part
    rw [utf8_injective part]

/-- Nothing in a challenge can begin the word that the client waits for. -/
theorem not_mem_challenge (randomBytes : Vector UInt8 32) (coarseUnixTime : UInt64) :
    asciiByte 'H' ∉ utf8 (challenge randomBytes coarseUnixTime) := by
  rw [mem_utf8_of_ascii (isAscii_challenge randomBytes coarseUnixTime) (by decide)]
  intro member
  unfold challenge at member
  simp only [String.toList_append, List.mem_append] at member
  rcases member with (((front | hex) | middle) | digit) | back
  · exact absurd front (by decide)
  · obtain ⟨value, bound, digit⟩ := mem_hexEncode hex
    have checked : ∀ value < 16, 'H' ≠ Nat.digitChar value := by decide
    exact checked value bound digit
  · exact absurd middle (by decide)
  · exact absurd (mem_decimal digit) (by decide)
  · exact absurd back (by decide)

end PortRedirect.Protocol
