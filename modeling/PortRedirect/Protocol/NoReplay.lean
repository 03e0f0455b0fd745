import PortRedirect.Crypto.Sha512
import PortRedirect.Protocol.Transcript

namespace PortRedirect.Protocol

open PortRedirect.Text
open PortRedirect.Stream
open PortRedirect.Transition

/-! One run of `server_authenticate` against a peer that may write anything. -/

namespace ServerAuthenticate

variable {sha512 : Bytes → Digest} {psk : String} {randomBytes : Vector UInt8 32}
  {coarseUnixTime : UInt64} {stream : Bytes}

/-- A run that returns `Ok` has read the response and found it right. -/
theorem isResponse_of_ok {events : List (Event ⊕ Empty)}
    {final : Duplex ServerAuthenticate Unit}
    (ran : run (Duplex.step (party sha512 (challenge randomBytes coarseUnixTime) psk)
        Party.departed)
      (Duplex.fed (start (challenge randomBytes coarseUnixTime)) stream) events =
        some final)
    (ok : final.left = .returned (.ok ())) :
    IsResponse sha512 (challenge randomBytes coarseUnixTime) psk (stream.take 129) := by
  have transcript : Transcript sha512 (challenge randomBytes coarseUnixTime) psk final.left
      final.toLeft.delivered final.toRight.sent := by
    refine Duplex.left_invariant _ party_preserves ?_ ran
    simp only [Duplex.fed, Channel.sent, List.append_nil]
    exact transcript_start randomBytes coarseUnixTime
  rw [ok] at transcript
  obtain ⟨response, _⟩ := transcript
  have whole := Duplex.fed_sent ran
  rw [Channel.sent] at whole
  rw [← whole, ← response.length_eq, List.take_left]
  exact response

theorem run_response {response : String} (full : (utf8 response).length = 129) :
    let accepted := decide (trimEnd response =
      expectedResponse sha512 (challenge randomBytes coarseUnixTime) psk)
    run (Duplex.step (party sha512 (challenge randomBytes coarseUnixTime) psk)
        Party.departed)
      (Duplex.fed (start (challenge randomBytes coarseUnixTime)) (utf8 response))
      [.inl (.sent (utf8 (request (challenge randomBytes coarseUnixTime)))),
        .inl .flushed, .inl (.received (utf8 response)), .inl (.sent (verdict accepted)),
        .inl .flushed] =
      some
        { left := .returned (if accepted then .ok ()
            else .error (.message "Authentication failed: response mismatch"))
          right := ()
          toRight :=
            { pending := utf8 (request (challenge randomBytes coarseUnixTime)) ++
                verdict accepted }
          toLeft := { delivered := utf8 response } } := by
  have nonempty : utf8 response ≠ [] := by
    intro empty
    simp [empty] at full
  have filled : pollReadExact 129 [] (.received (utf8 response)) =
      some (.filled (utf8 response)) := pollReadExact_filled nonempty full
  rw [start_challenge]
  simp [run, Duplex.step, Duplex.fed, party, step, transfer, Channel.write,
    Channel.deliver, pollFlush, filled, verify]
  split <;> rfl

end ServerAuthenticate

/-- Equal hash inputs come from equal draws, minutes and keys, and so, where the
digests of two different inputs differ, a response that one run accepts is accepted
by no run with another draw, minute or key. -/
theorem response_not_replayed (sha512 : Bytes → Digest)
    (firstBytes secondBytes : Vector UInt8 32) (firstTime secondTime : UInt64)
    (firstPsk secondPsk : String) :
    (hashInput (challenge firstBytes firstTime) firstPsk =
        hashInput (challenge secondBytes secondTime) secondPsk →
      firstBytes = secondBytes ∧ firstTime = secondTime ∧ firstPsk = secondPsk) ∧
    ∀ (_ : sha512 (hashInput (challenge firstBytes firstTime) firstPsk) =
          sha512 (hashInput (challenge secondBytes secondTime) secondPsk) →
        hashInput (challenge firstBytes firstTime) firstPsk =
          hashInput (challenge secondBytes secondTime) secondPsk)
      (_ : ¬ (firstBytes = secondBytes ∧ firstTime = secondTime ∧ firstPsk = secondPsk))
      (firstStream secondStream : Bytes)
      (firstEvents secondEvents : List (Event ⊕ Empty))
      (firstFinal secondFinal : Duplex ServerAuthenticate Unit),
      run (Duplex.step
          (ServerAuthenticate.party sha512 (challenge firstBytes firstTime) firstPsk)
          Party.departed)
        (Duplex.fed (ServerAuthenticate.start (challenge firstBytes firstTime))
          firstStream) firstEvents = some firstFinal →
      run (Duplex.step
          (ServerAuthenticate.party sha512 (challenge secondBytes secondTime) secondPsk)
          Party.departed)
        (Duplex.fed (ServerAuthenticate.start (challenge secondBytes secondTime))
          secondStream) secondEvents = some secondFinal →
      firstStream.take 129 = secondStream.take 129 →
      firstFinal.left = .returned (.ok ()) → secondFinal.left ≠ .returned (.ok ()) := by
  refine ⟨hashInput_injective, ?_⟩
  intro noCollision differ firstStream secondStream firstEvents secondEvents firstFinal
    secondFinal firstRan secondRan sameResponse firstOk secondOk
  obtain ⟨firstByte, _, firstResponse⟩ :=
    ServerAuthenticate.isResponse_of_ok firstRan firstOk
  obtain ⟨secondByte, _, secondResponse⟩ :=
    ServerAuthenticate.isResponse_of_ok secondRan secondOk
  have sameBytes : utf8 (expectedResponse sha512 (challenge firstBytes firstTime)
        firstPsk) ++ [firstByte] =
      utf8 (expectedResponse sha512 (challenge secondBytes secondTime) secondPsk) ++
        [secondByte] := by
    rw [← firstResponse, ← secondResponse, sameResponse]
  have sameText := utf8_injective (List.append_inj_left' sameBytes rfl)
  have sameDigest := Vector.toList_inj.mp (hexEncode_injective sameText)
  exact differ (hashInput_injective (noCollision sameDigest))

/-- A response recorded in the first minute and sent again in the second. -/
theorem response_not_replayed_a_minute_later :
    let recorded := expectedResponse Crypto.Sha512.digest
      (challenge (Vector.replicate 32 0) 0) "key" ++ "\n"
    ∃ (firstEvents secondEvents : List (Event ⊕ Empty))
      (firstFinal secondFinal : Duplex ServerAuthenticate Unit),
      run (Duplex.step (ServerAuthenticate.party Crypto.Sha512.digest
          (challenge (Vector.replicate 32 0) 0) "key") Party.departed)
        (Duplex.fed (ServerAuthenticate.start (challenge (Vector.replicate 32 0) 0))
          (utf8 recorded)) firstEvents = some firstFinal ∧
      firstFinal.left = .returned (.ok ()) ∧
      run (Duplex.step (ServerAuthenticate.party Crypto.Sha512.digest
          (challenge (Vector.replicate 32 0) 1) "key") Party.departed)
        (Duplex.fed (ServerAuthenticate.start (challenge (Vector.replicate 32 0) 1))
          (utf8 recorded)) secondEvents = some secondFinal ∧
      secondFinal.left ≠ .returned (.ok ()) := by
  intro recorded
  have full : (utf8 recorded).length = 129 := by
    rw [utf8_append, List.length_append, length_expectedResponse]
    decide
  have right : trimEnd recorded = expectedResponse Crypto.Sha512.digest
      (challenge (Vector.replicate 32 0) 0) "key" :=
    trimEnd_append_space (hexEncode_solid _) (by decide)
  have digests : Crypto.Sha512.digest
        (hashInput (challenge (Vector.replicate 32 0) 0) "key") ≠
      Crypto.Sha512.digest (hashInput (challenge (Vector.replicate 32 0) 1) "key") := by
    decide +kernel
  refine ⟨_, _, _, _, ServerAuthenticate.run_response full, ?_,
    ServerAuthenticate.run_response full, ?_⟩
  · simp [right]
  · refine (response_not_replayed Crypto.Sha512.digest (Vector.replicate 32 0)
      (Vector.replicate 32 0) 0 1 "key" "key").2 ?_ (by decide) (utf8 recorded)
      (utf8 recorded) _ _ _ _ (ServerAuthenticate.run_response full)
      (ServerAuthenticate.run_response full) rfl ?_
    · intro same
      exact absurd same digests
    · simp [right]

end PortRedirect.Protocol
