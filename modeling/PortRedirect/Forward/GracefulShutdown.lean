import PortRedirect.Forward
import PortRedirect.Text.Digits

namespace PortRedirect.Forward

open PortRedirect.Text
open PortRedirect.Protocol
open PortRedirect.Stream
open PortRedirect.Transition

/-! Which failures of a copy pass for a graceful shutdown, by the texts that they have in
fact. -/

/-- `Display` of quinn's `WriteError::Stopped`. -/
def sendingStopped (code : Nat) : String :=
  "sending stopped by peer: error " ++ decimal code

/-- `Display` of quinn's `ReadError::Reset`. -/
def streamReset (code : Nat) : String := "stream reset by peer: error " ++ decimal code

/-- `Display` of an error of the operating system. -/
def osError (text : String) (code : Nat) : String :=
  text ++ " (os error " ++ decimal code ++ ")"

theorem contains_iff {text pattern : String} :
    contains text pattern = true ↔ pattern.toList <:+: text.toList := by
  rw [contains, decide_eq_true_eq]

/-- An "error 0" that is not in front of the rest ends at the rest's first character or
behind a blank in it. -/
private theorem found_in_append {front rest : List Char}
    (found : "error 0".toList <:+: front ++ rest) :
    "error 0".toList <:+: front ∨ ∃ before after, rest = before ++ '0' :: after ∧
      (before = [] ∨ ' ' ∈ before) := by
  obtain ⟨left, right, same⟩ := found
  have split : left ++ "error ".toList ++ '0' :: right = front ++ rest := by
    rw [← same]
    simp
  rcases List.append_eq_append_iff.mp split with
    ⟨between, rfl, zero⟩ | ⟨between, blank, rfl⟩
  · cases between with
    | nil => exact .inr ⟨[], right, zero.symm, .inl rfl⟩
    | cons char between =>
        refine .inl ⟨left, between, ?_⟩
        rw [← List.head_eq_of_cons_eq zero]
        simp
  · refine .inr ⟨between, right, rfl, ?_⟩
    cases between with
    | nil => exact .inl rfl
    | cons char between =>
        have last := congrArg List.getLast? blank
        rw [List.getLast?_append_of_ne_nil _ (List.cons_ne_nil _ _)] at last
        have ending : (left ++ "error ".toList).getLast? = some ' ' := by simp
        rw [ending] at last
        exact .inr (List.mem_of_getLast? last.symm)

private theorem no_blank_in_decimal (code : Nat) : ' ' ∉ (decimal code).toList := by
  intro member
  exact absurd (mem_decimal member) (by decide)

/-- A text that ends in a numeral contains "error 0" where the numeral is 0, and otherwise
only where it does without the numeral. -/
private theorem found_before_decimal {front after : List Char} {code : Nat}
    (solid : ' ' ∉ after)
    (found : "error 0".toList <:+: front ++ ((decimal code).toList ++ after)) :
    "error 0".toList <:+: front ∨ code = 0 := by
  rcases found_in_append found with inFront | ⟨before, rest, split, none | blank⟩
  · exact .inl inFront
  · right
    subst none
    obtain ⟨digit, digits, numeral⟩ : ∃ digit digits,
        (decimal code).toList = digit :: digits := by
      apply List.exists_cons_of_ne_nil
      rw [decimal, Nat.toString_eq_ofList_toDigits, String.toList_ofList]
      exact Nat.toDigits_ne_nil
    rw [numeral, List.nil_append, List.cons_append] at split
    rw [List.head_eq_of_cons_eq split] at numeral
    exact eq_zero_of_decimal_head numeral
  · have member : ' ' ∈ (decimal code).toList ++ after := by
      rw [split]
      exact List.mem_append_left _ blank
    exact absurd member (by simp [no_blank_in_decimal, solid])

/-- A numeral completes an "error 0" that its front lacks only when it is 0. -/
private theorem contains_numeral_iff {front : String}
    (clean : contains front "error 0" = false)
    (complete : contains (front ++ "0") "error 0" = true) (code : Nat) :
    contains (front ++ decimal code) "error 0" = true ↔ code = 0 := by
  constructor
  · intro found
    rw [contains_iff, String.toList_append, ← List.append_nil (decimal code).toList] at found
    rcases found_before_decimal List.not_mem_nil found with inFront | zero
    · rw [contains_iff.mpr inFront] at clean
      cases clean
    · exact zero
  · rintro rfl
    exact complete

theorem contains_sendingStopped_iff (code : Nat) :
    contains (sendingStopped code) "error 0" = true ↔ code = 0 :=
  contains_numeral_iff (by decide +kernel) (by decide +kernel) code

theorem contains_streamReset_iff (code : Nat) :
    contains (streamReset code) "error 0" = true ↔ code = 0 :=
  contains_numeral_iff (by decide +kernel) (by decide +kernel) code

theorem contains_osError {text : String} {code : Nat} (positive : 1 ≤ code)
    (clean : contains text "error 0" = false) :
    contains (osError text code) "error 0" = false := by
  rw [Bool.eq_false_iff] at clean ⊢
  intro found
  rw [contains_iff, osError, String.toList_append, String.toList_append,
    String.toList_append, List.append_assoc] at found
  rcases found_before_decimal (by decide) found with inFront | zero
  · rcases found_in_append inFront with inText | ⟨before, after, split, _⟩
    · exact clean (contains_iff.mpr inText)
    · have member : '0' ∈ " (os error ".toList := by
        rw [split]
        simp
      exact absurd member (by decide)
  · omega

namespace ForwardBidirectional

/-- What `forward_bidirectional` makes of a copy that has failed. -/
def Concluded (forward : ForwardBidirectional) : Prop :=
  ∀ err, forward.copy.result = some (.error err) →
    (contains err "error 0" = true → forward.result = some (.ok ())) ∧
    (contains err "error 0" = false → ∃ error, forward.result = some (.error error))

variable {forward next : ForwardBidirectional}

theorem concluded_step {event : CopyEvent} (taken : forward.step event = some next) :
    next.Concluded := by
  intro err failed
  obtain ⟨_, copy, _, ⟨busy, rfl⟩ | ⟨copied, ended, rfl⟩⟩ := step_eq_some taken
  · rw [busy] at failed
    cases failed
  · rw [afterCopy_copy, ended] at failed
    cases failed
    constructor
    · intro graceful
      simp [afterCopy, graceful]
    · intro broken
      simp [afterCopy, broken]

/-- Whatever the copy has done before it failed: with a stream that the peer has stopped or
reset `forward_bidirectional` returns `Ok` exactly for code 0, and with an error of the
operating system it returns that error. -/
theorem graceful_shutdown_exact {streamACounter streamBCounter : Nat}
    {events : List CopyEvent} {final : ForwardBidirectional}
    (ran : run step { streamACounter := streamACounter, streamBCounter := streamBCounter }
      events = some final) :
    (∀ code, ∀ err ∈ [sendingStopped code, streamReset code],
      final.copy.result = some (.error err) →
        (final.result = some (.ok ()) ↔ code = 0) ∧
        (code ≠ 0 → ∃ error, final.result = some (.error error))) ∧
    (∀ text code, 1 ≤ code → contains text "error 0" = false →
      final.copy.result = some (.error (osError text code)) →
        ∃ error, final.result = some (.error error)) := by
  have concluded : final.Concluded :=
    run_invariant Concluded (fun _ _ _ _ taken => concluded_step taken)
      (fun _ failed => by cases failed) ran
  constructor
  · intro code err member failed
    have exactly : contains err "error 0" = true ↔ code = 0 := by
      rcases List.mem_pair.mp member with rfl | rfl
      · exact contains_sendingStopped_iff code
      · exact contains_streamReset_iff code
    obtain ⟨graceful, broken⟩ := concluded err failed
    have error (nonzero : code ≠ 0) : ∃ error, final.result = some (.error error) :=
      broken (Bool.eq_false_iff.mpr fun found => nonzero (exactly.mp found))
    refine ⟨⟨?_, ?_⟩, error⟩
    · intro returned
      by_contra nonzero
      obtain ⟨error, other⟩ := error nonzero
      cases returned.symm.trans other
    · exact fun zero => graceful (exactly.mpr zero)
  · intro text code positive clean failed
    exact (concluded _ failed).2 (contains_osError positive clean)

/-- A forwarded byte, and then the call that fails. -/
def failing (err : String) : List CopyEvent :=
  [.aToB (.read [7]), .aToB (.writeFailed err)]

private theorem run_failing (err : String) :
    ∃ final, run step { streamACounter := 0, streamBCounter := 0 } (failing err) =
      some final ∧ final.copy.result = some (.error err) := by
  let copied : ForwardBidirectional :=
    { copy := { aToB := { buffer := [7] }, result := some (.error err) }
      streamACounter := 0
      streamBCounter := 0 }
  refine ⟨copied.afterCopy (.error err), rfl, ?_⟩
  rw [afterCopy_copy]

theorem graceful_shutdown_exact_stopped :
    (∃ final, run step { streamACounter := 0, streamBCounter := 0 }
        (failing (sendingStopped 0)) = some final ∧ final.result = some (.ok ())) ∧
    (∃ final, run step { streamACounter := 0, streamBCounter := 0 }
        (failing (streamReset 10)) = some final ∧
      ∃ error, final.result = some (.error error)) ∧
    ∃ final, run step { streamACounter := 0, streamBCounter := 0 }
        (failing (osError "Connection reset by peer" 104)) = some final ∧
      ∃ error, final.result = some (.error error) := by
  refine ⟨?_, ?_, ?_⟩
  · obtain ⟨final, ran, failed⟩ := run_failing (sendingStopped 0)
    exact ⟨final, ran, ((graceful_shutdown_exact ran).1 0 _ (by simp) failed).1.mpr rfl⟩
  · obtain ⟨final, ran, failed⟩ := run_failing (streamReset 10)
    exact ⟨final, ran,
      ((graceful_shutdown_exact ran).1 10 _ (by simp) failed).2 (by decide)⟩
  · obtain ⟨final, ran, failed⟩ := run_failing (osError "Connection reset by peer" 104)
    exact ⟨final, ran, (graceful_shutdown_exact ran).2 "Connection reset by peer" 104
      (by decide) (by decide +kernel) failed⟩

end ForwardBidirectional

end PortRedirect.Forward
