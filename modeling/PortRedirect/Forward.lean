import PortRedirect.Protocol.Basic
import PortRedirect.Stream.Copy
import PortRedirect.Transition.Run

namespace PortRedirect.Forward

open PortRedirect.Protocol
open PortRedirect.Stream
open PortRedirect.Transition

/-! `forward_bidirectional`: a copy in both directions, whose totals go to two counters
when it has ended. -/

def contains (text pattern : String) : Bool := decide (pattern.toList <:+: text.toList)

/-- The counters are `AtomicU64` and taken not to wrap. -/
structure ForwardBidirectional where
  copy : CopyBidirectional := {}
  streamACounter : Nat
  streamBCounter : Nat
  result : Option (Except Error Unit) := none
deriving DecidableEq, Repr

namespace ForwardBidirectional

def afterCopy (forward : ForwardBidirectional) :
    Except String (Nat × Nat) → ForwardBidirectional
  | .ok (bytesA, bytesB) =>
      { forward with
        streamACounter := forward.streamACounter + bytesA
        streamBCounter := forward.streamBCounter + bytesB
        result := some (.ok ()) }
  | .error err =>
      -- "error 0" passes for a graceful shutdown
      if contains err "error 0" then { forward with result := some (.ok ()) }
      else
        { forward with
          result := some (.error (.context "Bidirectional copy failed"
            (.io (.reported err)))) }

def step (forward : ForwardBidirectional) (event : CopyEvent) :
    Option ForwardBidirectional :=
  match forward.result with
  | some _ => none
  | none =>
      (forward.copy.step quicStreamReadBufferSize event).map fun copy =>
        match copy.result with
        | none => { forward with copy := copy }
        | some copied => { forward with copy := copy }.afterCopy copied

theorem step_eq_some {forward next : ForwardBidirectional} {event : CopyEvent}
    (taken : forward.step event = some next) :
    forward.result = none ∧
      ∃ copy, forward.copy.step quicStreamReadBufferSize event = some copy ∧
        ((copy.result = none ∧ next = { forward with copy := copy }) ∨
          ∃ copied, copy.result = some copied ∧
            next = { forward with copy := copy }.afterCopy copied) := by
  unfold step at taken
  split at taken
  · cases taken
  · rename_i live
    obtain ⟨copy, copied, rfl⟩ := Option.map_eq_some_iff.mp taken
    refine ⟨live, copy, copied, ?_⟩
    cases ended : copy.result with
    | none => exact .inl ⟨rfl, rfl⟩
    | some copied => exact .inr ⟨copied, rfl, rfl⟩

@[simp] theorem afterCopy_copy (forward : ForwardBidirectional)
    (copied : Except String (Nat × Nat)) : (forward.afterCopy copied).copy = forward.copy := by
  unfold afterCopy
  split
  · rfl
  · split <;> rfl

theorem afterCopy_returned (forward : ForwardBidirectional)
    (copied : Except String (Nat × Nat)) : (forward.afterCopy copied).result ≠ none := by
  unfold afterCopy
  split
  · simp
  · split <;> simp

theorem afterCopy_error (forward : ForwardBidirectional) (error : String) :
    (forward.afterCopy (.error error)).streamACounter = forward.streamACounter ∧
      (forward.afterCopy (.error error)).streamBCounter = forward.streamBCounter := by
  simp only [afterCopy]
  split <;> exact ⟨rfl, rfl⟩

theorem copying_of_running {forward next : ForwardBidirectional} {event : CopyEvent}
    (taken : forward.step event = some next) (running : next.result = none) :
    next.copy.result = none := by
  obtain ⟨_, copy, _, ⟨busy, rfl⟩ | ⟨copied, _, rfl⟩⟩ := step_eq_some taken
  · exact busy
  · exact absurd running (afterCopy_returned _ copied)

/-- Everything that a call can do: it moves one direction, and the task may return when
both are done; or it fails, and the task returns. -/
theorem step_cases {forward next : ForwardBidirectional} {event : CopyEvent}
    (taken : forward.step event = some next) :
    forward.result = none ∧
      ((∃ call, event = .aToB call ∧
          forward.copy.aToB.step quicStreamReadBufferSize call =
            some (.ok next.copy.aToB) ∧
          next.copy.bToA = forward.copy.bToA ∧
          (next.result = none ∨
            next.copy.aToB.stage = .done ∧ next.copy.bToA.stage = .done)) ∨
        (∃ call, event = .bToA call ∧
          forward.copy.bToA.step quicStreamReadBufferSize call =
            some (.ok next.copy.bToA) ∧
          next.copy.aToB = forward.copy.aToB ∧
          (next.result = none ∨
            next.copy.aToB.stage = .done ∧ next.copy.bToA.stage = .done)) ∨
        ((∃ call error, event = .aToB call ∧
              forward.copy.aToB.step quicStreamReadBufferSize call = some (.error error) ∨
            event = .bToA call ∧
              forward.copy.bToA.step quicStreamReadBufferSize call = some (.error error)) ∧
          next.copy.aToB = forward.copy.aToB ∧ next.copy.bToA = forward.copy.bToA ∧
          next.result ≠ none)) := by
  obtain ⟨live, copy, moved, outcome⟩ := step_eq_some taken
  obtain ⟨idle, cases⟩ := CopyBidirectional.step_cases moved
  have same : next.copy = copy := by
    rcases outcome with ⟨_, rfl⟩ | ⟨copied, _, rfl⟩
    · rfl
    · exact afterCopy_copy _ copied
  have returned (done : copy.result = none ∨
      copy.aToB.stage = .done ∧ copy.bToA.stage = .done) :
      next.result = none ∨ next.copy.aToB.stage = .done ∧ next.copy.bToA.stage = .done := by
    rw [same]
    rcases outcome with ⟨busy, rfl⟩ | ⟨copied, ended, rfl⟩
    · exact .inl live
    · rw [ended] at done
      exact .inr (done.resolve_left (Option.some_ne_none copied))
  refine ⟨live, ?_⟩
  rcases cases with ⟨call, transfer, rfl, called, rfl⟩ | ⟨call, transfer, rfl, called, rfl⟩ |
    ⟨call, error, failed, rfl⟩
  · refine .inl ⟨call, rfl, ?_, ?_, ?_⟩
    · rw [same, CopyBidirectional.settle_aToB]
      exact called
    · rw [same, CopyBidirectional.settle_bToA]
    · apply returned
      rw [CopyBidirectional.settle_aToB, CopyBidirectional.settle_bToA]
      exact (@CopyBidirectional.settle_result { forward.copy with aToB := transfer }
        idle).imp And.left And.right
  · refine .inr (.inl ⟨call, rfl, ?_, ?_, ?_⟩)
    · rw [same, CopyBidirectional.settle_bToA]
      exact called
    · rw [same, CopyBidirectional.settle_aToB]
    · apply returned
      rw [CopyBidirectional.settle_aToB, CopyBidirectional.settle_bToA]
      exact (@CopyBidirectional.settle_result { forward.copy with bToA := transfer }
        idle).imp And.left And.right
  · refine .inr (.inr ⟨⟨call, error, failed⟩, by rw [same], by rw [same], ?_⟩)
    rcases outcome with ⟨busy, _⟩ | ⟨copied, _, rfl⟩
    · cases busy
    · exact afterCopy_returned _ copied

structure Counted (streamACounter streamBCounter : Nat) (history : List CopyEvent)
    (forward : ForwardBidirectional) : Prop where
  metered : forward.copy.Metered history
  running : forward.result = none → forward.copy.result = none ∧
    forward.streamACounter = streamACounter ∧ forward.streamBCounter = streamBCounter
  returned : forward.result ≠ none →
    (∃ bytesA bytesB, forward.copy.result = some (.ok (bytesA, bytesB)) ∧
        forward.streamACounter = streamACounter + bytesA ∧
        forward.streamBCounter = streamBCounter + bytesB) ∨
      (∃ error, forward.copy.result = some (.error error)) ∧
        forward.streamACounter = streamACounter ∧ forward.streamBCounter = streamBCounter

variable {streamACounter streamBCounter : Nat} {history : List CopyEvent}
  {forward next : ForwardBidirectional}

theorem counted_start : Counted streamACounter streamBCounter []
    { streamACounter := streamACounter, streamBCounter := streamBCounter } where
  metered := CopyBidirectional.metered_start
  running := fun _ => ⟨rfl, rfl, rfl⟩
  returned := fun returned => absurd rfl returned

theorem counted_step {event : CopyEvent}
    (holds : Counted streamACounter streamBCounter history forward)
    (taken : forward.step event = some next) :
    Counted streamACounter streamBCounter (history ++ [event]) next := by
  obtain ⟨live, copy, copied, outcome⟩ := step_eq_some taken
  have metered := CopyBidirectional.metered_step holds.metered copied
  obtain ⟨_, sameA, sameB⟩ := holds.running live
  rcases outcome with ⟨busy, rfl⟩ | ⟨copied, ended, rfl⟩
  · exact ⟨metered, fun _ => ⟨busy, sameA, sameB⟩, fun returned => absurd live returned⟩
  · refine ⟨by rwa [afterCopy_copy], ?_, ?_⟩
    · intro running
      exact absurd running (afterCopy_returned _ copied)
    · intro _
      cases copied with
      | ok totals =>
          refine .inl ⟨totals.1, totals.2, ?_, ?_, ?_⟩
          · rw [afterCopy_copy, ended]
          · rw [← sameA]
            rfl
          · rw [← sameB]
            rfl
      | error error =>
          have kept := afterCopy_error { forward with copy := copy } error
          exact .inr ⟨⟨error, by rw [afterCopy_copy, ended]⟩, kept.1.trans sameA,
            kept.2.trans sameB⟩

/-- The bytes that were read from A and written to B, and those the other way. -/
def metered (events : List CopyEvent) : Nat × Nat :=
  ((events.flatMap CopyEvent.toB).length, (events.flatMap CopyEvent.toA).length)

/-- What was written to either stream had been read from the other, in order. -/
theorem written_prefix_read {events : List CopyEvent} {final : ForwardBidirectional}
    (ran : run step { streamACounter := streamACounter, streamBCounter := streamBCounter }
      events = some final) :
    events.flatMap CopyEvent.toB <+: events.flatMap CopyEvent.fromA ∧
      events.flatMap CopyEvent.toA <+: events.flatMap CopyEvent.fromB := by
  have counted := run_history_invariant (Counted streamACounter streamBCounter)
    (fun _ _ _ _ holds taken => counted_step holds taken) counted_start ran
  exact ⟨⟨_, counted.metered.aToB.symm⟩, ⟨_, counted.metered.bToA.symm⟩⟩

/-- When `forward_bidirectional` has returned, its counters have grown by exactly what it
forwarded if and only if no call failed or nothing had been forwarded. -/
theorem metering_exact_iff {events : List CopyEvent} {final : ForwardBidirectional}
    (ran : run step { streamACounter := streamACounter, streamBCounter := streamBCounter }
      events = some final)
    (returned : final.result ≠ none) :
    (final.streamACounter = streamACounter + (metered events).1 ∧
        final.streamBCounter = streamBCounter + (metered events).2) ↔
      (∀ event ∈ events, event.failed = false) ∨ metered events = (0, 0) := by
  have counted := run_history_invariant (Counted streamACounter streamBCounter)
    (fun _ _ _ _ holds taken => counted_step holds taken) counted_start ran
  have metering := counted.metered
  rcases counted.returned returned with ⟨bytesA, bytesB, ended, sameA, sameB⟩ |
    ⟨failed, sameA, sameB⟩
  · have totals := metering.totals _ ended
    rw [metering.amountA, metering.amountB] at totals
    have exactly : (bytesA, bytesB) = metered events := totals
    have sound : ∀ event ∈ events, event.failed = false := by
      intro event member
      by_contra failing
      obtain ⟨error, other⟩ := metering.failed.mpr ⟨event, member, by simpa using failing⟩
      rw [ended] at other
      cases other
    apply iff_of_true _ (.inl sound)
    rw [sameA, sameB, ← exactly]
    exact ⟨rfl, rfl⟩
  · obtain ⟨event, member, failing⟩ := metering.failed.mp failed
    have unsound : ¬ ∀ event ∈ events, event.failed = false := by
      intro sound
      rw [sound event member] at failing
      cases failing
    rw [sameA, sameB, or_iff_right unsound, Prod.ext_iff]
    simp only [Nat.left_eq_add]

def oneByte : List CopyEvent :=
  [.aToB (.read [7]), .aToB (.wrote [7]), .aToB .eof, .aToB .flushed, .aToB .shutdown,
    .bToA .eof, .bToA .flushed, .bToA .shutdown]

def afterOneByte : ForwardBidirectional where
  copy :=
    { aToB := { stage := .done, amount := 1 }
      bToA := { stage := .done }
      result := some (.ok (1, 0)) }
  streamACounter := 1
  streamBCounter := 0
  result := some (.ok ())

theorem metering_exact_oneByte :
    afterOneByte.streamACounter = 0 + (metered oneByte).1 ∧
      afterOneByte.streamBCounter = 0 + (metered oneByte).2 := by
  have ran : run step { streamACounter := 0, streamBCounter := 0 } oneByte =
      some afterOneByte := by decide
  exact (metering_exact_iff ran (by decide)).mpr (.inl (by decide))

def resetEvents : List CopyEvent :=
  [.aToB (.read [7]), .aToB (.wrote [7]),
    .aToB (.readFailed "Connection reset by peer (os error 104)")]

def afterReset : ForwardBidirectional where
  copy :=
    { aToB := { amount := 1 }
      result := some (.error "Connection reset by peer (os error 104)") }
  streamACounter := 0
  streamBCounter := 0
  result := some (.error (.context "Bidirectional copy failed"
    (.io (.reported "Connection reset by peer (os error 104)"))))

theorem metering_inexact_after_reset :
    run step { streamACounter := 0, streamBCounter := 0 } resetEvents = some afterReset ∧
      metered resetEvents = (1, 0) ∧
      ¬ (afterReset.streamACounter = 0 + (metered resetEvents).1 ∧
        afterReset.streamBCounter = 0 + (metered resetEvents).2) := by
  decide

end ForwardBidirectional

end PortRedirect.Forward
