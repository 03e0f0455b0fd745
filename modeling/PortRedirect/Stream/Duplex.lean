import PortRedirect.Stream.Event
import PortRedirect.Transition.Run

namespace PortRedirect.Stream

open PortRedirect.Text
open PortRedirect.Transition

universe u v w x

/-! One direction of a reliable ordered stream.  Whatever was written is either
delivered or still pending, in that order, so no channel can lose, repeat or
reorder a byte. -/

structure Channel where
  delivered : Bytes := []
  pending : Bytes := []
deriving DecidableEq, Repr

namespace Channel

/-- Every byte written so far. -/
def sent (channel : Channel) : Bytes := channel.delivered ++ channel.pending

def write (channel : Channel) (bytes : Bytes) : Channel :=
  { channel with pending := channel.pending ++ bytes }

def deliver (channel : Channel) (bytes : Bytes) : Option Channel :=
  if bytes <+: channel.pending then
    some
      { delivered := channel.delivered ++ bytes
        pending := channel.pending.drop bytes.length }
  else
    none

@[simp] theorem sent_write (channel : Channel) (bytes : Bytes) :
    (channel.write bytes).sent = channel.sent ++ bytes := by
  simp [sent, write]

@[simp] theorem delivered_write (channel : Channel) (bytes : Bytes) :
    (channel.write bytes).delivered = channel.delivered := rfl

theorem deliver_eq_some {channel next : Channel} {bytes : Bytes}
    (handed : channel.deliver bytes = some next) :
    next.delivered = channel.delivered ++ bytes ∧ next.sent = channel.sent ∧
      channel.pending = bytes ++ next.pending := by
  unfold deliver at handed
  split at handed
  · rename_i front
    obtain ⟨rest, split⟩ := front
    cases handed
    simp [sent, ← split]
  · cases handed

end Channel

/-! What an event does to the two channels of the party it happens to.  A party
that is `gone` has dropped its end of the stream: its peer reads end of stream
after the last byte, or sees its reads and writes fail. -/

def transfer (event : Event) (inbound outbound : Channel) (peerGone : Bool) :
    Option (Channel × Channel) :=
  match event with
  | .received bytes => (inbound.deliver bytes).map fun next => (next, outbound)
  | .eof =>
      if inbound.pending = [] ∧ peerGone = true then some (inbound, outbound)
      else none
  | .readFailed | .writeFailed =>
      if peerGone = true then some (inbound, outbound) else none
  | .sent bytes => some (inbound, outbound.write bytes)
  | .flushed | .elapsed | .cancelled | .tick => some (inbound, outbound)

theorem transfer_eq_some {event : Event} {inbound outbound : Channel}
    {peerGone : Bool} {after : Channel × Channel}
    (moved : transfer event inbound outbound peerGone = some after) :
    after.1.delivered = inbound.delivered ++ event.input ∧
      after.1.sent = inbound.sent ∧
      after.2.delivered = outbound.delivered ∧
      after.2.sent = outbound.sent ++ event.output := by
  cases event with
  | received bytes =>
      obtain ⟨next, handed, rfl⟩ := Option.map_eq_some_iff.mp moved
      obtain ⟨delivered, sent, _⟩ := Channel.deliver_eq_some handed
      simp [delivered, sent]
  | eof =>
      simp only [transfer] at moved
      split at moved
      · cases moved
        simp
      · cases moved
  | readFailed | writeFailed =>
      simp only [transfer] at moved
      split at moved
      · cases moved
        simp
      · cases moved
  | sent bytes =>
      cases moved
      simp
  | flushed | elapsed | cancelled | tick =>
      cases moved
      simp

/-- End of stream is read only when nothing is left to read. -/
theorem transfer_eof {inbound outbound : Channel} {peerGone : Bool}
    {after : Channel × Channel}
    (moved : transfer .eof inbound outbound peerGone = some after) :
    inbound.pending = [] ∧ peerGone = true := by
  simp only [transfer] at moved
  split at moved
  · assumption
  · cases moved

theorem transfer_cut {event : Event} {inbound outbound : Channel} {peerGone : Bool}
    {after : Channel × Channel} (cut : event.cut = true)
    (moved : transfer event inbound outbound peerGone = some after) :
    peerGone = true := by
  cases event with
  | eof => exact (transfer_eof moved).2
  | readFailed | writeFailed =>
      simp only [transfer] at moved
      split at moved
      · assumption
      · cases moved
  | _ => cases cut

/-- A reader goes on while there is something to read, or meets the end that its
peer has left. -/
theorem pollRead_enabled {room : Nat} (positive : 0 < room) {inbound : Channel}
    {peerGone : Bool} (live : inbound.pending ≠ [] ∨ peerGone = true)
    (outbound : Channel) :
    ∃ event outcome after, event.fault = false ∧ pollRead room event = some outcome ∧
      transfer event inbound outbound peerGone = some after := by
  by_cases drained : inbound.pending = []
  · have gone := live.resolve_left (not_not_intro drained)
    exact ⟨.eof, .read [], (inbound, outbound), rfl, rfl, by simp [transfer, drained, gone]⟩
  · have front : inbound.pending.take room <+: inbound.pending := List.take_prefix _ _
    have nonempty : inbound.pending.take room ≠ [] := by
      rw [Ne, List.take_eq_nil_iff, not_or]
      exact ⟨Nat.ne_of_gt positive, drained⟩
    have moved : ∃ after, transfer (.received (inbound.pending.take room)) inbound outbound
        peerGone = some after := by
      simp [transfer, Channel.deliver, front]
    obtain ⟨after, moved⟩ := moved
    exact ⟨.received (inbound.pending.take room), .read (inbound.pending.take room), after,
      rfl, if_pos ⟨nonempty, List.length_take_le room _⟩, moved⟩

theorem pollReadExact_enabled {size : Nat} {buffer : Bytes} (short : buffer.length < size)
    {inbound : Channel} {peerGone : Bool}
    (live : inbound.pending ≠ [] ∨ peerGone = true) (outbound : Channel) :
    ∃ event outcome after, event.fault = false ∧
      pollReadExact size buffer event = some outcome ∧
      transfer event inbound outbound peerGone = some after := by
  obtain ⟨event, read, after, sound, polled, moved⟩ :=
    pollRead_enabled (Nat.sub_pos_of_lt short) live outbound
  have resumes : ∃ outcome, pollReadExact size buffer event = some outcome := by
    unfold pollReadExact
    rw [polled]
    cases read with
    | failed => exact ⟨_, rfl⟩
    | read bytes => cases bytes <;> exact ⟨_, rfl⟩
  obtain ⟨outcome, resumes⟩ := resumes
  exact ⟨event, outcome, after, sound, resumes, moved⟩

/-- A task at one end of a stream.  Its events may be richer than the stream's:
`io` is what an event does to the stream, if anything. -/
structure Party (σ : Type u) (ε : Type v) where
  step : σ → ε → Option σ
  io : ε → Option Event
  gone : σ → Bool

namespace Party

def input (party : Party σ ε) (event : ε) : Bytes :=
  ((party.io event).map Event.input).getD []

def output (party : Party σ ε) (event : ε) : Bytes :=
  ((party.io event).map Event.output).getD []

/-- An invariant of a task that relates its state to the bytes it has received
and sent, whoever is at the other end. -/
def Preserves (party : Party σ ε) (invariant : σ → Bytes → Bytes → Prop) : Prop :=
  ∀ state event next received sent, invariant state received sent →
    party.step state event = some next →
      invariant next (received ++ party.input event) (sent ++ party.output event)

/-- The other end of a stream whose writer has written all it will and left. -/
def departed : Party Unit Empty where
  step := fun _ event => nomatch event
  io := fun event => nomatch event
  gone := fun _ => true

end Party

structure Duplex (σ : Type u) (τ : Type v) where
  left : σ
  right : τ
  toRight : Channel := {}
  toLeft : Channel := {}

namespace Duplex

variable {σ : Type u} {ε : Type v} {τ : Type w} {κ : Type x}

def step (left : Party σ ε) (right : Party τ κ) (duplex : Duplex σ τ) :
    ε ⊕ κ → Option (Duplex σ τ)
  | .inl event =>
      match left.step duplex.left event with
      | none => none
      | some next =>
          match left.io event with
          | none => some { duplex with left := next }
          | some io =>
              (transfer io duplex.toLeft duplex.toRight (right.gone duplex.right)).map
                fun after => { duplex with
                  left := next, toLeft := after.1, toRight := after.2 }
  | .inr event =>
      match right.step duplex.right event with
      | none => none
      | some next =>
          match right.io event with
          | none => some { duplex with right := next }
          | some io =>
              (transfer io duplex.toRight duplex.toLeft (left.gone duplex.left)).map
                fun after => { duplex with
                  right := next, toRight := after.1, toLeft := after.2 }

variable {left : Party σ ε} {right : Party τ κ}

/-- What one event of the left party changes. -/
theorem step_inl_eq_some {duplex next : Duplex σ τ} {event : ε}
    (taken : duplex.step left right (.inl event) = some next) :
    left.step duplex.left event = some next.left ∧ next.right = duplex.right ∧
      next.toLeft.delivered = duplex.toLeft.delivered ++ left.input event ∧
      next.toLeft.sent = duplex.toLeft.sent ∧
      next.toRight.delivered = duplex.toRight.delivered ∧
      next.toRight.sent = duplex.toRight.sent ++ left.output event := by
  simp only [step] at taken
  cases resumed : left.step duplex.left event with
  | none => simp [resumed] at taken
  | some state =>
      simp only [resumed] at taken
      cases io : left.io event with
      | none =>
          simp only [io] at taken
          cases taken
          simp [Party.input, Party.output, io]
      | some onStream =>
          simp only [io] at taken
          obtain ⟨after, moved, rfl⟩ := Option.map_eq_some_iff.mp taken
          have effect := transfer_eq_some moved
          simpa [Party.input, Party.output, io] using effect

theorem step_inr_eq_some {duplex next : Duplex σ τ} {event : κ}
    (taken : duplex.step left right (.inr event) = some next) :
    right.step duplex.right event = some next.right ∧ next.left = duplex.left ∧
      next.toRight.delivered = duplex.toRight.delivered ++ right.input event ∧
      next.toRight.sent = duplex.toRight.sent ∧
      next.toLeft.delivered = duplex.toLeft.delivered ∧
      next.toLeft.sent = duplex.toLeft.sent ++ right.output event := by
  simp only [step] at taken
  cases resumed : right.step duplex.right event with
  | none => simp [resumed] at taken
  | some state =>
      simp only [resumed] at taken
      cases io : right.io event with
      | none =>
          simp only [io] at taken
          cases taken
          simp [Party.input, Party.output, io]
      | some onStream =>
          simp only [io] at taken
          obtain ⟨after, moved, rfl⟩ := Option.map_eq_some_iff.mp taken
          have effect := transfer_eq_some moved
          simpa [Party.input, Party.output, io] using effect

theorem step_inl_eq {duplex : Duplex σ τ} {state : σ} {event : ε} {io : Event}
    {after : Channel × Channel} (resumed : left.step duplex.left event = some state)
    (onStream : left.io event = some io)
    (moved : transfer io duplex.toLeft duplex.toRight (right.gone duplex.right) =
      some after) :
    duplex.step left right (.inl event) =
      some { duplex with left := state, toLeft := after.1, toRight := after.2 } := by
  simp only [step, resumed, onStream, moved, Option.map_some]

theorem step_inr_eq {duplex : Duplex σ τ} {state : τ} {event : κ} {io : Event}
    {after : Channel × Channel} (resumed : right.step duplex.right event = some state)
    (onStream : right.io event = some io)
    (moved : transfer io duplex.toRight duplex.toLeft (left.gone duplex.left) =
      some after) :
    duplex.step left right (.inr event) =
      some { duplex with right := state, toRight := after.1, toLeft := after.2 } := by
  simp only [step, resumed, onStream, moved, Option.map_some]

theorem step_inl_eq_of_silent {duplex : Duplex σ τ} {state : σ} {event : ε}
    (resumed : left.step duplex.left event = some state) (silent : left.io event = none) :
    duplex.step left right (.inl event) = some { duplex with left := state } := by
  simp only [step, resumed, silent]

theorem step_inl_transfer {duplex next : Duplex σ τ} {event : ε} {io : Event}
    (taken : duplex.step left right (.inl event) = some next)
    (onStream : left.io event = some io) :
    transfer io duplex.toLeft duplex.toRight (right.gone duplex.right) =
      some (next.toLeft, next.toRight) := by
  simp only [step] at taken
  cases resumed : left.step duplex.left event with
  | none => simp [resumed] at taken
  | some state =>
      simp only [resumed, onStream] at taken
      obtain ⟨after, moved, rfl⟩ := Option.map_eq_some_iff.mp taken
      exact moved

theorem step_inr_transfer {duplex next : Duplex σ τ} {event : κ} {io : Event}
    (taken : duplex.step left right (.inr event) = some next)
    (onStream : right.io event = some io) :
    transfer io duplex.toRight duplex.toLeft (left.gone duplex.left) =
      some (next.toRight, next.toLeft) := by
  simp only [step] at taken
  cases resumed : right.step duplex.right event with
  | none => simp [resumed] at taken
  | some state =>
      simp only [resumed, onStream] at taken
      obtain ⟨after, moved, rfl⟩ := Option.map_eq_some_iff.mp taken
      exact moved

theorem pending_inl {duplex next : Duplex σ τ} {event : ε}
    (taken : duplex.step left right (.inl event) = some next) :
    duplex.toLeft.pending = left.input event ++ next.toLeft.pending := by
  obtain ⟨_, _, delivered, sent, _⟩ := step_inl_eq_some taken
  rw [Channel.sent, Channel.sent, delivered, List.append_assoc, List.append_cancel_left_eq] at sent
  exact sent.symm

theorem pending_inr {duplex next : Duplex σ τ} {event : κ}
    (taken : duplex.step left right (.inr event) = some next) :
    next.toLeft.pending = duplex.toLeft.pending ++ right.output event := by
  obtain ⟨_, _, _, _, delivered, sent⟩ := step_inr_eq_some taken
  rwa [Channel.sent, Channel.sent, delivered, List.append_assoc, List.append_cancel_left_eq] at sent

/-- A party's own invariant holds in every composition it takes part in. -/
theorem left_invariant (invariant : σ → Bytes → Bytes → Prop)
    (preserved : left.Preserves invariant) {start final : Duplex σ τ}
    {events : List (ε ⊕ κ)}
    (holds : invariant start.left start.toLeft.delivered start.toRight.sent)
    (ran : run (step left right) start events = some final) :
    invariant final.left final.toLeft.delivered final.toRight.sent := by
  refine run_invariant (fun duplex : Duplex σ τ =>
    invariant duplex.left duplex.toLeft.delivered duplex.toRight.sent) ?_ holds ran
  intro duplex event next holds taken
  cases event with
  | inl event =>
      obtain ⟨resumed, _, delivered, _, _, sent⟩ := step_inl_eq_some taken
      rw [delivered, sent]
      exact preserved duplex.left event next.left _ _ holds resumed
  | inr event =>
      obtain ⟨_, same, _, sent, delivered, _⟩ := step_inr_eq_some taken
      rw [same, sent, delivered]
      exact holds

theorem right_invariant (invariant : τ → Bytes → Bytes → Prop)
    (preserved : right.Preserves invariant) {start final : Duplex σ τ}
    {events : List (ε ⊕ κ)}
    (holds : invariant start.right start.toRight.delivered start.toLeft.sent)
    (ran : run (step left right) start events = some final) :
    invariant final.right final.toRight.delivered final.toLeft.sent := by
  refine run_invariant (fun duplex : Duplex σ τ =>
    invariant duplex.right duplex.toRight.delivered duplex.toLeft.sent) ?_ holds ran
  intro duplex event next holds taken
  cases event with
  | inl event =>
      obtain ⟨_, same, _, sent, delivered, _⟩ := step_inl_eq_some taken
      rw [same, sent, delivered]
      exact holds
  | inr event =>
      obtain ⟨resumed, _, delivered, _, _, sent⟩ := step_inr_eq_some taken
      rw [delivered, sent]
      exact preserved duplex.right event next.right _ _ holds resumed

/-- A task alone with an input that its peer has written in full. -/
def fed (state : σ) (stream : Bytes) : Duplex σ Unit where
  left := state
  right := ()
  toLeft := { pending := stream }

/-- What a fed task has received is a prefix of its input, and the rest is
still there to be read. -/
theorem fed_sent {start : σ} {stream : Bytes} {events : List (ε ⊕ Empty)}
    {final : Duplex σ Unit}
    (ran : run (step left Party.departed) (fed start stream) events = some final) :
    final.toLeft.sent = stream := by
  refine run_invariant (fun duplex : Duplex σ Unit =>
    duplex.toLeft.sent = stream) ?_ ?_ ran
  · intro duplex event next holds taken
    cases event with
    | inl event =>
        obtain ⟨_, _, _, sent, _⟩ := step_inl_eq_some taken
        rw [sent, holds]
    | inr event => exact nomatch event
  · simp [fed, Channel.sent]

end Duplex

end PortRedirect.Stream
