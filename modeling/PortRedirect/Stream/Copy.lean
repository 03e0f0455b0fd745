import PortRedirect.Stream.Event

namespace PortRedirect.Stream

open PortRedirect.Text

/-! `copy_bidirectional_with_sizes`, one call on one of its two streams at a time.
Each direction reads into a buffer of its own and writes out of it in order; the end
of its input becomes a shutdown of its output, and the first call that fails ends the
whole copy with that call's error. -/

inductive TransferStage where
  | running
  /-- The end of the input has been read, and the buffer is still being written. -/
  | draining
  | shuttingDown
  | done
deriving DecidableEq, Repr

structure Transfer where
  stage : TransferStage := .running
  buffer : Bytes := []
  amount : Nat := 0
deriving DecidableEq, Repr

inductive TransferEvent where
  | read (bytes : Bytes)
  | eof
  | readFailed (error : String)
  | wrote (bytes : Bytes)
  | flushed
  | shutdown
  | writeFailed (error : String)
deriving DecidableEq, Repr

namespace TransferEvent

def input : TransferEvent → Bytes
  | .read bytes => bytes
  | _ => []

def output : TransferEvent → Bytes
  | .wrote bytes => bytes
  | _ => []

def failed : TransferEvent → Bool
  | .readFailed _ | .writeFailed _ => true
  | _ => false

end TransferEvent

namespace Transfer

def step (size : Nat) (transfer : Transfer) :
    TransferEvent → Option (Except String Transfer)
  | .read bytes =>
      if transfer.stage = .running ∧ bytes ≠ [] ∧
          transfer.buffer.length + bytes.length ≤ size then
        some (.ok { transfer with buffer := transfer.buffer ++ bytes })
      else none
  | .eof =>
      if transfer.stage = .running ∧ transfer.buffer.length < size then
        some (.ok { transfer with stage := .draining })
      else none
  | .readFailed error =>
      if transfer.stage = .running ∧ transfer.buffer.length < size then
        some (.error error)
      else none
  | .wrote bytes =>
      if bytes ≠ [] ∧ bytes <+: transfer.buffer then
        some (.ok { transfer with
          buffer := transfer.buffer.drop bytes.length
          amount := transfer.amount + bytes.length })
      else none
  | .flushed =>
      if transfer.stage = .draining ∧ transfer.buffer = [] then
        some (.ok { transfer with stage := .shuttingDown })
      else none
  | .shutdown =>
      if transfer.stage = .shuttingDown then some (.ok { transfer with stage := .done })
      else none
  | .writeFailed error => if transfer.stage = .done then none else some (.error error)

/-- Everything that a call can do to one direction. -/
theorem step_cases {size : Nat} {transfer : Transfer} {event : TransferEvent}
    {result : Except String Transfer} (taken : transfer.step size event = some result) :
    (∃ bytes, event = .read bytes ∧ transfer.stage = .running ∧ bytes ≠ [] ∧
      result = .ok { transfer with buffer := transfer.buffer ++ bytes }) ∨
    (event = .eof ∧ transfer.stage = .running ∧
      result = .ok { transfer with stage := .draining }) ∨
    (∃ bytes rest, event = .wrote bytes ∧ bytes ≠ [] ∧ transfer.buffer = bytes ++ rest ∧
      result = .ok { transfer with
        buffer := rest, amount := transfer.amount + bytes.length }) ∨
    (event = .flushed ∧ transfer.stage = .draining ∧ transfer.buffer = [] ∧
      result = .ok { transfer with stage := .shuttingDown }) ∨
    (event = .shutdown ∧ transfer.stage = .shuttingDown ∧
      result = .ok { transfer with stage := .done }) ∨
    (∃ error, event = .readFailed error ∧ transfer.stage = .running ∧
      result = .error error) ∨
    (∃ error, event = .writeFailed error ∧ transfer.stage ≠ .done ∧
      result = .error error) := by
  cases event with
  | read bytes =>
      simp only [step] at taken
      split at taken
      · rename_i reads
        exact .inl ⟨bytes, rfl, reads.1, reads.2.1, (Option.some.inj taken).symm⟩
      · cases taken
  | eof =>
      simp only [step] at taken
      split at taken
      · rename_i reads
        exact .inr (.inl ⟨rfl, reads.1, (Option.some.inj taken).symm⟩)
      · cases taken
  | wrote bytes =>
      simp only [step] at taken
      split at taken
      · rename_i writes
        obtain ⟨nonempty, rest, split⟩ := writes
        refine .inr (.inr (.inl ⟨bytes, rest, rfl, nonempty, split.symm, ?_⟩))
        rw [← split, List.drop_left] at taken
        exact (Option.some.inj taken).symm
      · cases taken
  | flushed =>
      simp only [step] at taken
      split at taken
      · rename_i drained
        exact .inr (.inr (.inr (.inl
          ⟨rfl, drained.1, drained.2, (Option.some.inj taken).symm⟩)))
      · cases taken
  | shutdown =>
      simp only [step] at taken
      split at taken
      · rename_i closing
        exact .inr (.inr (.inr (.inr (.inl
          ⟨rfl, closing, (Option.some.inj taken).symm⟩))))
      · cases taken
  | readFailed error =>
      simp only [step] at taken
      split at taken
      · rename_i reads
        exact .inr (.inr (.inr (.inr (.inr (.inl
          ⟨error, rfl, reads.1, (Option.some.inj taken).symm⟩)))))
      · cases taken
  | writeFailed error =>
      simp only [step] at taken
      split at taken
      · cases taken
      · rename_i unfinished
        exact .inr (.inr (.inr (.inr (.inr (.inr
          ⟨error, rfl, unfinished, (Option.some.inj taken).symm⟩)))))

theorem step_ok {size : Nat} {transfer next : Transfer} {event : TransferEvent}
    (taken : transfer.step size event = some (.ok next)) :
    transfer.buffer ++ event.input = event.output ++ next.buffer ∧
      next.amount = transfer.amount + event.output.length ∧ event.failed = false := by
  rcases step_cases taken with ⟨bytes, rfl, _, _, same⟩ | ⟨rfl, _, same⟩ |
    ⟨bytes, rest, rfl, _, split, same⟩ | ⟨rfl, _, _, same⟩ | ⟨rfl, _, same⟩ |
    ⟨error, _, _, same⟩ | ⟨error, _, _, same⟩
  · cases same
    exact ⟨rfl, rfl, rfl⟩
  · cases same
    exact ⟨List.append_nil _, rfl, rfl⟩
  · cases same
    refine ⟨?_, rfl, rfl⟩
    rw [split]
    exact List.append_nil _
  · cases same
    exact ⟨List.append_nil _, rfl, rfl⟩
  · cases same
    exact ⟨List.append_nil _, rfl, rfl⟩
  · cases same
  · cases same

/-- A call that fails moves nothing. -/
theorem step_error {size : Nat} {transfer : Transfer} {event : TransferEvent}
    {error : String} (taken : transfer.step size event = some (.error error)) :
    event.failed = true ∧ event.input = [] ∧ event.output = [] := by
  rcases step_cases taken with ⟨bytes, rfl, _, _, same⟩ | ⟨rfl, _, same⟩ |
    ⟨bytes, rest, rfl, _, split, same⟩ | ⟨rfl, _, _, same⟩ | ⟨rfl, _, same⟩ |
    ⟨error, rfl, _, _⟩ | ⟨error, rfl, _, _⟩
  · cases same
  · cases same
  · cases same
  · cases same
  · cases same
  · exact ⟨rfl, rfl, rfl⟩
  · exact ⟨rfl, rfl, rfl⟩

theorem fault_of_error {size : Nat} {transfer : Transfer} {event : TransferEvent}
    {error : String} (taken : transfer.step size event = some (.error error)) :
    (∃ text, event = .readFailed text) ∨
      ∃ text, event = .writeFailed text ∧ transfer.stage ≠ .done := by
  rcases step_cases taken with ⟨bytes, rfl, _, _, same⟩ | ⟨rfl, _, same⟩ |
    ⟨bytes, rest, rfl, _, split, same⟩ | ⟨rfl, _, _, same⟩ | ⟨rfl, _, same⟩ |
    ⟨text, rfl, _, _⟩ | ⟨text, rfl, unfinished, _⟩
  · cases same
  · cases same
  · cases same
  · cases same
  · cases same
  · exact .inl ⟨text, rfl⟩
  · exact .inr ⟨text, rfl, unfinished⟩

end Transfer

structure CopyBidirectional where
  aToB : Transfer := {}
  bToA : Transfer := {}
  result : Option (Except String (Nat × Nat)) := none
deriving DecidableEq, Repr

inductive CopyEvent where
  | aToB (event : TransferEvent)
  | bToA (event : TransferEvent)
deriving DecidableEq, Repr

namespace CopyEvent

def failed : CopyEvent → Bool
  | .aToB event | .bToA event => event.failed

/-- The bytes that the call wrote to B. -/
def toB : CopyEvent → Bytes
  | .aToB event => event.output
  | .bToA _ => []

def toA : CopyEvent → Bytes
  | .aToB _ => []
  | .bToA event => event.output

def fromA : CopyEvent → Bytes
  | .aToB event => event.input
  | .bToA _ => []

def fromB : CopyEvent → Bytes
  | .aToB _ => []
  | .bToA event => event.input

variable (event : TransferEvent)

@[simp] theorem toB_aToB : toB (.aToB event) = event.output := rfl
@[simp] theorem toB_bToA : toB (.bToA event) = [] := rfl
@[simp] theorem toA_aToB : toA (.aToB event) = [] := rfl
@[simp] theorem toA_bToA : toA (.bToA event) = event.output := rfl
@[simp] theorem fromA_aToB : fromA (.aToB event) = event.input := rfl
@[simp] theorem fromA_bToA : fromA (.bToA event) = [] := rfl
@[simp] theorem fromB_aToB : fromB (.aToB event) = [] := rfl
@[simp] theorem fromB_bToA : fromB (.bToA event) = event.input := rfl

end CopyEvent

namespace CopyBidirectional

def settle (copy : CopyBidirectional) : CopyBidirectional :=
  if copy.aToB.stage = .done ∧ copy.bToA.stage = .done then
    { copy with result := some (.ok (copy.aToB.amount, copy.bToA.amount)) }
  else copy

def step (size : Nat) (copy : CopyBidirectional) (event : CopyEvent) :
    Option CopyBidirectional :=
  if copy.result = none then
    match event with
    | .aToB event =>
        (copy.aToB.step size event).map fun
          | .ok transfer => { copy with aToB := transfer }.settle
          | .error error => { copy with result := some (.error error) }
    | .bToA event =>
        (copy.bToA.step size event).map fun
          | .ok transfer => { copy with bToA := transfer }.settle
          | .error error => { copy with result := some (.error error) }
  else none

theorem step_cases {size : Nat} {copy next : CopyBidirectional} {event : CopyEvent}
    (taken : copy.step size event = some next) :
    copy.result = none ∧
      ((∃ call transfer, event = .aToB call ∧
          copy.aToB.step size call = some (.ok transfer) ∧
          next = { copy with aToB := transfer }.settle) ∨
        (∃ call transfer, event = .bToA call ∧
          copy.bToA.step size call = some (.ok transfer) ∧
          next = { copy with bToA := transfer }.settle) ∨
        ∃ call error, (event = .aToB call ∧ copy.aToB.step size call = some (.error error) ∨
            event = .bToA call ∧ copy.bToA.step size call = some (.error error)) ∧
          next = { copy with result := some (.error error) }) := by
  unfold step at taken
  split at taken
  · rename_i live
    refine ⟨live, ?_⟩
    cases event with
    | aToB call =>
        obtain ⟨result, called, rfl⟩ := Option.map_eq_some_iff.mp taken
        cases result with
        | ok transfer => exact .inl ⟨call, transfer, rfl, called, rfl⟩
        | error error => exact .inr (.inr ⟨call, error, .inl ⟨rfl, called⟩, rfl⟩)
    | bToA call =>
        obtain ⟨result, called, rfl⟩ := Option.map_eq_some_iff.mp taken
        cases result with
        | ok transfer => exact .inr (.inl ⟨call, transfer, rfl, called, rfl⟩)
        | error error => exact .inr (.inr ⟨call, error, .inr ⟨rfl, called⟩, rfl⟩)
  · cases taken

@[simp] theorem settle_aToB (copy : CopyBidirectional) : copy.settle.aToB = copy.aToB := by
  unfold settle
  split <;> rfl

@[simp] theorem settle_bToA (copy : CopyBidirectional) : copy.settle.bToA = copy.bToA := by
  unfold settle
  split <;> rfl

theorem settle_result {copy : CopyBidirectional} (live : copy.result = none) :
    (copy.settle.result = none ∧
        ¬ (copy.aToB.stage = .done ∧ copy.bToA.stage = .done)) ∨
      (copy.settle.result = some (.ok (copy.aToB.amount, copy.bToA.amount)) ∧
        copy.aToB.stage = .done ∧ copy.bToA.stage = .done) := by
  unfold settle
  split
  · rename_i done
    exact .inr ⟨rfl, done⟩
  · rename_i busy
    exact .inl ⟨live, busy⟩

/-- What the calls so far have moved, and how the copy has ended if it has. -/
structure Metered (history : List CopyEvent) (copy : CopyBidirectional) : Prop where
  aToB : history.flatMap CopyEvent.fromA = history.flatMap CopyEvent.toB ++ copy.aToB.buffer
  bToA : history.flatMap CopyEvent.fromB = history.flatMap CopyEvent.toA ++ copy.bToA.buffer
  amountA : copy.aToB.amount = (history.flatMap CopyEvent.toB).length
  amountB : copy.bToA.amount = (history.flatMap CopyEvent.toA).length
  failed : (∃ error, copy.result = some (.error error)) ↔
    ∃ event ∈ history, event.failed = true
  totals : ∀ totals, copy.result = some (.ok totals) →
    totals = (copy.aToB.amount, copy.bToA.amount)

theorem metered_start : Metered [] {} where
  aToB := rfl
  bToA := rfl
  amountA := rfl
  amountB := rfl
  failed := by simp
  totals := fun _ ended => by cases ended

private theorem metered_settle {history : List CopyEvent} {copy : CopyBidirectional}
    (live : copy.result = none)
    (aToB : history.flatMap CopyEvent.fromA =
      history.flatMap CopyEvent.toB ++ copy.aToB.buffer)
    (bToA : history.flatMap CopyEvent.fromB =
      history.flatMap CopyEvent.toA ++ copy.bToA.buffer)
    (amountA : copy.aToB.amount = (history.flatMap CopyEvent.toB).length)
    (amountB : copy.bToA.amount = (history.flatMap CopyEvent.toA).length)
    (sound : ∀ event ∈ history, event.failed = false) : Metered history copy.settle := by
  have none_failed : ¬ ∃ event ∈ history, event.failed = true := by
    rintro ⟨event, member, failed⟩
    rw [sound event member] at failed
    cases failed
  refine ⟨?_, ?_, ?_, ?_, ?_, ?_⟩
  · rwa [settle_aToB]
  · rwa [settle_bToA]
  · rwa [settle_aToB]
  · rwa [settle_bToA]
  · rw [iff_false_right none_failed]
    rcases settle_result live with ⟨result, _⟩ | ⟨result, _⟩
    · simp [result]
    · simp [result]
  · intro totals ended
    rcases settle_result live with ⟨result, _⟩ | ⟨result, _⟩
    · rw [result] at ended
      cases ended
    · rw [result] at ended
      cases ended
      simp

theorem metered_step {size : Nat} {history : List CopyEvent} {copy next : CopyBidirectional}
    {event : CopyEvent} (holds : Metered history copy)
    (taken : copy.step size event = some next) : Metered (history ++ [event]) next := by
  obtain ⟨live, moved⟩ := step_cases taken
  have sound : ∀ event ∈ history, event.failed = false := by
    intro event member
    by_contra failed
    obtain ⟨error, ended⟩ := holds.failed.mpr ⟨event, member, by simpa using failed⟩
    rw [live] at ended
    cases ended
  have sound_append (fine : event.failed = false) :
      ∀ call ∈ history ++ [event], call.failed = false :=
    List.forall_mem_append.mpr ⟨sound, List.forall_mem_singleton.mpr fine⟩
  rcases moved with ⟨call, transfer, rfl, called, rfl⟩ | ⟨call, transfer, rfl, called, rfl⟩ |
    ⟨call, error, which, rfl⟩
  · obtain ⟨bytes, amount, fine⟩ := Transfer.step_ok called
    refine @metered_settle _ { copy with aToB := transfer } live ?_ ?_ ?_ ?_
      (sound_append fine)
    · simp [holds.aToB, bytes]
    · simpa using holds.bToA
    · simp [amount, holds.amountA]
    · simpa using holds.amountB
  · obtain ⟨bytes, amount, fine⟩ := Transfer.step_ok called
    refine @metered_settle _ { copy with bToA := transfer } live ?_ ?_ ?_ ?_
      (sound_append fine)
    · simpa using holds.aToB
    · simp [holds.bToA, bytes]
    · simpa using holds.amountA
    · simp [amount, holds.amountB]
  · have quiet : event.failed = true ∧ event.fromA = [] ∧ event.fromB = [] ∧
        event.toA = [] ∧ event.toB = [] := by
      rcases which with ⟨rfl, called⟩ | ⟨rfl, called⟩
      · obtain ⟨failed, input, output⟩ := Transfer.step_error called
        exact ⟨failed, input, rfl, rfl, output⟩
      · obtain ⟨failed, input, output⟩ := Transfer.step_error called
        exact ⟨failed, rfl, input, output, rfl⟩
    obtain ⟨failed, fromA, fromB, toA, toB⟩ := quiet
    refine ⟨?_, ?_, ?_, ?_, ?_, ?_⟩
    · simpa [fromA, toB] using holds.aToB
    · simpa [fromB, toA] using holds.bToA
    · simpa [toB] using holds.amountA
    · simpa [toA] using holds.amountB
    · simp [failed]
    · intro totals ended
      cases ended

end CopyBidirectional

end PortRedirect.Stream
