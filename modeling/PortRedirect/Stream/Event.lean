import Mathlib.Data.List.Infix
import PortRedirect.Text.Utf8

namespace PortRedirect.Stream

open PortRedirect.Text

/-! What an asynchronous task sees of its byte stream, one resumption at a time.
An await point is a function from the event that resumes it to its outcome,
`none` for an event that cannot resume it. -/

inductive Event where
  | received (bytes : Bytes)
  | eof
  | readFailed
  | sent (bytes : Bytes)
  | writeFailed
  | flushed
  /-- The deadline around the await point passed. -/
  | elapsed
  | cancelled
  | tick
deriving DecidableEq, Repr

@[simp] def Event.input : Event → Bytes
  | .received bytes => bytes
  | _ => []

@[simp] def Event.output : Event → Bytes
  | .sent bytes => bytes
  | _ => []

/-- A failed call or a deadline that passed. -/
def Event.fault : Event → Bool
  | .readFailed | .writeFailed | .elapsed => true
  | _ => false

/-- The stream failed or ended under the task. -/
def Event.cut : Event → Bool
  | .eof | .readFailed | .writeFailed => true
  | _ => false

/-! `AsyncReadExt::read` into a buffer with `room` bytes left. -/

inductive ReadOutcome where
  /-- `Ok(n)` with the `n` bytes; `n = 0` is end of stream. -/
  | read (bytes : Bytes)
  | failed

def pollRead (room : Nat) : Event → Option ReadOutcome
  | .received bytes =>
      if bytes ≠ [] ∧ bytes.length ≤ room then some (.read bytes) else none
  | .eof => some (.read [])
  | .readFailed => some .failed
  | _ => none

/-! `AsyncReadExt::read_exact`: reads until the buffer holds `size` bytes. -/

inductive ReadExactOutcome where
  | filled (buffer : Bytes)
  | more (buffer : Bytes)
  | unexpectedEof
  | failed

def pollReadExact (size : Nat) (buffer : Bytes) (event : Event) :
    Option ReadExactOutcome :=
  match pollRead (size - buffer.length) event with
  | none => none
  | some .failed => some .failed
  | some (.read []) => some .unexpectedEof
  | some (.read (byte :: bytes)) =>
      let buffer := buffer ++ byte :: bytes
      some (if buffer.length = size then .filled buffer else .more buffer)

/-! `AsyncBufReadExt::read_until` for a newline, through a `BufReader` that is empty
when the line begins and is dropped with what lies behind the line. -/

/-- The bytes up to the first newline, and those behind it. -/
def splitLine : Bytes → Option (Bytes × Bytes)
  | [] => none
  | byte :: bytes =>
      if byte = 10 then some ([byte], bytes)
      else (splitLine bytes).map fun split => (byte :: split.1, split.2)

inductive ReadUntilOutcome where
  | line (buffer unread : Bytes)
  | more (buffer : Bytes)
  | eof (buffer : Bytes)
  | failed

def bufReaderCapacity : Nat := 8192

def pollReadUntil (buffer : Bytes) (event : Event) : Option ReadUntilOutcome :=
  (pollRead bufReaderCapacity event).map fun
    | .failed => .failed
    | .read [] => .eof buffer
    | .read (byte :: bytes) =>
        match splitLine (byte :: bytes) with
        | some (line, unread) => .line (buffer ++ line) unread
        | none => .more (buffer ++ byte :: bytes)

/-! `AsyncWriteExt::write_all`: the writer takes a non-empty prefix at a time. -/

inductive WriteOutcome where
  | written
  | remaining (rest : Bytes)
  | failed

def pollWriteAll (rest : Bytes) : Event → Option WriteOutcome
  | .sent bytes =>
      if bytes <+: rest ∧ (bytes = [] → rest = []) then
        some (if bytes.length = rest.length then .written
          else .remaining (rest.drop bytes.length))
      else none
  | .writeFailed => some .failed
  | _ => none

/-! `AsyncWriteExt::flush`. -/

inductive FlushOutcome where
  | flushed
  | failed

def pollFlush : Event → Option FlushOutcome
  | .flushed => some .flushed
  | .writeFailed => some .failed
  | _ => none

/-! What each outcome says about the event. -/

theorem pollRead_eq_some {room : Nat} {event : Event} {outcome : ReadOutcome}
    (polled : pollRead room event = some outcome) :
    (∃ bytes, event = .received bytes ∧ outcome = .read bytes ∧
      bytes ≠ [] ∧ bytes.length ≤ room) ∨
    (event = .eof ∧ outcome = .read []) ∨
    (event = .readFailed ∧ outcome = .failed) := by
  cases event with
  | received bytes =>
      simp only [pollRead] at polled
      split at polled
      · rename_i fits
        cases polled
        exact .inl ⟨bytes, rfl, rfl, fits.1, fits.2⟩
      · cases polled
  | eof =>
      cases polled
      exact .inr (.inl ⟨rfl, rfl⟩)
  | readFailed =>
      cases polled
      exact .inr (.inr ⟨rfl, rfl⟩)
  | _ => cases polled

theorem pollReadExact_eq_some {size : Nat} {buffer : Bytes} {event : Event}
    {outcome : ReadExactOutcome}
    (polled : pollReadExact size buffer event = some outcome) :
    (∃ bytes, event = .received bytes ∧ bytes ≠ [] ∧
      outcome = .filled (buffer ++ bytes) ∧ (buffer ++ bytes).length = size) ∨
    (∃ bytes, event = .received bytes ∧ bytes ≠ [] ∧
      outcome = .more (buffer ++ bytes) ∧ (buffer ++ bytes).length < size) ∨
    (event = .eof ∧ outcome = .unexpectedEof) ∨
    (event = .readFailed ∧ outcome = .failed) := by
  unfold pollReadExact at polled
  cases read : pollRead (size - buffer.length) event with
  | none => simp [read] at polled
  | some result =>
      rcases pollRead_eq_some read with
        ⟨bytes, rfl, rfl, nonempty, fits⟩ | ⟨rfl, rfl⟩ | ⟨rfl, rfl⟩
      · obtain ⟨byte, tail, rfl⟩ := List.exists_cons_of_ne_nil nonempty
        simp only [read] at polled
        have bounded : (buffer ++ byte :: tail).length ≤ size := by
          simp only [List.length_cons, List.length_append] at fits ⊢
          omega
        split at polled
        · rename_i full
          exact .inl ⟨_, rfl, nonempty, (Option.some.inj polled).symm, full⟩
        · rename_i short
          exact .inr (.inl ⟨_, rfl, nonempty, (Option.some.inj polled).symm,
            Nat.lt_of_le_of_ne bounded short⟩)
      · simp only [read] at polled
        exact .inr (.inr (.inl ⟨rfl, (Option.some.inj polled).symm⟩))
      · simp only [read] at polled
        exact .inr (.inr (.inr ⟨rfl, (Option.some.inj polled).symm⟩))

theorem splitLine_eq_none {bytes : Bytes} (unbroken : splitLine bytes = none) :
    10 ∉ bytes := by
  induction bytes with
  | nil => exact List.not_mem_nil
  | cons byte bytes ih =>
      unfold splitLine at unbroken
      split at unbroken
      · cases unbroken
      · rename_i other
        rw [List.mem_cons, not_or]
        exact ⟨Ne.symm other, ih (Option.map_eq_none_iff.mp unbroken)⟩

theorem splitLine_eq_some {bytes line unread : Bytes}
    (broken : splitLine bytes = some (line, unread)) :
    bytes = line ++ unread ∧ ∃ front, line = front ++ [10] ∧ 10 ∉ front := by
  induction bytes generalizing line with
  | nil => cases broken
  | cons byte bytes ih =>
      unfold splitLine at broken
      split at broken
      · rename_i newline
        cases broken
        exact ⟨rfl, [], by rw [newline, List.nil_append], List.not_mem_nil⟩
      · rename_i other
        obtain ⟨split, later, same⟩ := Option.map_eq_some_iff.mp broken
        cases same
        obtain ⟨joined, front, ended, clean⟩ := ih later
        refine ⟨by rw [joined, List.cons_append], byte :: front, ?_, ?_⟩
        · rw [ended, List.cons_append]
        · rw [List.mem_cons, not_or]
          exact ⟨Ne.symm other, clean⟩

theorem splitLine_line {front : Bytes} (clean : 10 ∉ front) (unread : Bytes) :
    splitLine (front ++ 10 :: unread) = some (front ++ [10], unread) := by
  induction front with
  | nil => simp [splitLine]
  | cons byte front ih =>
      rw [List.mem_cons, not_or] at clean
      simp [splitLine, Ne.symm clean.1, ih clean.2]

/-- The bytes up to the first newline, or all of them. -/
def firstLine (bytes : Bytes) : Bytes :=
  match splitLine bytes with
  | some (line, _) => line
  | none => bytes

theorem firstLine_line {front : Bytes} (clean : 10 ∉ front) (unread : Bytes) :
    firstLine (front ++ 10 :: unread) = front ++ [10] := by
  simp [firstLine, splitLine_line clean]

theorem firstLine_of_not_mem {bytes : Bytes} (clean : 10 ∉ bytes) :
    firstLine bytes = bytes := by
  unfold firstLine
  split
  · rename_i line unread broken
    obtain ⟨joined, front, rfl, _⟩ := splitLine_eq_some broken
    exact absurd (by simp [joined]) clean
  · rfl

theorem pollReadUntil_eq_some {buffer : Bytes} {event : Event}
    {outcome : ReadUntilOutcome} (polled : pollReadUntil buffer event = some outcome) :
    (∃ front unread, event = .received (front ++ [10] ++ unread) ∧ 10 ∉ front ∧
      outcome = .line (buffer ++ (front ++ [10])) unread) ∨
    (∃ bytes, event = .received bytes ∧ 10 ∉ bytes ∧
      outcome = .more (buffer ++ bytes)) ∨
    (event = .eof ∧ outcome = .eof buffer) ∨
    (event = .readFailed ∧ outcome = .failed) := by
  obtain ⟨result, read, rfl⟩ := Option.map_eq_some_iff.mp polled
  rcases pollRead_eq_some read with
    ⟨bytes, rfl, rfl, nonempty, _⟩ | ⟨rfl, rfl⟩ | ⟨rfl, rfl⟩
  · obtain ⟨byte, tail, rfl⟩ := List.exists_cons_of_ne_nil nonempty
    cases broken : splitLine (byte :: tail) with
    | none =>
        refine .inr (.inl ⟨byte :: tail, rfl, splitLine_eq_none broken, ?_⟩)
        simp only [broken]
    | some split =>
        obtain ⟨line, unread⟩ := split
        obtain ⟨joined, front, rfl, clean⟩ := splitLine_eq_some broken
        refine .inl ⟨front, unread, by rw [joined], clean, ?_⟩
        simp only [broken]
  · exact .inr (.inr (.inl ⟨rfl, rfl⟩))
  · exact .inr (.inr (.inr ⟨rfl, rfl⟩))

theorem pollReadUntil_received {buffer bytes : Bytes} {outcome : ReadUntilOutcome}
    (polled : pollReadUntil buffer (.received bytes) = some outcome) :
    bytes ≠ [] ∧ bytes.length ≤ bufReaderCapacity := by
  obtain ⟨result, read, _⟩ := Option.map_eq_some_iff.mp polled
  simp only [pollRead] at read
  split at read
  · assumption
  · cases read

theorem pollWriteAll_eq_some {rest : Bytes} {event : Event} {outcome : WriteOutcome}
    (polled : pollWriteAll rest event = some outcome) :
    (event = .sent rest ∧ outcome = .written) ∨
    (∃ bytes tail, event = .sent bytes ∧ outcome = .remaining tail ∧
      rest = bytes ++ tail ∧ bytes ≠ [] ∧ tail ≠ []) ∨
    (event = .writeFailed ∧ outcome = .failed) := by
  cases event with
  | sent bytes =>
      simp only [pollWriteAll] at polled
      split at polled
      · rename_i taken
        obtain ⟨⟨tail, rfl⟩, nonempty⟩ := taken
        cases tail with
        | nil =>
            simp only [List.append_nil, if_pos] at polled
            exact .inl ⟨by rw [List.append_nil], (Option.some.inj polled).symm⟩
        | cons byte tail =>
            rw [if_neg (by simp), List.drop_left] at polled
            exact .inr (.inl ⟨bytes, byte :: tail, rfl,
              (Option.some.inj polled).symm, rfl,
              fun empty => by simp [empty] at nonempty, List.cons_ne_nil _ _⟩)
      · cases polled
  | writeFailed =>
      cases polled
      exact .inr (.inr ⟨rfl, rfl⟩)
  | _ => cases polled

theorem pollFlush_eq_some {event : Event} {outcome : FlushOutcome}
    (polled : pollFlush event = some outcome) :
    (event = .flushed ∧ outcome = .flushed) ∨
    (event = .writeFailed ∧ outcome = .failed) := by
  cases event with
  | flushed =>
      cases polled
      exact .inl ⟨rfl, rfl⟩
  | writeFailed =>
      cases polled
      exact .inr ⟨rfl, rfl⟩
  | _ => cases polled

/-! The read that completes a buffer. -/

theorem pollReadExact_filled {size : Nat} {buffer bytes : Bytes} (nonempty : bytes ≠ [])
    (full : (buffer ++ bytes).length = size) :
    pollReadExact size buffer (.received bytes) = some (.filled (buffer ++ bytes)) := by
  obtain ⟨byte, tail, rfl⟩ := List.exists_cons_of_ne_nil nonempty
  have room : tail.length + 1 ≤ size - buffer.length := by
    simp only [List.length_append, List.length_cons] at full
    omega
  simp only [List.length_append, List.length_cons] at full
  simp [pollReadExact, pollRead, full, room]

@[simp] theorem pollWriteAll_sent_all (rest : Bytes) :
    pollWriteAll rest (.sent rest) = some .written := by
  simp [pollWriteAll]

end PortRedirect.Stream
