import Mathlib.Data.List.Infix
import Mathlib.Data.Nat.Find

namespace PortRedirect.Stream

universe u

variable {α : Type u}

/-! Streams that repeat one message, and messages that end at a stop symbol they
hold nowhere else. -/

def repeated (message : List α) (count : Nat) : List α :=
  (List.replicate count message).flatten

@[simp] theorem repeated_zero (message : List α) : repeated message 0 = [] := rfl

theorem repeated_succ (message : List α) (count : Nat) :
    repeated message (count + 1) = repeated message count ++ message := by
  rw [repeated, List.replicate_succ', List.flatten_append, List.flatten_singleton]
  rfl

theorem repeated_add (message : List α) (first second : Nat) :
    repeated message (first + second) =
      repeated message first ++ repeated message second := by
  rw [repeated, ← List.replicate_append_replicate, List.flatten_append]
  rfl

theorem length_repeated (message : List α) (count : Nat) :
    (repeated message count).length = count * message.length := by
  induction count with
  | zero => simp
  | succ count ih =>
      rw [repeated_succ, List.length_append, ih, Nat.succ_mul]

theorem repeated_mono (message : List α) {first second : Nat}
    (ordered : first ≤ second) : repeated message first <+: repeated message second := by
  obtain ⟨rest, rfl⟩ := Nat.exists_eq_add_of_le ordered
  rw [repeated_add]
  exact List.prefix_append _ _

theorem mem_of_mem_repeated {message : List α} {count : Nat} {symbol : α}
    (member : symbol ∈ repeated message count) : symbol ∈ message := by
  obtain ⟨copy, copies, inside⟩ := List.mem_flatten.mp member
  rw [← List.eq_of_mem_replicate copies]
  exact inside

/-- A front of whole messages can be taken off a prefix of the stream. -/
theorem prefix_repeated_of_append {message front rest : List α} {first second : Nat}
    (nonempty : message ≠ []) (before : front ++ rest <+: repeated message second)
    (whole : front.length = first * message.length) :
    front = repeated message first ∧ rest <+: repeated message (second - first) := by
  have positive := List.length_pos_iff.mpr nonempty
  have bound := before.length_le
  rw [List.length_append, whole, length_repeated] at bound
  have ordered : first ≤ second := by
    apply Nat.le_of_mul_le_mul_right _ positive
    omega
  rw [← Nat.add_sub_cancel' ordered, repeated_add] at before
  obtain ⟨tail, split⟩ := before
  rw [List.append_assoc] at split
  have sameLength : front.length = (repeated message first).length := by
    rw [whole, length_repeated]
  obtain ⟨same, rest⟩ := List.append_inj split sameLength
  exact ⟨same, tail, rest⟩

/-- How often the message stands at the beginning of the stream. -/
def leading [DecidableEq α] (message stream : List α) : Nat :=
  Nat.findGreatest (fun count => repeated message count <+: stream) stream.length

section Leading

variable [DecidableEq α] {message stream : List α}

theorem repeated_leading (message stream : List α) :
    repeated message (leading message stream) <+: stream :=
  Nat.findGreatest_spec (P := fun count => repeated message count <+: stream)
    (Nat.zero_le _) List.nil_prefix

theorem le_leading (nonempty : message ≠ []) {count : Nat}
    (front : repeated message count <+: stream) : count ≤ leading message stream := by
  apply Nat.le_findGreatest _ front
  have positive := List.length_pos_of_ne_nil nonempty
  have bound := front.length_le
  rw [length_repeated] at bound
  exact (Nat.le_mul_of_pos_right count positive).trans bound

theorem leading_mono (nonempty : message ≠ []) {longer : List α} (front : stream <+: longer) :
    leading message stream ≤ leading message longer :=
  le_leading nonempty ((repeated_leading message stream).trans front)

theorem leading_eq (nonempty : message ≠ []) {count : Nat}
    (front : repeated message count <+: stream)
    (stops : ¬ repeated message (count + 1) <+: stream) :
    leading message stream = count := by
  apply Nat.le_antisymm _ (le_leading nonempty front)
  by_contra more
  apply stops
  exact (repeated_mono message (Nat.lt_of_not_le more)).trans
    (repeated_leading message stream)

/-- What follows the repeated message counts on. -/
theorem leading_append (nonempty : message ≠ []) (count : Nat) (rest : List α) :
    leading message (repeated message count ++ rest) = count + leading message rest := by
  apply leading_eq nonempty
  · rw [repeated_add, List.prefix_append_right_inj]
    exact repeated_leading message rest
  · intro more
    rw [Nat.add_assoc, repeated_add, List.prefix_append_right_inj] at more
    exact Nat.not_succ_le_self _ (le_leading nonempty more)

theorem leading_eq_zero (nonempty : message ≠ []) (other : ¬ message <+: stream) :
    leading message stream = 0 :=
  leading_eq nonempty List.nil_prefix (by simpa [repeated] using other)

end Leading

def IsLine (stop : α) (line : List α) : Prop :=
  ∃ front, line = front ++ [stop] ∧ stop ∉ front

variable {stop : α}

private theorem IsLine.eq_of_prefix_line {left right : List α} (first : IsLine stop left)
    (second : IsLine stop right) (before : left <+: right) : left = right := by
  obtain ⟨front, rfl, _⟩ := first
  obtain ⟨other, rfl, clean⟩ := second
  rcases List.prefix_concat_iff.mp before with same | inside
  · exact same
  · exact absurd (inside.subset (by simp)) clean

/-- A stream begins with one line at most. -/
theorem IsLine.eq_of_prefix {left right stream : List α} (first : IsLine stop left)
    (second : IsLine stop right) (leftPrefix : left <+: stream)
    (rightPrefix : right <+: stream) : left = right := by
  rcases List.prefix_or_prefix_of_prefix leftPrefix rightPrefix with before | before
  · exact first.eq_of_prefix_line second before
  · exact (second.eq_of_prefix_line first before).symm

theorem IsLine.ne_nil {line : List α} (ended : IsLine stop line) : line ≠ [] := by
  obtain ⟨front, rfl, _⟩ := ended
  simp

theorem IsLine.mem {line : List α} (ended : IsLine stop line) : stop ∈ line := by
  obtain ⟨front, rfl, _⟩ := ended
  simp

private theorem prefix_repeated_pos {message stream : List α} {count : Nat}
    (nonempty : stream ≠ []) (before : stream <+: repeated message count) :
    message <+: repeated message count := by
  cases count with
  | zero => exact absurd (List.prefix_nil.mp before) nonempty
  | succ count =>
      rw [Nat.add_comm, repeated_add]
      exact (List.prefix_append message []).trans (List.prefix_append _ _)

theorem IsLine.eq_of_prefix_repeated {message line : List α} {count : Nat}
    (ends : IsLine stop message) (ended : IsLine stop line)
    (before : line <+: repeated message count) : line = message :=
  ended.eq_of_prefix ends before (prefix_repeated_pos ended.ne_nil before)

/-- A part of the stream without a stop symbol is whole only when it is empty. -/
theorem IsLine.eq_nil_of_prefix_repeated {message part : List α} {count : Nat}
    (ends : IsLine stop message) (before : part <+: repeated message count)
    (unbroken : stop ∉ part) (whole : message.length ∣ part.length) : part = [] := by
  by_contra nonempty
  have long : message.length ≤ part.length :=
    Nat.le_of_dvd (List.length_pos_iff.mpr nonempty) whole
  have inside : message <+: part :=
    List.prefix_of_prefix_length_le (prefix_repeated_pos nonempty before) before long
  exact unbroken (inside.subset ends.mem)

variable [DecidableEq α]

/-- Counting the stop symbols counts the messages. -/
theorem IsLine.count_repeated {message part : List α} (ends : IsLine stop message)
    (unbroken : stop ∉ part) (count : Nat) :
    (repeated message count ++ part).count stop = count := by
  obtain ⟨front, rfl, clean⟩ := ends
  rw [List.count_append, List.count_eq_zero_of_not_mem unbroken]
  induction count with
  | zero => simp
  | succ count ih =>
      rw [repeated_succ, List.count_append, List.count_append,
        List.count_eq_zero_of_not_mem clean]
      simpa using ih

end PortRedirect.Stream
