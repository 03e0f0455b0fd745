import Mathlib.Data.List.Basic
import PortRedirect.Text.Utf8

namespace PortRedirect.Text

/-! Line splitting as `str::lines` does it. -/

/-- `str::split_inclusive('\n')`: every piece but the last ends in a line feed. -/
def splitInclusive : List Char → List (List Char)
  | [] => []
  | char :: rest =>
      if char = '\n' then
        [char] :: splitInclusive rest
      else
        match splitInclusive rest with
        | [] => [[char]]
        | piece :: pieces => (char :: piece) :: pieces

/-- Drop the line feed a piece ends in, and a carriage return before it. -/
def stripLineEnd (piece : List Char) : List Char :=
  if piece.getLast? = some '\n' then
    let line := piece.dropLast
    if line.getLast? = some '\r' then line.dropLast else line
  else
    piece

def lines (text : String) : List String :=
  (splitInclusive text.toList).map fun piece => String.ofList (stripLineEnd piece)

theorem splitInclusive_append_newline {line : List Char} (rest : List Char)
    (unbroken : '\n' ∉ line) :
    splitInclusive (line ++ '\n' :: rest) =
      (line ++ ['\n']) :: splitInclusive rest := by
  induction line with
  | nil => simp [splitInclusive]
  | cons char line ih =>
      rw [List.mem_cons, not_or] at unbroken
      rw [List.cons_append, splitInclusive, if_neg (Ne.symm unbroken.1),
        ih unbroken.2]
      rfl

theorem splitInclusive_of_unbroken {line : List Char} (unbroken : '\n' ∉ line)
    (nonempty : line ≠ []) : splitInclusive line = [line] := by
  induction line with
  | nil => exact absurd rfl nonempty
  | cons char line ih =>
      rw [List.mem_cons, not_or] at unbroken
      rw [splitInclusive, if_neg (Ne.symm unbroken.1)]
      cases line with
      | nil => rfl
      | cons second line => rw [ih unbroken.2 (List.cons_ne_nil second line)]

theorem stripLineEnd_append_newline {line : List Char} (noReturn : '\r' ∉ line) :
    stripLineEnd (line ++ ['\n']) = line := by
  have kept : line.getLast? ≠ some '\r' :=
    fun last => noReturn (List.mem_of_getLast? last)
  simp [stripLineEnd, kept]

theorem stripLineEnd_of_unbroken {line : List Char} (unbroken : '\n' ∉ line) :
    stripLineEnd line = line := by
  have kept : line.getLast? ≠ some '\n' :=
    fun last => unbroken (List.mem_of_getLast? last)
  rw [stripLineEnd, if_neg kept]

/-- A line with neither line feed nor carriage return in it. -/
def IsPlainLine (line : String) : Prop := '\n' ∉ line.toList ∧ '\r' ∉ line.toList

instance (line : String) : Decidable (IsPlainLine line) :=
  inferInstanceAs (Decidable (_ ∧ _))

theorem lines_append_newline {line : String} (plain : IsPlainLine line)
    (rest : String) : lines (line ++ "\n" ++ rest) = line :: lines rest := by
  have chars : (line ++ "\n" ++ rest).toList =
      line.toList ++ '\n' :: rest.toList := by
    simp [String.toList_append]
  rw [lines, chars, splitInclusive_append_newline _ plain.1, List.map_cons,
    stripLineEnd_append_newline plain.2, String.ofList_toList]
  rfl

theorem lines_of_plain {line : String} (plain : IsPlainLine line)
    (nonempty : line ≠ "") : lines line = [line] := by
  have chars : line.toList ≠ [] := by
    intro empty
    exact nonempty (String.toList_eq_nil_iff.mp empty)
  rw [lines, splitInclusive_of_unbroken plain.1 chars, List.map_singleton,
    stripLineEnd_of_unbroken plain.1, String.ofList_toList]

@[simp] theorem lines_empty : lines "" = [] := by
  simp [lines, splitInclusive]

theorem IsPlainLine.take {line : String} (plain : IsPlainLine line) (count : Nat) :
    IsPlainLine (String.ofList (line.toList.take count)) := by
  constructor
  · intro member
    rw [String.toList_ofList] at member
    exact plain.1 (List.mem_of_mem_take member)
  · intro member
    rw [String.toList_ofList] at member
    exact plain.2 (List.mem_of_mem_take member)

end PortRedirect.Text
