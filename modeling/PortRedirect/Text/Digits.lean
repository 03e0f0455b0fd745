import Mathlib.Data.List.Basic
import PortRedirect.Text.Lines
import PortRedirect.Text.Trim

namespace PortRedirect.Text

/-! Numbers and byte strings as text: `hex::encode` and decimal `Display`. -/

/-- The two lowercase hex digits of a byte. -/
def hexPair (byte : UInt8) : List Char :=
  [Nat.digitChar (byte.toNat / 16), Nat.digitChar (byte.toNat % 16)]

def hexEncode (bytes : Bytes) : String := String.ofList (bytes.flatMap hexPair)

/-- `Display` of an unsigned integer. -/
def decimal (number : Nat) : String := toString number

def IsHexDigit (char : Char) : Prop :=
  ∃ digit < 16, char = Nat.digitChar digit

theorem mem_hexEncode {bytes : Bytes} {char : Char}
    (member : char ∈ (hexEncode bytes).toList) : IsHexDigit char := by
  rw [hexEncode, String.toList_ofList, List.mem_flatMap] at member
  obtain ⟨byte, _, digit⟩ := member
  have bound := byte.toNat_lt
  rcases List.mem_pair.mp digit with rfl | rfl
  · exact ⟨byte.toNat / 16, by omega, rfl⟩
  · exact ⟨byte.toNat % 16, by omega, rfl⟩

/-- A hex digit is none of the characters that format the protocol's lines. -/
theorem IsHexDigit.plain {char : Char} (digit : IsHexDigit char) :
    char.val ≤ 127 ∧ isWhitespace char = false ∧ char ≠ '\n' ∧ char ≠ '\r' := by
  obtain ⟨value, bound, rfl⟩ := digit
  have checked : ∀ digit < 16, (Nat.digitChar digit).val ≤ 127 ∧
      isWhitespace (Nat.digitChar digit) = false ∧
      Nat.digitChar digit ≠ '\n' ∧ Nat.digitChar digit ≠ '\r' := by decide
  exact checked value bound

theorem length_toList_hexEncode (bytes : Bytes) :
    (hexEncode bytes).toList.length = 2 * bytes.length := by
  rw [hexEncode, String.toList_ofList]
  induction bytes with
  | nil => rfl
  | cons byte bytes ih =>
      rw [List.flatMap_cons, List.length_append, ih, List.length_cons]
      simp only [hexPair, List.length_cons, List.length_nil]
      omega

private theorem digitChar_injective {left right : Nat} (leftBound : left < 16)
    (rightBound : right < 16) (same : Nat.digitChar left = Nat.digitChar right) :
    left = right := by
  have checked : ∀ first < 16, ∀ second < 16,
      Nat.digitChar first = Nat.digitChar second → first = second := by decide
  exact checked left leftBound right rightBound same

private theorem hexPair_injective {left right : UInt8}
    (same : hexPair left = hexPair right) : left = right := by
  have leftBound := left.toNat_lt
  have rightBound := right.toNat_lt
  simp only [hexPair, List.cons.injEq, and_true] at same
  have high := digitChar_injective (by omega) (by omega) same.1
  have low := digitChar_injective (by omega) (by omega) same.2
  apply UInt8.toNat_inj.mp
  omega

theorem hexEncode_injective : Function.Injective hexEncode := by
  intro left right same
  have chars : left.flatMap hexPair = right.flatMap hexPair := by
    simpa [hexEncode] using congrArg String.toList same
  clear same
  induction left generalizing right with
  | nil =>
      cases right with
      | nil => rfl
      | cons head tail => simp [hexPair] at chars
  | cons first left ih =>
      cases right with
      | nil => simp [hexPair] at chars
      | cons second right =>
          rw [List.flatMap_cons, List.flatMap_cons] at chars
          obtain ⟨heads, tails⟩ := List.append_inj chars rfl
          rw [hexPair_injective heads, ih tails]

theorem isAscii_hexEncode (bytes : Bytes) : IsAscii (hexEncode bytes) :=
  fun _ member => (mem_hexEncode member).plain.1

theorem hexEncode_solid (bytes : Bytes) :
    ∀ char ∈ (hexEncode bytes).toList, isWhitespace char = false :=
  fun _ member => (mem_hexEncode member).plain.2.1

theorem isPlainLine_hexEncode (bytes : Bytes) : IsPlainLine (hexEncode bytes) :=
  ⟨fun member => (mem_hexEncode member).plain.2.2.1 rfl,
    fun member => (mem_hexEncode member).plain.2.2.2 rfl⟩

theorem length_utf8_hexEncode (bytes : Bytes) :
    (utf8 (hexEncode bytes)).length = 2 * bytes.length := by
  rw [length_utf8_of_ascii (isAscii_hexEncode bytes), length_toList_hexEncode]

/-! Decimal numerals. -/

theorem mem_decimal {number : Nat} {char : Char}
    (member : char ∈ (decimal number).toList) : char.isDigit = true := by
  rw [decimal, Nat.toString_eq_ofList_toDigits, String.toList_ofList] at member
  exact Nat.isDigit_of_mem_toDigits (by decide) (by decide) member

theorem isAscii_of_isDigit {char : Char} (digit : char.isDigit = true) :
    char.val ≤ 127 := by
  simp only [Char.isDigit, Bool.and_eq_true, decide_eq_true_eq,
    UInt32.le_iff_toNat_le, ge_iff_le] at *
  exact Nat.le_trans digit.2 (by decide)

theorem isAscii_decimal (number : Nat) : IsAscii (decimal number) :=
  fun _ member => isAscii_of_isDigit (mem_decimal member)

theorem isPlainLine_decimal (number : Nat) : IsPlainLine (decimal number) := by
  constructor
  · intro member
    exact absurd (mem_decimal member) (by decide)
  · intro member
    exact absurd (mem_decimal member) (by decide)

theorem decimal_injective : Function.Injective decimal := by
  intro left right same
  have digits : Nat.toDigits 10 left = Nat.toDigits 10 right := by
    simpa [decimal, Nat.toString_eq_ofList_toDigits] using
      congrArg String.toList same
  rw [← Nat.ofDigitChars_ten_toDigits (n := left), digits,
    Nat.ofDigitChars_ten_toDigits]

theorem length_decimal_le {number count : Nat} (positive : 0 < count)
    (bound : number < 10 ^ count) : (decimal number).toList.length ≤ count := by
  rw [decimal, Nat.toString_eq_ofList_toDigits, String.toList_ofList]
  exact (Nat.length_toDigits_le_iff (by decide) positive).mpr bound

theorem eq_zero_of_decimal_head {number : Nat} {rest : List Char}
    (leading : (decimal number).toList = '0' :: rest) : number = 0 := by
  rw [decimal, Nat.toString_eq_ofList_toDigits, String.toList_ofList] at leading
  induction number using Nat.strongRecOn generalizing rest with
  | ind number ih =>
      by_cases small : number < 10
      · rw [Nat.toDigits_of_lt_base small] at leading
        exact digitChar_injective (by omega) (by omega) (List.head_eq_of_cons_eq leading)
      · rw [Nat.toDigits_of_base_le (by decide) (by omega)] at leading
        obtain ⟨first, others, digits⟩ :=
          List.exists_cons_of_ne_nil (Nat.toDigits_ne_nil (n := number / 10) (b := 10))
        rw [digits, List.cons_append] at leading
        rw [List.head_eq_of_cons_eq leading] at digits
        have zero := ih (number / 10) (by omega) digits
        omega

/-- A numeral ends where the first character that is no digit stands, so a
numeral followed by such a character is read in one way only. -/
theorem decimal_append_injective {left right : Nat} {stop : Char}
    {leftRest rightRest : List Char} (nondigit : stop.isDigit = false)
    (same : (decimal left).toList ++ stop :: leftRest =
      (decimal right).toList ++ stop :: rightRest) :
    left = right ∧ leftRest = rightRest := by
  have cut : ∀ (number : Nat) (rest : List Char),
      ((decimal number).toList ++ stop :: rest).takeWhile Char.isDigit =
        (decimal number).toList := by
    intro number rest
    rw [List.takeWhile_append_of_pos fun char member => mem_decimal member,
      List.takeWhile_cons_of_neg (by simp [nondigit]), List.append_nil]
  have numerals : (decimal left).toList = (decimal right).toList := by
    rw [← cut left leftRest, ← cut right rightRest, same]
  rw [numerals, List.append_cancel_left_eq, List.cons.injEq] at same
  exact ⟨decimal_injective (String.toList_inj.mp numerals), same.2⟩

end PortRedirect.Text
