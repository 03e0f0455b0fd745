import Mathlib.Data.List.DropRight
import PortRedirect.Text.Utf8

namespace PortRedirect.Text

/-! Trimming as `str::trim` does it: by the Unicode `White_Space` property, on
characters rather than bytes. -/

/-- `char::is_whitespace`. -/
def isWhitespace (char : Char) : Bool :=
  let code := char.toNat
  (9 ≤ code && code ≤ 13) || code == 0x20 || code == 0x85 || code == 0xA0 ||
    code == 0x1680 || (0x2000 ≤ code && code ≤ 0x200A) || code == 0x2028 ||
    code == 0x2029 || code == 0x202F || code == 0x205F || code == 0x3000

def trimEnd (text : String) : String :=
  String.ofList (text.toList.rdropWhile isWhitespace)

def trimStart (text : String) : String :=
  String.ofList (text.toList.dropWhile isWhitespace)

def trim (text : String) : String := trimEnd (trimStart text)

/-- Tab, line feed, vertical tab, form feed, carriage return or space. -/
def IsAsciiWhitespace (byte : UInt8) : Prop :=
  (9 ≤ byte ∧ byte ≤ 13) ∨ byte = 32

instance (byte : UInt8) : Decidable (IsAsciiWhitespace byte) :=
  inferInstanceAs (Decidable (_ ∨ _))

private theorem forall_ascii (property : Char → Prop)
    (checked : ∀ code < 128, property (Char.ofNat code)) (char : Char)
    (ascii : char.val ≤ 127) : property char := by
  have bound : char.toNat < 128 := Nat.lt_succ_of_le ascii
  simpa [Char.ofNat_toNat] using checked char.toNat bound

private theorem isWhitespace_ascii_iff (char : Char) (ascii : char.val ≤ 127) :
    isWhitespace char = true ↔ IsAsciiWhitespace (asciiByte char) :=
  forall_ascii
    (fun char => isWhitespace char = true ↔ IsAsciiWhitespace (asciiByte char))
    (by decide) char ascii

/-- Every ASCII white-space byte is the encoding of a white-space character. -/
private theorem exists_whitespace_char {byte : UInt8} (blank : IsAsciiWhitespace byte) :
    ∃ char, isWhitespace char = true ∧ String.utf8EncodeChar char = [byte] := by
  rcases blank with ⟨low, high⟩ | rfl
  · have cases : byte = 9 ∨ byte = 10 ∨ byte = 11 ∨ byte = 12 ∨ byte = 13 := by
      simp only [UInt8.le_iff_toNat_le, ← UInt8.toNat_inj, UInt8.reduceToNat] at *
      omega
    rcases cases with rfl | rfl | rfl | rfl | rfl
    · exact ⟨Char.ofNat 9, by decide, by decide⟩
    · exact ⟨Char.ofNat 10, by decide, by decide⟩
    · exact ⟨Char.ofNat 11, by decide, by decide⟩
    · exact ⟨Char.ofNat 12, by decide, by decide⟩
    · exact ⟨Char.ofNat 13, by decide, by decide⟩
  · exact ⟨' ', by decide, by decide⟩

/-- Trimming splits off a tail of white space and nothing else. -/
theorem toList_eq_trimEnd_append (text : String) :
    ∃ spaces, text.toList = (trimEnd text).toList ++ spaces ∧
      ∀ char ∈ spaces, isWhitespace char = true := by
  refine ⟨text.toList.rtakeWhile isWhitespace, ?_, ?_⟩
  · rw [trimEnd, String.toList_ofList, List.rdropWhile_append_rtakeWhile]
  · exact fun char member => List.mem_rtakeWhile_imp member

theorem trimEnd_append_space {text : String} {space : Char}
    (solid : ∀ char ∈ text.toList, isWhitespace char = false)
    (blank : isWhitespace space = true) :
    trimEnd (text ++ String.ofList [space]) = text := by
  have stop : text.toList.rdropWhile isWhitespace = text.toList := by
    rw [List.rdropWhile_eq_self_iff]
    intro nonempty
    simpa using solid _ (List.getLast_mem nonempty)
  rw [trimEnd, String.toList_append, String.toList_ofList,
    List.rdropWhile_concat_pos _ _ _ blank, stop, String.ofList_toList]

private theorem length_utf8EncodeChars_eq_one {chars : List Char}
    (single : (chars.flatMap String.utf8EncodeChar).length = 1) :
    ∃ char, chars = [char] ∧ char.val ≤ 127 := by
  cases chars with
  | nil => simp at single
  | cons head tail =>
      rw [List.flatMap_cons, List.length_append,
        String.length_utf8EncodeChar] at single
      have headSize := head.utf8Size_pos
      have tailEmpty : tail.flatMap String.utf8EncodeChar = [] :=
        List.eq_nil_of_length_eq_zero (by omega)
      cases tail with
      | nil => exact ⟨head, rfl, Char.utf8Size_eq_one_iff.mp (by omega)⟩
      | cons second rest =>
          rw [List.flatMap_cons] at tailEmpty
          exact absurd (List.append_eq_nil_iff.mp tailEmpty).1
            String.utf8EncodeChar_ne_nil

/-- A buffer one byte longer than the expected text trims to that text exactly
when its last byte is an ASCII white-space byte. -/
theorem trimEnd_decoded_iff {bytes : Bytes} {expected : String}
    (solid : ∀ char ∈ expected.toList, isWhitespace char = false)
    (size : bytes.length = (utf8 expected).length + 1) :
    (fromUtf8 bytes).map trimEnd = some expected ↔
      ∃ byte, IsAsciiWhitespace byte ∧ bytes = utf8 expected ++ [byte] := by
  constructor
  · intro decoded
    obtain ⟨text, decodes, trims⟩ := Option.map_eq_some_iff.mp decoded
    rw [fromUtf8_eq_some] at decodes
    obtain ⟨spaces, splits, blank⟩ := toList_eq_trimEnd_append text
    rw [trims] at splits
    have encoded : bytes =
        utf8 expected ++ spaces.flatMap String.utf8EncodeChar := by
      rw [← decodes, utf8_eq_flatMap text, splits, List.flatMap_append,
        ← utf8_eq_flatMap]
    have single : (spaces.flatMap String.utf8EncodeChar).length = 1 := by
      rw [encoded, List.length_append] at size
      omega
    obtain ⟨space, rfl, ascii⟩ := length_utf8EncodeChars_eq_one single
    refine ⟨asciiByte space, ?_, ?_⟩
    · exact (isWhitespace_ascii_iff space ascii).mp (blank space (by simp))
    · rw [encoded, List.flatMap_singleton, utf8EncodeChar_of_ascii ascii]
  · rintro ⟨byte, blank, rfl⟩
    obtain ⟨space, white, encodes⟩ := exists_whitespace_char blank
    have encoded : utf8 (expected ++ String.ofList [space]) =
        utf8 expected ++ [byte] := by
      rw [utf8_append, utf8_ofList, List.flatMap_singleton, encodes]
    rw [← encoded, fromUtf8_utf8, Option.map_some,
      trimEnd_append_space solid white]

end PortRedirect.Text
