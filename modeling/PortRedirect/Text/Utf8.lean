import Mathlib.Data.List.Basic
import Mathlib.Data.UInt

namespace PortRedirect.Text

/-! Strings as the bytes they are sent as. -/

abbrev Bytes := List UInt8

def utf8 (text : String) : Bytes := text.toByteArray.data.toList

def fromUtf8 (bytes : Bytes) : Option String :=
  String.fromUTF8? bytes.toByteArray

@[simp] theorem utf8_append (left right : String) :
    utf8 (left ++ right) = utf8 left ++ utf8 right := by
  simp [utf8]

theorem utf8_injective : Function.Injective utf8 := by
  intro left right same
  apply String.toByteArray_inj.mp
  apply ByteArray.ext
  exact Array.toList_inj.mp same

theorem utf8_ofList (chars : List Char) :
    utf8 (String.ofList chars) = chars.flatMap String.utf8EncodeChar := by
  simp [utf8, List.utf8Encode]

theorem utf8_eq_flatMap (text : String) :
    utf8 text = text.toList.flatMap String.utf8EncodeChar := by
  rw [← utf8_ofList, String.ofList_toList]

/-- Decoding succeeds on exactly the encodings, and inverts them. -/
theorem fromUtf8_eq_some {bytes : Bytes} {text : String} :
    fromUtf8 bytes = some text ↔ utf8 text = bytes := by
  unfold fromUtf8 String.fromUTF8?
  constructor
  · intro decoded
    split at decoded
    · cases decoded
      simp [utf8, String.fromUTF8]
    · cases decoded
  · intro encoded
    subst encoded
    have valid : (utf8 text).toByteArray = text.toByteArray := by
      simp [utf8, ByteArray.ext_iff]
    rw [dif_pos (by rw [valid]; exact text.isValidUTF8)]
    simp [String.fromUTF8, valid]

@[simp] theorem fromUtf8_utf8 (text : String) : fromUtf8 (utf8 text) = some text :=
  fromUtf8_eq_some.mpr rfl

/-! ASCII text: one byte a character. -/

def IsAscii (text : String) : Prop := ∀ char ∈ text.toList, char.val ≤ 127

instance (text : String) : Decidable (IsAscii text) :=
  List.decidableBAll (fun char : Char => char.val ≤ 127) text.toList

def asciiByte (char : Char) : UInt8 := char.val.toUInt8

theorem utf8EncodeChar_of_ascii {char : Char} (ascii : char.val ≤ 127) :
    String.utf8EncodeChar char = [asciiByte char] := by
  exact String.utf8EncodeChar_eq_singleton (Char.utf8Size_eq_one_iff.mpr ascii)

theorem utf8_of_ascii {text : String} (ascii : IsAscii text) :
    utf8 text = text.toList.map asciiByte := by
  rw [utf8_eq_flatMap, List.map_eq_flatMap]
  exact List.flatMap_congr fun char member => utf8EncodeChar_of_ascii (ascii char member)

theorem length_utf8_of_ascii {text : String} (ascii : IsAscii text) :
    (utf8 text).length = text.toList.length := by
  rw [utf8_of_ascii ascii, List.length_map]

theorem mem_utf8_of_ascii {text : String} (ascii : IsAscii text) {char : Char}
    (small : char.val ≤ 127) : asciiByte char ∈ utf8 text ↔ char ∈ text.toList := by
  rw [utf8_of_ascii ascii, List.mem_map]
  constructor
  · intro member
    obtain ⟨other, inText, same⟩ := member
    have texts : String.ofList [other] = String.ofList [char] := by
      apply utf8_injective
      rw [utf8_ofList, utf8_ofList, List.flatMap_singleton, List.flatMap_singleton,
        utf8EncodeChar_of_ascii (ascii other inText), utf8EncodeChar_of_ascii small, same]
    have chars := congrArg String.toList texts
    rw [String.toList_ofList, String.toList_ofList] at chars
    rw [← List.head_eq_of_cons_eq chars]
    exact inText
  · intro member
    exact ⟨char, member, rfl⟩

theorem IsAscii.append {left right : String} (first : IsAscii left)
    (second : IsAscii right) : IsAscii (left ++ right) := by
  intro char member
  rw [String.toList_append, List.mem_append] at member
  exact member.elim (first char) (second char)

theorem IsAscii.take {text : String} (ascii : IsAscii text) (count : Nat) :
    IsAscii (String.ofList (text.toList.take count)) := by
  intro char member
  rw [String.toList_ofList] at member
  exact ascii char (List.mem_of_mem_take member)

end PortRedirect.Text
