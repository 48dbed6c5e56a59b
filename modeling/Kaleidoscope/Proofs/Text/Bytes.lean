import Kaleidoscope.Text.Blank
import Kaleidoscope.Text.Bytes

/-! Texts and their bytes.

Main statement: a newline is a byte of its own, so with one behind them bytes are a text exactly where
they are one without it.
-/

set_option autoImplicit false

namespace Kaleidoscope.Text

theorem encode_eq (text : String) : encode text = text.toList.flatMap String.utf8EncodeChar := by
  have bytes : text.toList.utf8Encode = text.toByteArray := by simp
  unfold encode
  rw [String.toUTF8_eq_toByteArray, ← bytes, List.utf8Encode]
  simp

theorem encode_append (first second : String) :
    encode (first ++ second) = encode first ++ encode second := by
  simp [encode_eq]

theorem decode?_eq_some_iff {bytes : List UInt8} {text : String} :
    decode? bytes = some text ↔ encode text = bytes := by
  unfold decode? String.fromUTF8?
  constructor
  · intro decoded
    split at decoded
    · obtain rfl := Option.some.inj decoded
      rfl
    · simp at decoded
  · rintro rfl
    have same : (⟨(encode text).toArray⟩ : ByteArray) = text.toByteArray := by simp [encode]
    simp only [same, dif_pos text.isValidUTF8]
    rfl

/-- A byte that begins a character ends one only if it is the whole of it. -/
theorem utf8EncodeChar_concat {char : Char} {before : List UInt8} {byte : UInt8}
    (first : byte.IsUTF8FirstByte) (bytes : String.utf8EncodeChar char = before ++ [byte]) :
    before = [] := by
  have within : before.length < (String.utf8EncodeChar char).length := by simp [bytes]
  have last : (String.utf8EncodeChar char)[before.length] = byte := by simp [bytes]
  rw [← last, UInt8.isUTF8FirstByte_getElem_utf8EncodeChar] at first
  exact List.length_eq_zero_iff.mp first

theorem exists_encode_of_concat {text : String} {bytes : List UInt8} {byte : UInt8}
    (first : byte.IsUTF8FirstByte) (encoded : encode text = bytes ++ [byte]) :
    ∃ front, encode front = bytes := by
  rw [encode_eq] at encoded
  rcases text.toList.eq_nil_or_concat with empty | ⟨chars, char, parted⟩
  · simp [empty] at encoded
  · rw [parted, List.concat_eq_append, List.flatMap_append, List.flatMap_singleton] at encoded
    rcases (String.utf8EncodeChar char).eq_nil_or_concat with empty | ⟨before, last, own⟩
    · exact absurd empty String.utf8EncodeChar_ne_nil
    · rw [List.concat_eq_append] at own
      rw [own, ← List.append_assoc] at encoded
      obtain ⟨front, same⟩ := List.append_inj' encoded rfl
      obtain rfl := List.singleton_inj.mp same
      rw [utf8EncodeChar_concat first own, List.append_nil] at front
      exact ⟨String.ofList chars, by rw [encode_eq, String.toList_ofList, front]⟩

theorem decode?_append_newline (bytes : List UInt8) :
    decode? (bytes ++ [10]) = (decode? bytes).map (· ++ "\n") := by
  have newline : encode "\n" = [10] := by decide +kernel
  cases decoded : decode? bytes with
  | some text =>
    rw [Option.map_some, decode?_eq_some_iff, encode_append, newline,
      decode?_eq_some_iff.mp decoded]
  | none =>
    rw [Option.map_none, Option.eq_none_iff_forall_ne_some]
    intro whole found
    obtain ⟨front, encoded⟩ :=
      exists_encode_of_concat (by decide) (decode?_eq_some_iff.mp found)
    simp [decode?_eq_some_iff.mpr encoded] at decoded

theorem trimEnd_append_newline (text : String) : trimEnd (text ++ "\n") = trimEnd text := by
  have white : Unicode.isWhiteSpace '\n' = true := by decide +kernel
  unfold trimEnd
  simp [white]

end Kaleidoscope.Text
