/-!
# Byte strings

Files and streams are read and written as bytes, whatever their encoding. Texts (the two texts of a
rule, paths, messages) are strings; `utf8` gives the bytes of a text.

## Main definitions

* `Bytes`: byte strings
* `utf8`: the encoding of a text
* `Bytes.toText?`: the text a byte string encodes, if it encodes one
* `newline`: the byte that ends a line

## Main results

* `utf8_eq_nil_iff`: only the empty text has the empty encoding
* `toText?_utf8`: every text is read back from its encoding
-/

namespace LinePatch

/-- A byte string. -/
abbrev Bytes := List UInt8

/-- The UTF-8 encoding of a text. -/
def utf8 (text : String) : Bytes :=
  text.toUTF8.data.toList

/-- The byte that ends a line. -/
def newline : UInt8 := 10

/-- The text whose UTF-8 encoding is `bytes`; there is none when `bytes` is not valid UTF-8. -/
def Bytes.toText? (bytes : Bytes) : Option String :=
  String.fromUTF8? ⟨bytes.toArray⟩

theorem length_utf8 (text : String) : (utf8 text).length = text.utf8ByteSize :=
  String.size_toByteArray

theorem utf8_eq_nil_iff {text : String} : utf8 text = [] ↔ text = "" := by
  rw [← List.length_eq_zero_iff, length_utf8, String.utf8ByteSize_eq_zero_iff]

theorem toText?_utf8 (text : String) : Bytes.toText? (utf8 text) = some text := by
  simp only [Bytes.toText?, utf8, Array.toArray_toList]
  exact dif_pos text.isValidUTF8

end LinePatch
