import LinePatch.Bytes
import Mathlib.Data.List.Infix

/-!
# The encoding of texts

A text is encoded character by character, and a byte says whether it is the first of a character. So the
encoding of a text that is not empty occurs in that of another only where a character begins, and ends where
one ends: what stands around it are encodings too.

## Main definitions

* `encode`: the bytes of characters
* `Bytes.IsText`: the bytes of some characters

## Main results

* `exists_of_encode_append`: an encoding begins with another only if the characters do
* `exists_of_append_encode`: an encoding occurs in another only among the characters
* `Bytes.isText_intercalate_iff`: what stands between the encodings of a text
-/

namespace LinePatch

/-- The UTF-8 encoding of characters. -/
def encode (chars : List Char) : Bytes :=
  chars.flatMap String.utf8EncodeChar

@[simp] theorem encode_nil : encode [] = [] := rfl

theorem encode_cons (c : Char) (chars : List Char) :
    encode (c :: chars) = String.utf8EncodeChar c ++ encode chars := rfl

@[simp] theorem encode_append (chars more : List Char) :
    encode (chars ++ more) = encode chars ++ encode more :=
  List.flatMap_append

theorem toByteArray_encode (chars : List Char) : (encode chars).toByteArray = chars.utf8Encode := rfl

theorem utf8_ofList (chars : List Char) : utf8 (String.ofList chars) = encode chars := by
  simp [utf8, encode, List.utf8Encode]

theorem utf8_eq_encode (text : String) : utf8 text = encode text.toList := by
  rw [← utf8_ofList, String.ofList_toList]

theorem utf8_injective : Function.Injective utf8 := by
  intro text other h
  have htext := congrArg Bytes.toText? h
  rwa [toText?_utf8, toText?_utf8, Option.some_inj] at htext

theorem encode_injective : Function.Injective encode := by
  intro chars more h
  rw [← utf8_ofList, ← utf8_ofList] at h
  exact String.ofList_injective (utf8_injective h)

theorem encode_eq_nil_iff {chars : List Char} : encode chars = [] ↔ chars = [] :=
  encode_injective.eq_iff' encode_nil

/-! ## Encodings at the beginning of others -/

/-- If an encoding begins with another, the characters do too, and the others make up the rest. -/
theorem exists_of_encode_append {p s : List Char} {rest : Bytes} (h : encode p ++ rest = encode s) :
    ∃ more, s = p ++ more ∧ rest = encode more := by
  have hbytes := congrArg List.toByteArray h
  rw [List.toByteArray_append, toByteArray_encode, toByteArray_encode] at hbytes
  obtain ⟨more, rfl⟩ := List.isPrefix_of_utf8Encode_append_eq_utf8Encode _ hbytes
  rw [encode_append, List.append_cancel_left_eq] at h
  exact ⟨more, rfl, h⟩

/-! ## Encodings inside others -/

/-- The byte with which an encoding begins is the first of a character. -/
theorem isUTF8FirstByte_of_mem_head? {p : List Char} {b : UInt8} (h : b ∈ (encode p).head?) :
    b.IsUTF8FirstByte := by
  cases p with
  | nil => cases h
  | cons c p =>
    have hlen : 0 < (String.utf8EncodeChar c).length := List.length_pos_iff.mpr String.utf8EncodeChar_ne_nil
    have hb : (String.utf8EncodeChar c)[0] = b := by
      rw [encode_cons, List.head?_append_of_ne_nil _ String.utf8EncodeChar_ne_nil,
        List.head?_eq_getElem?, List.getElem?_eq_getElem hlen] at h
      exact Option.some.inj h
    rw [← hb]
    exact UInt8.isUTF8FirstByte_getElem_utf8EncodeChar.mpr rfl

/-- A character cannot be cut in front of the first byte of another. -/
theorem eq_nil_of_utf8EncodeChar_eq {c : Char} {front back : Bytes} {b : UInt8}
    (h : String.utf8EncodeChar c = front ++ b :: back) (hb : b.IsUTF8FirstByte) : front = [] := by
  have hlt : front.length < (String.utf8EncodeChar c).length := by
    rw [h, List.length_append, List.length_cons]
    omega
  have hget : (String.utf8EncodeChar c)[front.length] = b := by
    rw [List.getElem_of_eq h]
    simp
  rw [← hget] at hb
  exact List.length_eq_zero_iff.mp (UInt8.isUTF8FirstByte_getElem_utf8EncodeChar.mp hb)

/-- An encoding is cut in front of a first byte only between two characters. -/
theorem exists_of_append_eq_encode {s : List Char} {front back : Bytes} (h : front ++ back = encode s)
    (hback : ∀ b ∈ back.head?, b.IsUTF8FirstByte) :
    ∃ before after, s = before ++ after ∧ front = encode before ∧ back = encode after := by
  induction s generalizing front with
  | nil =>
    obtain ⟨rfl, rfl⟩ := List.append_eq_nil_iff.mp h
    exact ⟨[], [], rfl, rfl, rfl⟩
  | cons c s ih =>
    rw [encode_cons] at h
    rcases List.append_eq_append_iff.mp h with ⟨inside, hchar, rfl⟩ | ⟨more, rfl, hs⟩
    · cases inside with
      | nil =>
        rw [List.append_nil] at hchar
        exact ⟨[c], s, rfl, by simp [encode, hchar], rfl⟩
      | cons b inside =>
        have hnil := eq_nil_of_utf8EncodeChar_eq hchar (hback b rfl)
        rw [hnil, List.nil_append] at hchar
        exact ⟨[], c :: s, rfl, hnil, by rw [encode_cons, hchar]⟩
    · obtain ⟨before, after, rfl, rfl, rfl⟩ := ih hs.symm
      exact ⟨c :: before, after, rfl, rfl, rfl⟩

/-- The encoding of some characters occurs in another only where they stand among its characters. -/
theorem exists_of_append_encode {p s : List Char} {front back : Bytes} (hp : p ≠ [])
    (h : front ++ (encode p ++ back) = encode s) :
    ∃ before after, s = before ++ (p ++ after) ∧ front = encode before ∧ back = encode after := by
  have hne : encode p ≠ [] := mt encode_eq_nil_iff.mp hp
  obtain ⟨before, rest, rfl, rfl, hrest⟩ := exists_of_append_eq_encode h (by
    intro b hb
    rw [List.head?_append_of_ne_nil _ hne] at hb
    exact isUTF8FirstByte_of_mem_head? hb)
  obtain ⟨after, rfl, rfl⟩ := exists_of_encode_append hrest
  exact ⟨before, after, rfl, rfl, rfl⟩

/-! ## Valid encodings -/

namespace Bytes

/-- The bytes are the encoding of some characters. -/
def IsText (bytes : Bytes) : Prop :=
  ∃ chars, bytes = encode chars

theorem isText_encode (chars : List Char) : IsText (encode chars) :=
  ⟨chars, rfl⟩

theorem isText_iff {bytes : Bytes} : IsText bytes ↔ (toText? bytes).isSome := by
  constructor
  · rintro ⟨chars, rfl⟩
    rw [← utf8_ofList, toText?_utf8]
    rfl
  · intro h
    unfold toText? String.fromUTF8? at h
    split at h
    next hvalid =>
      obtain ⟨chars, hchars⟩ := hvalid
      refine ⟨chars, ?_⟩
      have hlist := congrArg (fun bytes => bytes.data.toList) hchars
      simpa [encode, List.utf8Encode] using hlist
    next => cases h

theorem IsText.append {bytes more : Bytes} (h : IsText bytes) (hmore : IsText more) :
    IsText (bytes ++ more) := by
  obtain ⟨chars, rfl⟩ := h
  obtain ⟨others, rfl⟩ := hmore
  exact ⟨chars ++ others, (encode_append chars others).symm⟩

/-- The encoding of a text around some bytes, if any, leaves them valid. -/
theorem IsText.of_append_encode {p : List Char} {front back : Bytes} (hp : p ≠ [])
    (h : IsText (front ++ (encode p ++ back))) : IsText front ∧ IsText back := by
  obtain ⟨chars, hchars⟩ := h
  obtain ⟨before, after, -, rfl, rfl⟩ := exists_of_append_encode hp hchars
  exact ⟨isText_encode before, isText_encode after⟩

theorem isText_intercalate {p : List Char} {gaps : List Bytes} (h : ∀ gap ∈ gaps, IsText gap) :
    IsText ((encode p).intercalate gaps) := by
  induction gaps with
  | nil => exact isText_encode []
  | cons gap gaps ih =>
    have hgap := h gap List.mem_cons_self
    rcases eq_or_ne gaps [] with rfl | hne
    · rwa [List.intercalate_singleton]
    · rw [List.intercalate_cons_of_ne_nil hne]
      exact (hgap.append (isText_encode p)).append
        (ih fun other hother => h other (List.mem_cons_of_mem gap hother))

/-- With the encoding of a text between them, pieces make up a valid encoding if each of them is one. -/
theorem isText_intercalate_iff {p : List Char} (hp : p ≠ []) {gaps : List Bytes} :
    IsText ((encode p).intercalate gaps) ↔ ∀ gap ∈ gaps, IsText gap := by
  refine ⟨?_, isText_intercalate⟩
  intro h
  induction gaps with
  | nil => simp
  | cons gap gaps ih =>
    rcases eq_or_ne gaps [] with rfl | hne
    · rw [List.intercalate_singleton] at h
      simpa using h
    · rw [List.intercalate_cons_of_ne_nil hne, List.append_assoc] at h
      obtain ⟨hgap, hgaps⟩ := h.of_append_encode hp
      intro other hother
      rcases List.mem_cons.mp hother with rfl | hother
      · exact hgap
      · exact ih hgaps other hother

end Bytes

end LinePatch
