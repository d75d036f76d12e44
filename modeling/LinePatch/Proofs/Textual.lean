import LinePatch.Proofs.Bytes.Utf8
import LinePatch.Proofs.Substitution.Gaps
import LinePatch.Proofs.Substitution.Leftmost
import LinePatch.Rule

/-!
# Rules on texts

A rule is applied to bytes, but its two texts are characters. On the encoding of a text this makes no
difference: the occurrences of the pattern among the bytes are those among the characters, so the result is
the encoding of the text in which the characters were replaced. On other bytes, what the rule keeps is valid
or not as it was before.

## Main definitions

* `Substitution.encoded`: a substitution of characters, on their encodings
* `Rule.onChars`: the substitution of a rule in characters

## Main results

* `Substitution.apply_encoded`: encoding and substitution can change places
* `Substitution.isText_output`, `isText_of_output`: when the output is a valid encoding
* `apply_utf8_leftmost`: a rule replaces the leftmost occurrences in a text
-/

namespace LinePatch

namespace Substitution

/-- The substitution on the encodings of characters. -/
def encoded (sub : Substitution Char) : Substitution UInt8 where
  pattern := encode sub.pattern
  replacement := encode sub.replacement
  pattern_ne_nil := mt encode_eq_nil_iff.mp sub.pattern_ne_nil

variable (sub : Substitution Char)

/-- No occurrence of an encoded pattern begins in a character at which none of the pattern begins. -/
theorem not_prefix_of_suffix_utf8EncodeChar {c : Char} {s : List Char} (h : ¬ sub.pattern <+: c :: s)
    {t : Bytes} (ht : t <:+ String.utf8EncodeChar c) (hne : t ≠ []) :
    ¬ sub.encoded.pattern <+: t ++ encode s := by
  obtain ⟨front, hchar⟩ := ht
  rintro ⟨back, hback⟩
  have hwhole : front ++ (encode sub.pattern ++ back) = encode (c :: s) := by
    rw [encode_cons, ← hchar, List.append_assoc, ← hback]
    rfl
  obtain ⟨before, after, hs, rfl, -⟩ := exists_of_append_encode sub.pattern_ne_nil hwhole
  cases before with
  | nil =>
    rw [hs] at h
    exact h (List.prefix_append sub.pattern after)
  | cons d before =>
    obtain ⟨rfl, -⟩ := List.cons.inj hs
    have hlen := congrArg List.length hchar
    have hpos := List.length_pos_iff.mpr hne
    rw [encode_cons, List.length_append, List.length_append] at hlen
    omega

/-- Encoding and substitution can change places. -/
theorem apply_encoded (chars : List Char) :
    sub.encoded.apply (encode chars) =
      { output := encode (sub.apply chars).output, count := (sub.apply chars).count } := by
  induction chars using sub.scanInduction with
  | nil => simp
  | pattern rest ih =>
    have hpattern := sub.encoded.apply_pattern_append (encode rest)
    rw [ih] at hpattern
    rw [encode_append, apply_pattern_append, encode_append]
    exact hpattern
  | cons c s h ih =>
    have hchar := sub.encoded.apply_append_of_not_prefix fun t ht hne =>
      sub.not_prefix_of_suffix_utf8EncodeChar h ht hne
    rw [encode_cons, hchar, ih, sub.apply_cons h]
    rfl

/-! ## Valid encodings -/

/-- The output for a valid encoding is one. -/
theorem isText_output {line : Bytes} (h : line.IsText) :
    Bytes.IsText (sub.encoded.apply line).output := by
  rw [← sub.encoded.intercalate_gaps line] at h
  rw [apply_eq_intercalate]
  exact Bytes.isText_intercalate ((Bytes.isText_intercalate_iff sub.pattern_ne_nil).mp h)

/-- If the output is a valid encoding and something took the place of the pattern, the line was one. -/
theorem isText_of_output (hreplacement : sub.replacement ≠ []) {line : Bytes}
    (h : Bytes.IsText (sub.encoded.apply line).output) : line.IsText := by
  rw [apply_eq_intercalate] at h
  rw [← sub.encoded.intercalate_gaps line]
  exact Bytes.isText_intercalate ((Bytes.isText_intercalate_iff hreplacement).mp h)

end Substitution

namespace Rule

variable (rule : Rule)

/-- The substitution of a rule in characters. -/
def onChars : Substitution Char where
  pattern := rule.pattern.toList
  replacement := rule.replacement.toList
  pattern_ne_nil := mt String.toList_eq_nil_iff.mp rule.pattern_ne_empty

theorem onBytes_eq_encoded : rule.onBytes = rule.onChars.encoded := by
  simp only [onBytes, Substitution.encoded, onChars, utf8_eq_encode]

/-- A rule replaces the characters of a text. -/
theorem apply_utf8 (text : String) :
    rule.apply (utf8 text) =
      { output := utf8 (String.ofList (rule.onChars.apply text.toList).output)
        count := (rule.onChars.apply text.toList).count } := by
  rw [apply, onBytes_eq_encoded, utf8_eq_encode, Substitution.apply_encoded, utf8_ofList]

/-- The leftmost replacement in a text is what the rule does to its bytes. -/
theorem leftmost_iff_apply_utf8 {text output : String} {count : Nat} :
    Leftmost rule.pattern.toList rule.replacement.toList text.toList output.toList count ↔
      rule.apply (utf8 text) = { output := utf8 output, count } := by
  refine (rule.onChars.apply_eq_iff_leftmost).symm.trans ?_
  rw [apply_utf8]
  constructor
  · intro h
    rw [h, String.ofList_toList]
  · intro h
    obtain ⟨houtput, hcount⟩ := Patched.mk.inj h
    rw [← utf8_injective houtput, ← hcount, String.toList_ofList]

end Rule

/-- **A rule replaces text by text.** Applied to the bytes of a text, it gives the bytes of the one text in
which the leftmost occurrences of the pattern, character by character, have been replaced, and their number.
Any valid line stays valid; and a line that is not valid only becomes so if the replacement is empty. -/
theorem apply_utf8_leftmost (rule : Rule) :
    (∀ text, ∃ output count, rule.apply (utf8 text) = { output := utf8 output, count } ∧
        ∀ output' count', Leftmost rule.pattern.toList rule.replacement.toList text.toList
          output'.toList count' ↔ output' = output ∧ count' = count) ∧
      (∀ line, (Bytes.toText? line).isSome → (Bytes.toText? (rule.apply line).output).isSome) ∧
      (rule.replacement ≠ "" → ∀ line,
        (Bytes.toText? (rule.apply line).output).isSome → (Bytes.toText? line).isSome) := by
  refine ⟨?_, ?_, ?_⟩
  · intro text
    refine ⟨_, _, rule.apply_utf8 text, ?_⟩
    intro output' count'
    rw [rule.leftmost_iff_apply_utf8, rule.apply_utf8, Patched.mk.injEq, utf8_injective.eq_iff]
    exact and_congr eq_comm eq_comm
  · intro line hline
    rw [← Bytes.isText_iff] at hline ⊢
    rw [Rule.apply, Rule.onBytes_eq_encoded]
    exact rule.onChars.isText_output hline
  · intro hreplacement line hline
    rw [← Bytes.isText_iff] at hline ⊢
    rw [Rule.apply, Rule.onBytes_eq_encoded] at hline
    exact rule.onChars.isText_of_output (mt String.toList_eq_nil_iff.mp hreplacement) hline

/-- Characters of two and three bytes, and a pattern that overlaps itself. -/
theorem apply_utf8_leftmost_wide :
    let rule : Rule := ⟨"éé", "€", by decide⟩
    rule.apply (utf8 "aéééé\n") = { output := utf8 "a€€\n", count := 2 } ∧
      Leftmost "éé".toList "€".toList "aéééé\n".toList "a€€\n".toList 2 ∧
      rule.replacement ≠ "" ∧
      ((Bytes.toText? (utf8 "aéé")).isSome ∧
        (Bytes.toText? (rule.apply (utf8 "aéé")).output).isSome) ∧
      (Bytes.toText? (rule.apply (195 :: utf8 "éé")).output).isSome = false := by
  intro rule
  obtain ⟨hleftmost, hvalid, hback⟩ := apply_utf8_leftmost rule
  obtain ⟨output, count, happly, honly⟩ := hleftmost "aéééé\n"
  have hwide : rule.apply (utf8 "aéééé\n") = { output := utf8 "a€€\n", count := 2 } := by
    decide +kernel
  have hreplacement : rule.replacement ≠ "" := by decide
  have hline : (Bytes.toText? (utf8 "aéé")).isSome := by rw [toText?_utf8]; rfl
  have hbroken : (Bytes.toText? (195 :: utf8 "éé")).isSome = false := by decide +kernel
  obtain ⟨houtput, hcount⟩ := Patched.mk.inj (hwide.symm.trans happly)
  refine ⟨hwide, (honly _ _).mpr ⟨utf8_injective houtput, hcount⟩, hreplacement,
    ⟨hback hreplacement _ (hvalid _ hline), hvalid _ hline⟩, ?_⟩
  rw [Bool.eq_false_iff] at hbroken ⊢
  exact mt (hback hreplacement _) hbroken

/-- Without a replacement the two halves of a character can come together. -/
example :
    let rule : Rule := ⟨"a", "", by decide⟩
    (Bytes.toText? [195, 97, 169]).isSome = false ∧
      (Bytes.toText? (rule.apply [195, 97, 169]).output).isSome := by
  decide +kernel

end LinePatch
