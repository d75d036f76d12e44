import LinePatch.Log.Pattern.Switches

/-!
# Escapes in regular expressions

A backslash takes its meaning as an operator from the character behind it, or gives a letter a meaning
of its own: a character by its number, a class of characters, a place in the text.

## Main definitions

* `Pattern.Escape`: what a backslash and the characters behind it stand for
* `Pattern.readEscape`: its reading

## Main results

* `Pattern.readEscape_suffix`: what follows an escape is an end of the text
-/

namespace LinePatch.Pattern

/-- What a backslash and the characters behind it stand for. -/
inductive Escape where
  | literal (c : Char)
  /-- A character given by two hexadecimal digits, which is a byte where bytes are meant. -/
  | byte (c : Char)
  /-- The digits, the blanks or the characters of words, or all others. -/
  | shorthand (negated : Bool)
  /-- An end of the text. -/
  | textEnd
  /-- A boundary between words. -/
  | boundary
deriving DecidableEq, Repr

/-- What an escape stands for can be meant outside of sets. -/
def Switches.allowsEscape (switches : Switches) : Escape → Bool
  | .literal _ => switches.allows
  | .byte c => switches.allowsInSet c
  | .shorthand negated => !switches.unicode && !negated
  | .textEnd => true
  | .boundary => !switches.unicode

/-- The value of a hexadecimal digit. -/
def hexDigit? (c : Char) : Option Nat :=
  if c.isDigit then some (c.toNat - '0'.toNat)
  else if 'a' ≤ c && c ≤ 'f' then some (c.toNat - 'a'.toNat + 10)
  else if 'A' ≤ c && c ≤ 'F' then some (c.toNat - 'A'.toNat + 10)
  else none

/-- The number that `count` more hexadecimal digits give behind those for `code`, and what follows. -/
def readDigits (switches : Switches) : Nat → Nat → List Char → Option (Nat × List Char)
  | 0, code, chars => some (code, chars)
  | count + 1, code, chars =>
    match switches.skip chars with
    | [] => none
    | c :: rest =>
      match hexDigit? c with
      | none => none
      | some digit => readDigits switches count (16 * code + digit) rest

theorem readDigits_suffix {switches : Switches} {count code value : Nat} {chars rest : List Char}
    (h : readDigits switches count code chars = some (value, rest)) : rest <:+ chars := by
  fun_induction readDigits switches count code chars with
  | case1 => cases h; exact List.suffix_rfl
  | case2 | case3 => cases h
  | case4 count code chars c behind hskip digit _ ih =>
    exact (ih h).trans ((List.suffix_cons c behind).trans (hskip ▸ switches.skip_suffix chars))

/-- The character with the number that `count` hexadecimal digits give, and what follows. -/
def readHex (switches : Switches) (count : Nat) (chars : List Char) : Option (Char × List Char) :=
  match readDigits switches count 0 chars with
  | none => none
  | some (code, rest) => if code.isValidChar then some (Char.ofNat code, rest) else none

theorem readHex_suffix {switches : Switches} {count : Nat} {c : Char} {chars rest : List Char}
    (h : readHex switches count chars = some (c, rest)) : rest <:+ chars := by
  unfold readHex at h
  split at h
  · cases h
  · rename_i hread
    split at h
    · cases h; exact readDigits_suffix hread
    · cases h

/-- What a backslash before `c` stands for if nothing further belongs to it. -/
def Escape.ofChar? (c : Char) : Option Escape :=
  match c with
  | 'd' | 's' | 'w' => some (.shorthand false)
  | 'D' | 'S' | 'W' => some (.shorthand true)
  | 'A' | 'z' => some .textEnd
  | 'b' | 'B' | '<' | '>' => some .boundary
  | 'a' => some (.literal '\x07')
  | 'f' => some (.literal '\x0c')
  | 't' => some (.literal '\t')
  | 'n' => some (.literal '\n')
  | 'r' => some (.literal '\x0d')
  | 'v' => some (.literal '\x0b')
  | _ => if c.isAlphanum || '\x80' ≤ c then none else some (.literal c)

/-- What a backslash before `c` stands for, and what follows. -/
def readEscape (switches : Switches) (c : Char) (rest : List Char) : Option (Escape × List Char) :=
  match c with
  | 'x' => (readHex switches 2 rest).map fun (c, rest) => (.byte c, rest)
  | 'u' => (readHex switches 4 rest).map fun (c, rest) => (.literal c, rest)
  | 'U' => (readHex switches 8 rest).map fun (c, rest) => (.literal c, rest)
  | _ => (Escape.ofChar? c).map fun escape => (escape, rest)

theorem readEscape_suffix {switches : Switches} {c : Char} {rest after : List Char}
    {escape : Escape} (h : readEscape switches c rest = some (escape, after)) : after <:+ rest := by
  have hhex {count : Nat} {f : Char → Escape}
      (h : (readHex switches count rest).map (fun (c, rest) => (f c, rest)) = some (escape, after)) :
      after <:+ rest := by
    obtain ⟨⟨d, behind⟩, hread, heq⟩ := Option.map_eq_some_iff.1 h
    cases heq
    exact readHex_suffix hread
  unfold readEscape at h
  split at h
  · exact hhex h
  · exact hhex h
  · exact hhex h
  · obtain ⟨_, _, heq⟩ := Option.map_eq_some_iff.1 h
    cases heq
    exact List.suffix_rfl

end LinePatch.Pattern
