import LinePatch.Text

/-!
# Switches of regular expressions

Switches say how an expression is meant: for characters or for bytes, with or without regard to the
case of letters, and with blanks that count or do not count. Letters set them, and those behind a minus
sign clear them.

Blanks that do not count may stand between the elements of an expression, and also within some of them.
So may comments, from a hash sign to the end of the line.

## Main definitions

* `Pattern.Switches`, `Pattern.Switches.change`: the switches and the letters for them
* `Pattern.Switches.skip`: what follows blanks that do not count
* `Pattern.Switches.allows`, `Pattern.Switches.allowsInSet`: the characters that can be meant

## Main results

* `Pattern.Switches.skip_suffix`: what follows the blanks is an end of the text
-/

namespace LinePatch.Pattern

/-- How an expression is meant. -/
structure Switches where
  /-- Characters of all scripts are meant, not bytes. -/
  unicode : Bool := true
  /-- Letters are compared without their case. -/
  ignoreCase : Bool := false
  /-- Blanks and comments are passed over. -/
  spaced : Bool := false
deriving DecidableEq, Repr

/-- Passes over blanks and over comments. -/
def skipComments : List Char → List Char
  | [] => []
  | c :: rest =>
    if isBlank c then skipComments rest
    else if c = '#' then skipComments (rest.dropWhile (· ≠ '\n'))
    else c :: rest
termination_by chars => chars.length
decreasing_by
  · exact Nat.lt_succ_self _
  · exact Nat.lt_succ_of_le (List.dropWhile_suffix _).length_le

theorem skipComments_suffix (chars : List Char) : skipComments chars <:+ chars := by
  fun_induction skipComments chars with
  | case1 => exact List.suffix_rfl
  | case2 c rest _ ih => exact ih.trans (List.suffix_cons c rest)
  | case3 rest _ ih =>
    exact (ih.trans (List.dropWhile_suffix _)).trans (List.suffix_cons '#' rest)
  | case4 => exact List.suffix_rfl

namespace Switches

/-- Changes switches as the letters between a question mark and a colon or a closing bracket say. A
minus sign turns the switches behind it off; none may be named twice. -/
def change (switches : Switches) (on : Bool) (named : List Char) : List Char → Option Switches
  | [] => some switches
  | c :: rest =>
    if c = '-' then
      if on && !rest.isEmpty then switches.change false named rest else none
    else if c ∈ named then none
    else
      match c with
      | 'u' => { switches with unicode := on }.change on (c :: named) rest
      | 'i' => { switches with ignoreCase := on }.change on (c :: named) rest
      | 'x' => { switches with spaced := on }.change on (c :: named) rest
      | 'm' | 's' | 'U' | 'R' => switches.change on (c :: named) rest
      | _ => none

/-- A character can be meant. The case of letters is known for ASCII only. -/
def allows (switches : Switches) : Bool :=
  !(switches.unicode && switches.ignoreCase)

/-- A character can be meant as a member of a set, or by the number of a byte. Where bytes are meant,
only those that are ASCII characters can be. -/
def allowsInSet (switches : Switches) (c : Char) : Bool :=
  if switches.unicode then !switches.ignoreCase else c < '\x80'

/-- Passes over what does not count. -/
def skip (switches : Switches) (chars : List Char) : List Char :=
  if switches.spaced then skipComments chars else chars

theorem skip_suffix (switches : Switches) (chars : List Char) : switches.skip chars <:+ chars := by
  unfold skip
  split
  · exact skipComments_suffix chars
  · exact List.suffix_rfl

/-- A minus sign behind a member of a set is a sign of its own, and no range begins, if the set ends
behind it or another minus sign follows. Where blanks do not count, that is looked for behind them and
behind one hash sign, even though the sign begins a comment. -/
def endsMember (switches : Switches) (chars : List Char) : Bool :=
  let behind :=
    if switches.spaced then
      match chars.dropWhile isBlank with
      | '#' :: comment => comment.dropWhile isBlank
      | behind => behind
    else chars
  behind.head? = some ']' || behind.head? = some '-'

end Switches

end LinePatch.Pattern
