import LinePatch.Bytes
import LinePatch.Log.Event
import LinePatch.Log.Pattern

/-!
# Filter directives

A directive sets a limit for some events. It is written as

    target[span{field=value}]=limit

where every part may be missing: the beginning of the targets that are meant, the span in which an
event has to lie, a field that it has to carry, perhaps with a value, and the limit. A word alone is a
limit if it can be read as one, and else a target; without a limit, everything is logged.

Blanks around a directive are not part of it, but its parts are cut out where they would lie if no
blanks stood in front. So a target between blanks keeps them, and a limit behind it is missed. A part
may then begin or end in the middle of a character, as the target of ` é=info` does. A program that
cuts there comes to a sudden end, which is not modelled: here such a directive cannot be read.

## Main definitions

* `FieldTest`, `FieldTest.ofText?`: a field with or without a value
* `Directive`, `Directive.ofText?`: a directive and its reading
* `Directive.fits`: the events for which a directive speaks
* `Directive.weight`: which of two directives goes before

## Main results

* `Directive.fits_of_limit`: a limit alone speaks for all events
-/

namespace LinePatch

/-! ## Numbers as values -/

/-- The text is a number in digits, perhaps with a point and an exponent. -/
def isDecimal (chars : List Char) : Bool :=
  let whole := chars.takeWhile Char.isDigit
  let rest := chars.drop whole.length
  let fraction := if rest.head? = some '.' then rest.tail.takeWhile Char.isDigit else []
  let rest := if rest.head? = some '.' then rest.tail.drop fraction.length else rest
  !(whole ++ fraction).isEmpty &&
    match rest with
    | [] => true
    | e :: exponent =>
      let digits :=
        match exponent with
        | '+' :: digits | '-' :: digits => digits
        | digits => digits
      (e = 'e' || e = 'E') && !digits.isEmpty && digits.all Char.isDigit

/-- The text is a number behind a plus sign, which is no regular expression. -/
def isSignedNumber (text : String) : Bool :=
  match text.toList with
  | '+' :: rest =>
    (String.ofList rest).toLower ∈ ["inf", "infinity", "nan"] || isDecimal rest
  | _ => false

/-! ## Fields -/

/-- What a directive asks of a field. -/
structure FieldTest where
  name : String
  /-- Its value: a truth value, a number or a regular expression. -/
  value? : Option String
deriving DecidableEq, Repr

/-- The reading of a field with its value. What stands behind a second equals sign is passed over. -/
def FieldTest.ofText? (text : String) : Option FieldTest :=
  if text = "" then none
  else
    match pieces '=' text with
    | name :: value :: _ =>
      if isSignedNumber value || Pattern.isWellFormed value then some { name, value? := some value }
      else none
    | _ => some { name := text, value? := none }

/-! ## Directives -/

/-- How much is logged of some events. -/
structure Directive where
  /-- How the targets begin; all targets without it. -/
  target? : Option String := none
  /-- The span in which the events lie. -/
  span? : Option String := none
  /-- The field that the events carry. -/
  field? : Option FieldTest := none
  /-- How much is logged of them. -/
  limit : Limit
deriving DecidableEq, Repr

namespace Directive

/-- A target begins as the directive says. -/
def covers (directive : Directive) (target : String) : Bool :=
  match directive.target? with
  | none => true
  | some start => start.toList.isPrefixOf target.toList

/-- Events carry the field that a test asks for. Its value is not known when that is decided. -/
def fieldFits (directive : Directive) : Bool :=
  match directive.field? with
  | none => true
  | some field => field.name = Event.fieldName && field.value?.isNone

/-- The directive speaks for the events of a target. As no event lies in a span, a directive for a
span speaks for none. -/
def fits (directive : Directive) (target : String) : Bool :=
  directive.span?.isNone && directive.fieldFits && directive.covers target

/-- How much a directive says about the events it speaks for: first the length of its target, and then
whether it asks for a field. -/
def weight (directive : Directive) : Nat :=
  let target :=
    match directive.target? with
    | none => 0
    | some start => start.utf8ByteSize + 1
  2 * target + if directive.field?.isSome then 1 else 0

theorem fits_of_limit (limit : Limit) (target : String) : fits { limit } target := by
  simp [fits, fieldFits, covers]

end Directive

/-! ## Reading a directive -/

/-- A directive that is being read. -/
structure Cursor where
  /-- The characters to come, without the blanks at the end. -/
  ahead : List Char
  /-- The bytes from which parts are cut. -/
  text : Bytes
deriving DecidableEq, Repr

namespace Cursor

/-- Passes some characters; the bytes in their place are cut out. -/
def pass (cursor : Cursor) (chars : List Char) : Bytes × Cursor :=
  let size := (utf8 (String.ofList chars)).length
  (cursor.text.take size,
    { ahead := cursor.ahead.drop chars.length, text := cursor.text.drop size })

/-- Goes on to the next character of a kind, and cuts out what stands before it. -/
def upTo (cursor : Cursor) (stop : Char → Bool) : Bytes × Cursor :=
  cursor.pass (cursor.ahead.takeWhile fun c => !stop c)

/-- Passes a character. -/
def skip (cursor : Cursor) : Cursor :=
  (cursor.pass (cursor.ahead.take 1)).2

end Cursor

namespace Directive

/-- The limit behind an equals sign. Without one, everything is logged. -/
def limitOfText? (text : String) : Option Limit :=
  if text = "" then some (some .trace) else Limit.ofText? text

/-- Reads the limit at the end of a directive. -/
def readLimit? (cursor : Cursor) : Option Limit :=
  match cursor.ahead with
  | [] => some (some .trace)
  | '=' :: _ => cursor.skip.text.toText?.bind limitOfText?
  | _ => none

/-- Reads a directive behind its target and an opening bracket. -/
def readBrackets? (target? : Option String) (cursor : Cursor) : Option Directive := do
  let (span, cursor) := cursor.upTo (· ∈ [']', '\x7b'])
  let span ← span.toText?
  if cursor.ahead.head? = some ']' then
    return { target?, span? := some span, limit := ← readLimit? cursor.skip }
  else
    let (field, cursor) := cursor.skip.upTo (· = '\x7d')
    let field ← field.toText?.bind FieldTest.ofText?
    if cursor.ahead.take 2 = ['\x7d', ']'] then
      return {
        target?
        -- A span without a name is none if a field is asked for.
        span? := if span = "" then none else some span
        field? := some field
        limit := ← readLimit? cursor.skip.skip }
    else none

/-- A target begins with a letter, a digit or one of three signs. -/
def beginsTarget (c : Char) : Bool :=
  isAlphanumeric c || c ∈ ['-', ':', '_']

/-- The reading of a directive. There is none either if a part would be cut out in the middle of a
character. -/
def ofText? (text : String) : Option Directive :=
  let cursor : Cursor := { ahead := trimBlanks text.toList, text := utf8 text }
  match cursor.ahead with
  | [] => none
  | '[' :: _ => readBrackets? none cursor.skip
  | first :: _ =>
    if !beginsTarget first then none
    else
      let (target, cursor) := cursor.upTo (· ∈ ['=', '['])
      match cursor.ahead with
      | [] =>
        match Limit.ofText? text with
        | some limit => some { limit }
        | none => some { target? := some text, limit := some .trace }
      | '[' :: _ => do readBrackets? (some (← target.toText?)) cursor.skip
      | _ => do return { target? := some (← target.toText?), limit := ← readLimit? cursor }

end Directive

end LinePatch
