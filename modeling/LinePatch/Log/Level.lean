/-!
# Log levels

Levels are ordered by how much they say. A limit is the wordiest level that is still logged; there
may be none, and then nothing is.

## Main definitions

* `Level`, `Level.rank`: the levels and their order
* `Limit`, `Limit.admits`: how much is logged
* `Limit.ofText?`: the reading of a limit
-/

namespace LinePatch

/-- How important an event is. -/
inductive Level where
  | error
  | warn
  | info
  | debug
  | trace
deriving DecidableEq, Repr

/-- The place of a level, from the tersest to the wordiest. -/
def Level.rank : Level → Nat
  | .error => 1
  | .warn => 2
  | .info => 3
  | .debug => 4
  | .trace => 5

/-- The name of a level. -/
def Level.name : Level → String
  | .error => "ERROR"
  | .warn => "WARN"
  | .info => "INFO"
  | .debug => "DEBUG"
  | .trace => "TRACE"

/-- The wordiest level that is logged, if anything is. -/
abbrev Limit := Option Level

namespace Limit

/-- The rank of the wordiest level that is logged. -/
def rank : Limit → Nat
  | none => 0
  | some level => level.rank

/-- An event of this level is logged. -/
def admits (limit : Limit) (level : Level) : Bool :=
  level.rank ≤ limit.rank

/-- The limit of a rank written in digits, perhaps with a plus sign and zeros in front. -/
def ofNumeral? (text : String) : Option Limit :=
  let digits :=
    match text.toList with
    | '+' :: digits => digits
    | digits => digits
  if digits.isEmpty || !digits.all Char.isDigit then none
  else
    match digits.dropWhile (· = '0') with
    | [] => some none
    | ['1'] => some (some .error)
    | ['2'] => some (some .warn)
    | ['3'] => some (some .info)
    | ['4'] => some (some .debug)
    | ['5'] => some (some .trace)
    | _ => none

/-- The limit of a name, in small or capital letters. -/
def ofName? (text : String) : Option Limit :=
  match text.toLower with
  | "off" => some none
  | "error" => some (some .error)
  | "warn" => some (some .warn)
  | "info" => some (some .info)
  | "debug" => some (some .debug)
  | "trace" => some (some .trace)
  | _ => none

/-- The limit that a text names or numbers. -/
def ofText? (text : String) : Option Limit :=
  (ofNumeral? text).or (ofName? text)

end Limit

end LinePatch
