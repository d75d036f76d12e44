import LinePatch.Log.Level
import LinePatch.Pass
import LinePatch.Terminal
import LinePatch.Text

/-!
# Log events

A run tells when its log has been set up, when a patch begins, in which lines something was replaced, and
when the patch has come to its end. Each event has a level and a target, by which a filter decides whether
it is logged.

## Main definitions

* `Program.name`, `Program.version`: what the program calls itself
* `Event`: what is worth telling about a run
* `Event.level`, `Event.target`, `Event.message`, `Event.fieldName`: what an event says
* `Event.line`: its line in the log
-/

namespace LinePatch

/-- The name of the program. -/
def Program.name : String := "vhdl-adj"

/-- The version of the program. -/
def Program.version : String := "0.1.0"

/-- What is worth telling about a run. -/
inductive Event where
  /-- The log has been set up. -/
  | logReady
  /-- A patch begins. -/
  | started (route : Route)
  /-- Something was replaced in a line. -/
  | changed (change : Change)
  /-- A patch has come to its end. -/
  | finished (output : String) (summary : Summary)
deriving DecidableEq, Repr

namespace Event

/-- How important an event is. -/
def level : Event → Level
  | logReady => .debug
  | started _ => .debug
  | changed _ => .trace
  | finished _ _ => .info

/-- The target of events of the program itself. -/
def programTarget : String := "vhdl_adj"

/-- The target of events of a patch. -/
def patchTarget : String := "vhdl_adj::rewrite"

/-- The part of the program that an event comes from. -/
def target : Event → String
  | logReady => programTarget
  | started _ | changed _ | finished _ _ => patchTarget

/-- What an event says; paths stand in it as they are. -/
def message : Event → String
  | logReady => s!"{Program.name} v{Program.version} logging initialized"
  | started route => s!"Rewriting {route.input} -> {route.output}"
  | changed change => s!"Line {change.line}: {change.count} replacement(s)"
  | finished output summary =>
    s!"Rewrote {output}: {summary.lines} lines, {summary.replacements} replacements on {summary.changedLines} lines"

/-- The only field of an event, which holds what it says. -/
def fieldName : String := "message"

/-- The line of an event in the log. What a terminal might obey in it is written out. -/
def line (event : Event) : String :=
  padLeft 5 event.level.name ++ " " ++ Terminal.escaped event.message ++ "\n"

end Event

end LinePatch
