import LinePatch.Log.Event

/-!
# The lines of events

An event has a line in the log: the name of its level in a column, and what it says. Numbers stand in the line
as they are, and of a path only what a terminal might obey is written out.

## Main results

* `Terminal.escaped_append`, `Terminal.escaped_toString`: texts in a row, and numbers
* `Event.line_started`, `Event.line_changed`, `Event.line_finished`: the lines of a patch
-/

namespace LinePatch

namespace Terminal

theorem escaped_append (head tail : String) : escaped (head ++ tail) = escaped head ++ escaped tail := by
  simp only [escaped, String.toList_append, List.map_append, String.join_append]

/-- A digit is no control character. -/
theorem spelling?_of_isDigit {c : Char} (h : c.isDigit) : spelling? c = none := by
  simp only [Char.isDigit, Bool.and_eq_true, decide_eq_true_iff] at h
  have hlt : c.toNat < 0x80 := Nat.lt_of_le_of_lt h.2 (by decide)
  unfold spelling?
  split
  case h_6 =>
    rw [if_neg]
    simp only [Bool.and_eq_true, decide_eq_true_iff]
    omega
  all_goals exact absurd h (by decide)

theorem escaped_toString (n : Nat) : escaped (toString n) = toString n := by
  refine escaped_eq_self ?_
  intro c hc
  have hdigit : c ∈ Nat.toDigits 10 n := Nat.toList_repr ▸ hc
  exact spelling?_of_isDigit (Nat.isDigit_of_mem_toDigits (by decide) (by decide) hdigit)

end Terminal

namespace Event

open Terminal

theorem line_started (route : Route) :
    (started route).line =
      "DEBUG Rewriting " ++ escaped route.input ++ " -> " ++ escaped route.output ++ "\n" := by
  have hline : (started route).line = padLeft 5 Level.debug.name ++ " " ++
      escaped ("Rewriting " ++ route.input ++ " -> " ++ route.output) ++ "\n" := rfl
  have hstart : padLeft 5 Level.debug.name ++ " " ++ escaped "Rewriting " = "DEBUG Rewriting " := by decide
  have harrow : escaped " -> " = " -> " := by decide
  rw [hline, escaped_append, escaped_append, escaped_append, harrow, ← hstart]
  simp only [String.append_assoc]

theorem line_changed (change : Change) :
    (changed change).line =
      "TRACE Line " ++ toString change.line ++ ": " ++ toString change.count ++ " replacement(s)\n" := by
  have hline : (changed change).line = padLeft 5 Level.trace.name ++ " " ++
      escaped ("Line " ++ toString change.line ++ ": " ++ toString change.count ++ " replacement(s)") ++
        "\n" := rfl
  have hstart : padLeft 5 Level.trace.name ++ " " ++ escaped "Line " = "TRACE Line " := by decide
  have hcolon : escaped ": " = ": " := by decide
  have hend : escaped " replacement(s)" ++ "\n" = " replacement(s)\n" := by decide
  rw [hline, escaped_append, escaped_append, escaped_append, escaped_append, escaped_toString,
    escaped_toString, hcolon, ← hstart, ← hend]
  simp only [String.append_assoc]

theorem line_finished (output : String) (summary : Summary) :
    (finished output summary).line =
      " INFO Rewrote " ++ escaped output ++ ": " ++ toString summary.lines ++ " lines, " ++
        toString summary.replacements ++ " replacements on " ++ toString summary.changedLines ++
        " lines\n" := by
  have hline : (finished output summary).line = padLeft 5 Level.info.name ++ " " ++
      escaped ("Rewrote " ++ output ++ ": " ++ toString summary.lines ++ " lines, " ++
        toString summary.replacements ++ " replacements on " ++ toString summary.changedLines ++ " lines") ++
          "\n" := rfl
  have hstart : padLeft 5 Level.info.name ++ " " ++ escaped "Rewrote " = " INFO Rewrote " := by decide
  have hcolon : escaped ": " = ": " := by decide
  have hlines : escaped " lines, " = " lines, " := by decide
  have hon : escaped " replacements on " = " replacements on " := by decide
  have hend : escaped " lines" ++ "\n" = " lines\n" := by decide
  rw [hline, escaped_append, escaped_append, escaped_append, escaped_append, escaped_append,
    escaped_append, escaped_append, escaped_append, escaped_toString, escaped_toString, escaped_toString,
    hcolon, hlines, hon, ← hstart, ← hend]
  simp only [String.append_assoc]

end Event

end LinePatch
