import LinePatch.Proofs.LineStructure
import LinePatch.Proofs.Substitution.Insertion

/-!
# Taking a rule back

The reverse of a rule puts the pattern in the place of the replacement. If a rule inserts, that is, if its
replacement begins with the pattern, its reverse takes out of each line what the rule put there. Without
line breaks in the two texts the lines stay apart, so the reverse takes back the patch of a whole input,
and counts the same.

## Main definitions

* `Rule.reverse`: the rule that goes back from the replacement to the pattern

## Main results

* `Rule.patched_reverse`, `Rule.tally_reverse`: the reverse gives back the input, and counts the same
* `Rule.patched_injective`: different inputs are patched differently
-/

namespace LinePatch

namespace Rule

variable {rule : Rule}

/-- The rule that puts the pattern in the place of the replacement. -/
def reverse (rule : Rule) (h : rule.replacement ≠ "") : Rule where
  pattern := rule.replacement
  replacement := rule.pattern
  pattern_ne_empty := h

variable (hbegins : rule.onBytes.pattern <+: rule.onBytes.replacement) (h : rule.replacement ≠ "")

include hbegins

/-- What a rule inserted in a line, its reverse takes out. -/
theorem apply_reverse (line : Bytes) :
    (rule.reverse h).apply (rule.apply line).output =
      { output := line, count := (rule.apply line).count } :=
  Substitution.apply_reverse hbegins (fun hnil => h (utf8_eq_nil_iff.mp hnil)) line

variable (hreplacement : newline ∉ rule.onBytes.replacement)

include hreplacement

/-- The reverse of a rule gives back the input. -/
theorem patched_reverse (bytes : Bytes) :
    (rule.reverse h).patched (Bytes.lines (rule.patched (Bytes.lines bytes))) = bytes := by
  have hback : (fun line => ((rule.reverse h).apply (rule.apply line).output).output) = id := by
    funext line
    rw [apply_reverse hbegins h, id]
  rw [lines_patched_of_begins hbegins hreplacement, patched, List.flatMap_map, hback,
    List.flatMap_id, Bytes.flatten_lines]

/-- The reverse of a rule counts what the rule counted. -/
theorem tally_reverse (bytes : Bytes) :
    (rule.reverse h).tally (Bytes.lines (rule.patched (Bytes.lines bytes))) =
      rule.tally (Bytes.lines bytes) := by
  rw [lines_patched_of_begins hbegins hreplacement]
  refine tally_map ?_
  intro line _
  rw [apply_reverse hbegins h]

/-- Different inputs are patched differently. -/
theorem patched_injective : Function.Injective fun bytes => rule.patched (Bytes.lines bytes) := by
  have h := replacement_ne_empty_of_begins hbegins
  have hback : Function.LeftInverse
      (fun bytes => (rule.reverse h).patched (Bytes.lines bytes))
      (fun bytes => rule.patched (Bytes.lines bytes)) :=
    patched_reverse hbegins h hreplacement
  exact hback.injective

end Rule

end LinePatch
