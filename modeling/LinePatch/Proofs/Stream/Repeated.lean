import LinePatch.Proofs.Stream.Undisturbed
import Mathlib.Logic.Function.Iterate

/-!
# Passes in a row

The output of a pass can be the input of the next. `Passes` is made of undisturbed passes with one rule,
of which each reads the whole output of the one before, however it arrives. The last output is that of
patching the lines over and over, and if patching keeps the counts of a rule, all passes count the same.

## Main definitions

* `Passes`: the results of passes in a row, and the last output

## Main results

* `Passes.output_eq_iterate`: the last output
* `Passes.result_eq`: the results, if patching keeps the counts
-/

namespace LinePatch

/-- Passes in a row over `input`, each undisturbed and over the whole output of the one before: their
results in order, and the output of the last. -/
inductive Passes (rule : Rule) (input : Bytes) : List (Except PatchError Summary) → Bytes → Prop
  | nil : Passes rule input [] input
  | snoc {results middle fills answers} (passes : Passes rule input results middle)
      (stream : Undisturbed middle fills answers) :
      Passes rule input
        (results ++ [(patchStream rule (.ofFills fills) ({ answers } : ScriptedSink)).result])
        (patchStream rule (.ofFills fills) ({ answers } : ScriptedSink)).progress.sink.taken

namespace Passes

variable {rule : Rule} {input output : Bytes} {results : List (Except PatchError Summary)}

/-- The last output is the input with its lines patched once for each pass. -/
theorem output_eq_iterate (passes : Passes rule input results output) :
    output = (fun bytes => rule.patched (Bytes.lines bytes))^[results.length] input := by
  induction passes with
  | nil => rfl
  | snoc _ stream ih =>
    rw [List.length_append, List.length_singleton, Function.iterate_succ_apply', ← ih]
    exact (stream.outcome_eq rule).2

section

variable (hkeeps : ∀ bytes, rule.tally (Bytes.lines (rule.patched (Bytes.lines bytes))) =
  rule.tally (Bytes.lines bytes))

include hkeeps

theorem tally_output (passes : Passes rule input results output) :
    rule.tally (Bytes.lines output) = rule.tally (Bytes.lines input) := by
  induction passes with
  | nil => rfl
  | snoc _ stream ih => rw [(stream.outcome_eq rule).2, hkeeps, ih]

/-- If patching keeps the counts of a rule, all passes succeed with the counts of the first. -/
theorem result_eq (passes : Passes rule input results output) {result : Except PatchError Summary}
    (hresult : result ∈ results) : result = .ok (rule.tally (Bytes.lines input)) := by
  induction passes with
  | nil => simp at hresult
  | snoc passes stream ih =>
    rcases List.mem_append.mp hresult with hbefore | hlast
    · exact ih hbefore
    · rw [List.mem_singleton.mp hlast, (stream.outcome_eq rule).1, tally_output hkeeps passes]

end

end Passes

end LinePatch
