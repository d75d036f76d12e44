import LinePatch.Proofs.AssertReturn
import LinePatch.Proofs.LineStructure
import LinePatch.Proofs.Stream.Repeated
import LinePatch.Proofs.Substitution.Insertion

/-!
# Applying the rule of the build again

The rule of the build finds the failed assertions that were patched before as it finds the others, and
nothing else. Each further pass therefore puts one more return behind every failed assertion, and counts
the same.

## Main results

* `assertReturn_repeated`: the output of any number of passes, and their counts
-/

namespace LinePatch

open Substitution

namespace Rule

/-- No failed assertion begins in the text that is inserted. -/
theorem barren_return_assertReturn : Barren assertReturn.onBytes.pattern (utf8 "return \"\";") := by
  decide

/-- The rule puts a return behind failed assertions. -/
theorem onBytes_assertReturn :
    assertReturn.onBytes = inserting assertReturn.onBytes.pattern (utf8 "return \"\";")
      assertReturn.onBytes.pattern_ne_nil := by
  unfold inserting
  rw [← replacement_assertReturn]

/-- The rule replaces as many occurrences in its own output as before. -/
theorem count_apply_output_assertReturn (line : Bytes) :
    (assertReturn.apply (assertReturn.apply line).output).count = (assertReturn.apply line).count := by
  calc (assertReturn.apply (assertReturn.apply line).output).count
    _ = occurrences assertReturn.onBytes.pattern (assertReturn.apply line).output :=
      count_eq_occurrences barren_tail_pattern_assertReturn _
    _ = (assertReturn.apply line).count :=
      occurrences_output pattern_prefix_replacement_assertReturn barren_tail_replacement_assertReturn
        line

/-- Patching keeps the counts. -/
theorem tally_patched_assertReturn (bytes : Bytes) :
    assertReturn.tally (Bytes.lines (assertReturn.patched (Bytes.lines bytes))) =
      assertReturn.tally (Bytes.lines bytes) := by
  rw [lines_patched_of_begins pattern_prefix_replacement_assertReturn
    newline_notMem_replacement_assertReturn]
  refine tally_map ?_
  intro line _
  exact count_apply_output_assertReturn line

/-- Patching the lines puts a return behind each failed assertion of the whole. -/
theorem patched_lines_assertReturn (bytes : Bytes) :
    assertReturn.patched (Bytes.lines bytes) =
      ((inserting assertReturn.onBytes.pattern (utf8 "return \"\";")
        assertReturn.onBytes.pattern_ne_nil).apply bytes).output := by
  have hpattern : newline ∉ assertReturn.onBytes.pattern.dropLast :=
    mt List.mem_of_mem_dropLast newline_notMem_pattern_assertReturn
  rw [← onBytes_assertReturn]
  exact (congrArg Patched.output (apply_eq_of_newline_notMem hpattern bytes)).symm

/-- Patching the lines over and over inserts as many returns. -/
theorem iterate_patched_assertReturn (n : Nat) (bytes : Bytes) :
    (fun bytes => assertReturn.patched (Bytes.lines bytes))^[n] bytes =
      ((inserting assertReturn.onBytes.pattern (List.replicate n (utf8 "return \"\";")).flatten
        assertReturn.onBytes.pattern_ne_nil).apply bytes).output := by
  induction n with
  | zero =>
    refine (output_eq_self _ ?_ bytes).symm
    exact List.append_nil _
  | succ n ih =>
    rw [Function.iterate_succ_apply', ih, patched_lines_assertReturn,
      apply_inserting_twice _ (barren_return_assertReturn.flatten_replicate n),
      List.replicate_succ, List.flatten_cons]

end Rule

/-- **Applying the rule again.** Passes in a row, as many as `results`, put that many returns behind each
failed assertion of the input, wherever it stands, and change nothing else: the parts of the input around
all its failed assertions are the parts of the output around the assertions with their returns. All passes
succeed, and count the same. -/
theorem assertReturn_repeated {input output : Bytes} {results : List (Except PatchError Summary)}
    (passes : Passes .assertReturn input results output) :
    (∃ gaps : List Bytes, input = (utf8 "assert(false);").intercalate gaps ∧
        gaps.length = occurrences (utf8 "assert(false);") input + 1 ∧
        output = (utf8 "assert(false);" ++
          (List.replicate results.length (utf8 "return \"\";")).flatten).intercalate gaps) ∧
      ∃ summary, ∀ result ∈ results, result = .ok summary := by
  refine ⟨?_, Rule.assertReturn.tally (Bytes.lines input), ?_⟩
  · let sub := inserting Rule.assertReturn.onBytes.pattern
      (List.replicate results.length (utf8 "return \"\";")).flatten
      Rule.assertReturn.onBytes.pattern_ne_nil
    have houtput : output = (sub.apply input).output :=
      passes.output_eq_iterate.trans (Rule.iterate_patched_assertReturn results.length input)
    have hbarren : Barren sub.pattern sub.pattern.tail := Rule.barren_tail_pattern_assertReturn
    have hcount : (sub.apply input).count = occurrences (utf8 "assert(false);") input :=
      count_eq_occurrences hbarren input
    refine ⟨sub.gaps input, (sub.intercalate_gaps input).symm, ?_, ?_⟩
    · rw [sub.length_gaps, hcount]
    · rw [houtput, sub.apply_eq_intercalate]
      rfl
  · intro result hresult
    exact passes.result_eq Rule.tally_patched_assertReturn hresult

/-- Two passes over two lines; the second reads the output of the first in two chunks, of which the first
ends inside the inserted text. -/
theorem assertReturn_repeated_twice :
    let input := utf8 "x\nassert(false);assert(fal"
    ∃ results output, Passes .assertReturn input results output ∧ results.length = 2 ∧
      output = utf8 "x\nassert(false);return \"\";return \"\";assert(fal" ∧
      ∃ summary, ∀ result ∈ results, result = .ok summary := by
  intro input
  let fills : List Fill := [.chunk (utf8 "x\nassert"), .chunk (utf8 "(false);assert(fal")]
  let more : List Fill := [.chunk (utf8 "x\nassert(false);return"), .chunk (utf8 " \"\";assert(fal")]
  have first : Undisturbed input fills [.upTo 3] := ⟨by decide, by decide, by decide, by decide⟩
  have hfirst := (first.outcome_eq .assertReturn).2
  have second : Undisturbed (patchStream .assertReturn (.ofFills fills)
      ({ answers := [.upTo 3] } : ScriptedSink)).progress.sink.taken more [] := by
    rw [hfirst]
    exact ⟨by decide +kernel, by decide, by decide, by decide⟩
  have passes := (Passes.nil.snoc first).snoc second
  obtain ⟨-, summary, hresults⟩ := assertReturn_repeated passes
  refine ⟨_, _, passes, rfl, ?_, summary, hresults⟩
  rw [(second.outcome_eq .assertReturn).2, hfirst]
  decide +kernel

end LinePatch
