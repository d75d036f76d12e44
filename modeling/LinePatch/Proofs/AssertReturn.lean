import LinePatch.Proofs.Stream.Undisturbed
import LinePatch.Proofs.Substitution.Occurrence

/-!
# The rule of the build

The rule of the build puts `return "";` behind every failed assertion. Its pattern has no line break and
does not overlap itself, and no occurrence of it begins in the replacement behind the first byte, so
neither the inserted text nor what stands around it makes another failed assertion.

## Main results

* `assertReturn_occurrences`: after a pass every failed assertion is followed by a return, and there are
  as many as before
-/

namespace LinePatch

namespace Rule

theorem newline_notMem_pattern_assertReturn : newline ∉ assertReturn.onBytes.pattern := by
  decide

theorem newline_notMem_replacement_assertReturn : newline ∉ assertReturn.onBytes.replacement := by
  decide

/-- The pattern does not overlap itself. -/
theorem barren_tail_pattern_assertReturn :
    Barren assertReturn.onBytes.pattern assertReturn.onBytes.pattern.tail := by
  decide

theorem replacement_assertReturn :
    assertReturn.onBytes.replacement = assertReturn.onBytes.pattern ++ utf8 "return \"\";" := by
  decide

/-- No occurrence of the pattern begins in the replacement behind the first byte. -/
theorem barren_tail_replacement_assertReturn :
    Barren assertReturn.onBytes.pattern assertReturn.onBytes.replacement.tail := by
  decide

theorem pattern_prefix_replacement_assertReturn :
    assertReturn.onBytes.pattern <+: assertReturn.onBytes.replacement :=
  ⟨_, replacement_assertReturn.symm⟩

end Rule

/-- **The purpose of the build step.** After a pass that succeeds, every failed assertion in the output,
wherever it stands, is followed by a return; there are as many of them as in the input, and as many as
were replaced. -/
theorem assertReturn_occurrences (fills : List Fill) (answers : List WriteAnswer)
    (flushFailure? : Option IoError) (summary : Summary) (hchunks : .chunk [] ∉ fills)
    (hok : (patchStream .assertReturn (.ofFills fills)
      ({ answers, flushFailure? } : ScriptedSink)).result = .ok summary) :
    let input := Source.delivered fills
    let output := (patchStream .assertReturn (.ofFills fills)
      ({ answers, flushFailure? } : ScriptedSink)).progress.sink.taken
    (∀ before after, output = before ++ utf8 "assert(false);" ++ after →
        utf8 "return \"\";" <+: after) ∧
      occurrences (utf8 "assert(false);") output = occurrences (utf8 "assert(false);") input ∧
      occurrences (utf8 "assert(false);") input = summary.replacements := by
  intro input output
  obtain ⟨hsummary, htaken, -, -⟩ := patched_of_result_eq_ok hchunks hok
  rw [Source.bytes_ofFills] at hsummary htaken
  have hpattern : newline ∉ Rule.assertReturn.onBytes.pattern.dropLast :=
    mt List.mem_of_mem_dropLast Rule.newline_notMem_pattern_assertReturn
  have hwhole := Rule.apply_eq_of_newline_notMem hpattern input
  have houtput : output = (Rule.assertReturn.apply input).output := by
    rw [hwhole]
    exact htaken
  have hcount : summary.replacements = (Rule.assertReturn.apply input).count := by
    rw [hwhole, hsummary]
  have hinput : (Rule.assertReturn.apply input).count = occurrences (utf8 "assert(false);") input :=
    Substitution.count_eq_occurrences Rule.barren_tail_pattern_assertReturn input
  refine ⟨?_, ?_, ?_⟩
  · intro before after hbetween
    have hsuffix : utf8 "assert(false);" ++ after <:+ (Rule.assertReturn.apply input).output := by
      rw [← houtput, hbetween, List.append_assoc]
      exact List.suffix_append before _
    have hreplacement := Substitution.replacement_prefix_of_suffix_output
      Rule.pattern_prefix_replacement_assertReturn Rule.barren_tail_replacement_assertReturn
      hsuffix (List.prefix_append _ after)
    rw [Rule.replacement_assertReturn] at hreplacement
    exact (List.prefix_append_right_inj _).mp hreplacement
  · rw [houtput, ← hinput]
    exact Substitution.occurrences_output Rule.pattern_prefix_replacement_assertReturn
      Rule.barren_tail_replacement_assertReturn input
  · rw [hcount, hinput]

/-- A line that was patched before and one with two failed assertions. -/
theorem assertReturn_occurrences_patched_twice :
    let fills := [.chunk (utf8 "assert(false);return \"\";\nassert(fal"),
      .chunk (utf8 "se);assert(false);")]
    let outcome := patchStream .assertReturn (.ofFills fills) ({} : ScriptedSink)
    .chunk [] ∉ fills ∧ outcome.result = .ok { lines := 2, changedLines := 2, replacements := 3 } ∧
      (∀ before after, outcome.progress.sink.taken = before ++ utf8 "assert(false);" ++ after →
        utf8 "return \"\";" <+: after) ∧
      occurrences (utf8 "assert(false);") outcome.progress.sink.taken = 3 := by
  intro fills outcome
  have hchunks : .chunk [] ∉ fills := by decide
  obtain ⟨summary, hok⟩ :=
    exists_result_eq_ok .assertReturn (.ofFills fills) {} (by decide) (by decide) rfl
  obtain ⟨hsummary, -, -, -⟩ := patched_of_result_eq_ok hchunks hok
  have hthree : summary = { lines := 2, changedLines := 2, replacements := 3 } :=
    hsummary.trans (by decide +kernel)
  obtain ⟨hfollowed, hequal, hcount⟩ :=
    assertReturn_occurrences fills [] none summary hchunks hok
  refine ⟨hchunks, hok.trans (congrArg _ hthree), hfollowed, ?_⟩
  rw [hequal, hcount, hthree]

end LinePatch
