import LinePatch.Proofs.LineStructure
import LinePatch.Proofs.Stream.Undisturbed

/-!
# The lines of the output

If a rule has a line break neither in its pattern nor in its replacement, the lines of the output are
those of the input, each after the rule has been applied to it, and they end as they did before. There
is one exception: a last line without a line break of which nothing is left is no line of the output.

## Main definitions

* `carriageReturn`: the byte in front of the line breaks of some texts

## Main results

* `lines_taken_eq_map`: the lines of the output, one by one
-/

namespace LinePatch

/-- The byte that some texts put in front of each line break. -/
def carriageReturn : UInt8 := 13

/-- **The structure of lines is kept.** After a pass that succeeds, the lines of the output are those of
the input with the rule applied to each, as many as were counted, and each ends with a line break if it
did before. Only a last line without a line break that the rule erases is missing. A carriage return in
front of a line break stays if the pattern has none. -/
theorem lines_taken_eq_map (rule : Rule) (fills : List Fill) (answers : List WriteAnswer)
    (flushFailure? : Option IoError) (summary : Summary) (hpattern : newline ∉ utf8 rule.pattern)
    (hreplacement : newline ∉ utf8 rule.replacement) (hchunks : .chunk [] ∉ fills)
    (hok : (patchStream rule (.ofFills fills)
      ({ answers, flushFailure? } : ScriptedSink)).result = .ok summary) :
    let input := Bytes.lines (Source.delivered fills)
    let output := Bytes.lines (patchStream rule (.ofFills fills)
      ({ answers, flushFailure? } : ScriptedSink)).progress.sink.taken
    let patch (line : Bytes) := (rule.apply line).output
    let lost := ∃ last, input.getLast? = some last ∧ newline ∉ last ∧ rule.Erases last
    (¬ lost → output = input.map patch ∧ output.length = summary.lines) ∧
      (lost → output = input.dropLast.map patch ∧ output.length + 1 = summary.lines) ∧
      (∀ line ∈ input, [newline] <:+ patch line ↔ [newline] <:+ line) ∧
      (carriageReturn ∉ utf8 rule.pattern → ∀ line ∈ input,
        [carriageReturn, newline] <:+ line → [carriageReturn, newline] <:+ patch line) := by
  intro input output patch lost
  obtain ⟨hsummary, htaken, -, -⟩ := patched_of_result_eq_ok hchunks hok
  rw [Source.bytes_ofFills] at hsummary htaken
  have houtput : output = Bytes.lines (rule.patched input) := congrArg Bytes.lines htaken
  have hcount : summary.lines = input.length := by
    rw [hsummary]
    rfl
  refine ⟨?_, ?_, ?_, ?_⟩
  · intro hlost
    have hkept : ∀ line ∈ input, ¬ rule.Erases line := by
      intro line hline herases
      have hend := Rule.newline_notMem_of_erases hpattern herases
      exact hlost ⟨line, Bytes.getLast?_lines_of_newline_notMem hline hend, hend, herases⟩
    rw [houtput, Rule.lines_patched_eq_map hpattern hreplacement hkept, hcount]
    exact ⟨rfl, List.length_map _⟩
  · rintro ⟨last, hlast, -, herases⟩
    have hpos : 0 < input.length := List.length_pos_of_mem (List.mem_of_getLast? hlast)
    rw [houtput, Rule.lines_patched_of_erases hpattern hreplacement hlast herases, hcount]
    refine ⟨rfl, ?_⟩
    rw [List.length_map, List.length_dropLast]
    exact Nat.sub_add_cancel hpos
  · intro line hline
    exact Rule.newline_suffix_output_iff hpattern hreplacement hline
  · intro hcr line _ hsuffix
    exact Rule.pair_suffix_output hpattern hcr hsuffix

/-- A rule without a replacement: an occurrence in front of a carriage return, and a last line that is the
pattern twice. -/
theorem lines_taken_last_line_lost :
    let rule : Rule := ⟨"ab", "", by decide⟩
    let fills := [.chunk (utf8 "xab\r\na"), .chunk (utf8 "bab")]
    let outcome := patchStream rule (.ofFills fills) ({ answers := [.upTo 2] } : ScriptedSink)
    let input := Bytes.lines (Source.delivered fills)
    (newline ∉ utf8 rule.pattern ∧ newline ∉ utf8 rule.replacement ∧ .chunk [] ∉ fills) ∧
      outcome.result = .ok { lines := 2, changedLines := 2, replacements := 3 } ∧
      input = [utf8 "xab\r\n", utf8 "abab"] ∧
      Bytes.lines outcome.progress.sink.taken = [utf8 "x\r\n"] := by
  intro rule fills outcome input
  have hpattern : newline ∉ utf8 rule.pattern := by decide
  have hreplacement : newline ∉ utf8 rule.replacement := by decide
  have hchunks : .chunk [] ∉ fills := by decide
  obtain ⟨summary, hok⟩ :=
    exists_result_eq_ok rule (.ofFills fills) { answers := [.upTo 2] } (by decide) (by decide) rfl
  obtain ⟨hsummary, -, -, -⟩ := patched_of_result_eq_ok hchunks hok
  have hcounts : summary = { lines := 2, changedLines := 2, replacements := 3 } :=
    hsummary.trans (by decide +kernel)
  obtain ⟨-, hlost, -, -⟩ :=
    lines_taken_eq_map rule fills [.upTo 2] none summary hpattern hreplacement hchunks hok
  have hinput : input = [utf8 "xab\r\n", utf8 "abab"] := by decide +kernel
  obtain ⟨houtput, -⟩ :=
    hlost ⟨utf8 "abab", by decide +kernel, by decide, rfl, 1, by decide⟩
  refine ⟨⟨hpattern, hreplacement, hchunks⟩, hok.trans (congrArg _ hcounts), hinput, ?_⟩
  refine houtput.trans ?_
  decide +kernel

end LinePatch
