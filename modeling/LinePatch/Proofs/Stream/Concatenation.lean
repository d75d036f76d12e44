import LinePatch.Proofs.Lengths
import LinePatch.Proofs.Stream.Undisturbed
import LinePatch.Proofs.Substitution.Border

/-!
# Inputs in a row

If an input ends with a line break, another behind it is patched as it would be alone. If it does not, its last
line and the first line of the other are one line of the whole. All other lines are patched as before, and in
the one line as many occurrences are replaced as in its two parts, or one more that crosses the border.

## Main results

* `Rule.tally_lines_append`: the counts of an input whose first part leaves a line open
* `patchStream_append`: passes over two inputs, and over one behind the other
-/

namespace LinePatch

namespace Rule

variable {rule : Rule} {a b : Bytes}

/-- If a first part leaves a line open, there is one line less than in the parts, and there are as many
replacements, or one more. -/
theorem tally_lines_append (ha : a ≠ []) (hopen : ¬ [newline] <:+ a) (hb : b ≠ []) :
    let first := rule.tally (Bytes.lines a)
    let second := rule.tally (Bytes.lines b)
    let whole := rule.tally (Bytes.lines (a ++ b))
    whole.lines + 1 = first.lines + second.lines ∧
      first.replacements + second.replacements ≤ whole.replacements ∧
      whole.replacements ≤ first.replacements + second.replacements + 1 := by
  intro first second whole
  obtain ⟨before, last, next, later, hlast, hnext, hjoined⟩ := Bytes.exists_lines_append ha hopen hb
  have hfewest : (rule.apply last).count + (rule.apply next).count ≤ (rule.apply (last ++ next)).count :=
    rule.onBytes.count_add_le_count_append last next
  have hmost : (rule.apply (last ++ next)).count ≤ (rule.apply last).count + (rule.apply next).count + 1 :=
    rule.onBytes.count_append_le last next
  simp only [first, second, whole, hlast, hnext, hjoined, tally_append, replacements_tally_cons, tally_nil]
  refine ⟨?_, ?_, ?_⟩
  · simp only [tally, List.length_cons, List.length_nil]
    omega
  · omega
  · omega

end Rule

/-- **Two inputs in a row.** Three undisturbed passes read two inputs, and the one behind the other. If the
first input is empty or ends with a line break, the pass over both writes what the other two write, and its
counts are the sums of theirs. If neither input is empty and the first does not end with a line break, the
pass over both counts one line less than the other two, and as many replacements or one more. -/
theorem patchStream_append (rule : Rule) (a b : Bytes) (fillsA fillsB fills : List Fill)
    (answersA answersB answers : List WriteAnswer) (streamA : Undisturbed a fillsA answersA)
    (streamB : Undisturbed b fillsB answersB) (stream : Undisturbed (a ++ b) fills answers) :
    let first := patchStream rule (.ofFills fillsA) ({ answers := answersA } : ScriptedSink)
    let second := patchStream rule (.ofFills fillsB) ({ answers := answersB } : ScriptedSink)
    let whole := patchStream rule (.ofFills fills) ({ answers } : ScriptedSink)
    ∃ firstSummary secondSummary summary,
      first.result = .ok firstSummary ∧ second.result = .ok secondSummary ∧ whole.result = .ok summary ∧
      (a = [] ∨ [newline] <:+ a →
        whole.progress.sink.taken = first.progress.sink.taken ++ second.progress.sink.taken ∧
          summary =
            { lines := firstSummary.lines + secondSummary.lines
              changedLines := firstSummary.changedLines + secondSummary.changedLines
              replacements := firstSummary.replacements + secondSummary.replacements }) ∧
      (a ≠ [] → b ≠ [] → ¬ [newline] <:+ a →
        summary.lines = firstSummary.lines + secondSummary.lines - 1 ∧
          firstSummary.replacements + secondSummary.replacements ≤ summary.replacements ∧
          summary.replacements ≤ firstSummary.replacements + secondSummary.replacements + 1) := by
  intro first second whole
  obtain ⟨hresultA, htakenA⟩ := streamA.outcome_eq rule
  obtain ⟨hresultB, htakenB⟩ := streamB.outcome_eq rule
  obtain ⟨hresult, htaken⟩ := stream.outcome_eq rule
  refine ⟨_, _, _, hresultA, hresultB, hresult, ?_, ?_⟩
  · intro hclosed
    have hlines := Bytes.lines_append_of_closed hclosed b
    refine ⟨?_, ?_⟩
    · rw [htaken, htakenA, htakenB, hlines, rule.patched_append]
    · rw [hlines, rule.tally_append]
  · intro ha hb hopen
    obtain ⟨hcount, hfewest, hmost⟩ := rule.tally_lines_append ha hopen hb
    exact ⟨Nat.eq_sub_of_add_eq hcount, hfewest, hmost⟩

/-- The pattern ends with a line break. The second input brings it, and one more occurrence is replaced; or the
first ends with it, and the passes are independent. -/
theorem patchStream_append_at_line_break :
    let rule : Rule := ⟨"a\n", "b", by decide⟩
    let inputs := ["x\na", "\ny", "x\na\ny", "xa\n", "a\n", "xa\na\n"]
    let outcome (input : String) :=
      patchStream rule (.ofFills [.chunk (utf8 input)]) ({ answers := [.upTo 1] } : ScriptedSink)
    (¬ [newline] <:+ utf8 "x\na" ∧ [newline] <:+ utf8 "xa\n" ∧
        ∀ input ∈ inputs, Undisturbed (utf8 input) [.chunk (utf8 input)] [.upTo 1]) ∧
      (∃ whole,
        (outcome "x\na").result = .ok { lines := 2 } ∧ (outcome "\ny").result = .ok { lines := 2 } ∧
          (outcome "x\na\ny").result = .ok whole ∧ whole.lines = 2 + 2 - 1 ∧
          0 + 0 < whole.replacements ∧ whole.replacements ≤ 0 + 0 + 1) ∧
      (outcome "xa\na\n").progress.sink.taken =
        (outcome "xa\n").progress.sink.taken ++ (outcome "a\n").progress.sink.taken := by
  intro rule inputs outcome
  have hopen : ¬ [newline] <:+ utf8 "x\na" := by decide
  have hclosed : [newline] <:+ utf8 "xa\n" := by decide
  have streams : ∀ input ∈ inputs, Undisturbed (utf8 input) [.chunk (utf8 input)] [.upTo 1] := by
    intro input hinput
    have hne : utf8 input ≠ [] := by
      rw [ne_eq, utf8_eq_nil_iff]
      rintro rfl
      exact absurd hinput (by decide)
    exact ⟨by simp [Source.delivered, Fill.bytes], by simpa using hne.symm, by simp [Fill.error?],
      by decide⟩
  refine ⟨⟨hopen, hclosed, streams⟩, ?_, ?_⟩
  · obtain ⟨first, second, whole, hfirst, hsecond, hwhole, -, hparts⟩ :=
      patchStream_append rule (utf8 "x\na") (utf8 "\ny") _ _ _ _ _ _ (streams "x\na" (by decide))
        (streams "\ny" (by decide)) (streams "x\na\ny" (by decide))
    have hcounts (input : String) (hinput : input ∈ inputs) :
        (outcome input).result = .ok (rule.tally (Bytes.lines (utf8 input))) :=
      ((streams input hinput).outcome_eq rule).1
    obtain rfl : first = { lines := 2 } := by
      rw [← Except.ok.inj ((hcounts "x\na" (by decide)).symm.trans hfirst)]
      decide +kernel
    obtain rfl : second = { lines := 2 } := by
      rw [← Except.ok.inj ((hcounts "\ny" (by decide)).symm.trans hsecond)]
      decide +kernel
    obtain ⟨hlines, -, hmost⟩ := hparts (by decide) (by decide) hopen
    have hmore : 0 + 0 < whole.replacements := by
      rw [← Except.ok.inj ((hcounts "x\na\ny" (by decide)).symm.trans hwhole)]
      decide +kernel
    exact ⟨whole, hfirst, hsecond, hwhole, hlines, hmore, hmost⟩
  · obtain ⟨_, _, _, -, -, -, hparts, -⟩ :=
      patchStream_append rule (utf8 "xa\n") (utf8 "a\n") _ _ _ _ _ _ (streams "xa\n" (by decide))
        (streams "a\n" (by decide)) (streams "xa\na\n" (by decide))
    exact (hparts (.inr hclosed)).1

end LinePatch
