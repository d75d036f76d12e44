import LinePatch.Proofs.Stream.Undisturbed

/-!
# Patching line by line and patching the whole

A pass applies its rule to one line at a time and never sees two of them together. For a pattern in which
a line break is at most the last byte this makes no difference: the output is that of the rule applied to
the whole input. A pattern with an earlier line break is never found.

## Main results

* `patchStream_eq_apply`: what a pass writes, in terms of the whole input
-/

namespace LinePatch

/-- **Lines and the whole.** An undisturbed pass whose pattern has no line break before its last byte does
what one application of the rule to the whole input does; with a line break before the last byte of the
pattern, it hands the input on and counts no replacement, even where the pattern occurs. -/
theorem patchStream_eq_apply (rule : Rule) (input : Bytes) (fills : List Fill)
    (answers : List WriteAnswer) (hinput : Source.delivered fills = input)
    (hchunks : .chunk [] ∉ fills) (hfills : ∀ fill ∈ fills, fill.error? = none)
    (hanswers : ∀ answer ∈ answers, answer.error? = none) :
    let outcome := patchStream rule (.ofFills fills) ({ answers } : ScriptedSink)
    ∃ summary, outcome.result = .ok summary ∧
      (newline ∉ (utf8 rule.pattern).dropLast →
        outcome.progress.sink.taken = (rule.apply input).output ∧
          summary.replacements = (rule.apply input).count) ∧
      (newline ∈ (utf8 rule.pattern).dropLast →
        outcome.progress.sink.taken = input ∧ summary.replacements = 0 ∧
          summary.changedLines = 0) := by
  intro outcome
  obtain ⟨summary, hok⟩ :=
    exists_result_eq_ok rule (.ofFills fills) { answers } hfills hanswers rfl
  obtain ⟨hsummary, htaken, -, -⟩ := patched_of_result_eq_ok hchunks hok
  rw [Source.bytes_ofFills, hinput] at hsummary htaken
  refine ⟨summary, hok, ?_, ?_⟩
  · intro hpattern
    rw [Rule.apply_eq_of_newline_notMem hpattern input, hsummary]
    exact ⟨htaken, rfl⟩
  · intro hpattern
    have hlines : ∀ line ∈ Bytes.lines input, ¬ rule.onBytes.pattern <:+: line := by
      intro line hline
      exact Rule.not_infix_of_newline_mem hpattern hline
    rw [Rule.patched_eq_flatten hlines, Bytes.flatten_lines] at htaken
    rw [Rule.tally_eq_length hlines] at hsummary
    rw [hsummary]
    exact ⟨htaken, rfl, rfl⟩

/-- The pattern `aa`, which overlaps itself, with a line break behind it, and with one inside. -/
theorem patchStream_line_break_in_pattern :
    let input := utf8 "aaa\naaaa\na"
    let fills := [.chunk (utf8 "aaa\na"), .chunk (utf8 "aaa\na")]
    let last : Rule := ⟨"aa\n", "b", by decide⟩
    let inner : Rule := ⟨"a\na", "b", by decide⟩
    let outcome (rule : Rule) := patchStream rule (.ofFills fills) ({ answers := [.upTo 2] } : ScriptedSink)
    (.chunk [] ∉ fills ∧ (∀ fill ∈ fills, fill.error? = none) ∧
        newline ∉ (utf8 last.pattern).dropLast ∧ newline ∈ (utf8 inner.pattern).dropLast) ∧
      ((outcome last).progress.sink.taken = utf8 "abaaba" ∧ (last.apply input).count = 2) ∧
      ((outcome inner).progress.sink.taken = input ∧ (inner.apply input).count = 2) := by
  intro input fills last inner outcome
  have hchunks : .chunk [] ∉ fills := by decide
  have hfills : ∀ fill ∈ fills, fill.error? = none := by decide
  have hlast : newline ∉ (utf8 last.pattern).dropLast := by decide
  have hinner : newline ∈ (utf8 inner.pattern).dropLast := by decide
  obtain ⟨_, -, hwhole, -⟩ :=
    patchStream_eq_apply last input fills [.upTo 2] (by decide) hchunks hfills (by decide)
  obtain ⟨_, -, -, hsame⟩ :=
    patchStream_eq_apply inner input fills [.upTo 2] (by decide) hchunks hfills (by decide)
  refine ⟨⟨hchunks, hfills, hlast, hinner⟩, ⟨(hwhole hlast).1.trans ?_, ?_⟩,
    ⟨(hsame hinner).1, ?_⟩⟩
  all_goals decide +kernel

end LinePatch
