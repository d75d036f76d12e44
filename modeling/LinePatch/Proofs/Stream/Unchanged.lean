import LinePatch.Proofs.Bytes.Utf8
import LinePatch.Proofs.Lengths
import LinePatch.Proofs.Stream.Undisturbed

/-!
# Unchanged inputs

A pass counts what it replaces, not what it changes. For a rule whose two texts differ this is the same: the
output is the input exactly if nothing was counted, for several replacements cannot make up for each other,
neither in a line nor across lines. A rule that puts the pattern in its own place counts and changes nothing.

## Main results

* `taken_eq_delivered_iff`: when the output of a pass is its input
-/

namespace LinePatch

/-- **When nothing changes.** Suppose that a pass succeeds, over a source without an early empty chunk. If the
replacement is not the pattern, the output equals the input exactly if no replacement was counted, and the
lines counted as changed are those that differ from what the rule makes of them. If the replacement is the
pattern, the output equals the input, and replacements are counted exactly if a line contains the pattern. -/
theorem taken_eq_delivered_iff (rule : Rule) (fills : List Fill) (answers : List WriteAnswer)
    (flushFailure? : Option IoError) (summary : Summary) (hchunks : .chunk [] ∉ fills)
    (hok : (patchStream rule (.ofFills fills)
      ({ answers, flushFailure? } : ScriptedSink)).result = .ok summary) :
    let input := Source.delivered fills
    let output := (patchStream rule (.ofFills fills)
      ({ answers, flushFailure? } : ScriptedSink)).progress.sink.taken
    (rule.replacement ≠ rule.pattern →
        (output = input ↔ summary.replacements = 0) ∧
          summary.changedLines = (Bytes.lines input).countP fun line => (rule.apply line).output ≠ line) ∧
      (rule.replacement = rule.pattern →
        output = input ∧
          (0 < summary.replacements ↔ ∃ line ∈ Bytes.lines input, utf8 rule.pattern <:+: line)) := by
  intro input output
  obtain ⟨rfl, htaken, -, -⟩ := patched_of_result_eq_ok hchunks hok
  rw [Source.bytes_ofFills] at htaken ⊢
  have houtput : output = rule.patched (Bytes.lines input) := htaken
  have hinput : (Bytes.lines input).flatten = input := Bytes.flatten_lines input
  refine ⟨?_, ?_⟩
  · intro hdiffer
    have hbytes : rule.onBytes.replacement ≠ rule.onBytes.pattern :=
      fun hequal => hdiffer (utf8_injective hequal)
    refine ⟨?_, Rule.changedLines_tally_eq_countP hbytes _⟩
    rw [houtput, ← Rule.patched_eq_flatten_iff hbytes, hinput]
  · intro hequal
    have hbytes : rule.onBytes.replacement = rule.onBytes.pattern := congrArg utf8 hequal
    refine ⟨?_, ?_⟩
    · rw [houtput, Rule.patched_eq_flatten_of_eq hbytes, hinput]
    · rw [Nat.pos_iff_ne_zero, ne_eq, Rule.replacements_tally_eq_zero_iff]
      simp only [not_forall, not_not, exists_prop]
      rfl

/-- A rule that exchanges two letters, and the rule that leaves them as they are but counts as much. -/
theorem taken_eq_delivered_iff_exchange :
    let fills := [.chunk (utf8 "xab\nba"), .chunk (utf8 "ab\nx")]
    let outcome (rule : Rule) :=
      patchStream rule (.ofFills fills) ({ answers := [.upTo 2] } : ScriptedSink)
    let exchange : Rule := ⟨"ab", "ba", by decide⟩
    let leave : Rule := ⟨"ab", "ab", by decide⟩
    let summary : Summary := { lines := 3, changedLines := 2, replacements := 2 }
    (.chunk [] ∉ fills ∧ exchange.replacement ≠ exchange.pattern ∧ leave.replacement = leave.pattern) ∧
      ((outcome exchange).result = .ok summary ∧
        (outcome exchange).progress.sink.taken ≠ Source.delivered fills) ∧
      (outcome leave).result = .ok summary ∧
      (outcome leave).progress.sink.taken = Source.delivered fills := by
  intro fills outcome exchange leave summary
  have hchunks : .chunk [] ∉ fills := by decide
  have hdiffer : exchange.replacement ≠ exchange.pattern := by decide
  have hequal : leave.replacement = leave.pattern := rfl
  have stream : Undisturbed (Source.delivered fills) fills [.upTo 2] :=
    ⟨rfl, hchunks, by decide, by decide⟩
  have hexchange : (outcome exchange).result = .ok summary :=
    (stream.outcome_eq exchange).1.trans (congrArg _ (by decide +kernel))
  have hleave : (outcome leave).result = .ok summary :=
    (stream.outcome_eq leave).1.trans (congrArg _ (by decide +kernel))
  obtain ⟨hiff, -⟩ := taken_eq_delivered_iff exchange fills _ none summary hchunks hexchange
  obtain ⟨-, hsame⟩ := taken_eq_delivered_iff leave fills _ none summary hchunks hleave
  refine ⟨⟨hchunks, hdiffer, hequal⟩, ⟨hexchange, ?_⟩, hleave, (hsame hequal).1⟩
  intro hunchanged
  exact absurd ((hiff hdiffer).1.mp hunchanged) (by decide)

end LinePatch
