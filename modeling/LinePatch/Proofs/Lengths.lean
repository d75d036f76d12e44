import LinePatch.Proofs.Linewise
import LinePatch.Proofs.Substitution.Gaps

/-!
# Lengths

With each occurrence that a substitution replaces, a list loses the length of the pattern and gains that of
the replacement. If these differ, the length of the output tells whether anything was replaced. If they do
not, everything stays at its place, and the first replacement shows. So the output equals the list only where
nothing was replaced, unless the pattern takes its own place; and what holds of a list holds of lines in a row.

## Main results

* `Substitution.length_output_add`, `Rule.length_patched_add`: the length of what is put out
* `Substitution.count_mul_length_le`: the occurrences that are replaced fit in the list
* `Substitution.output_eq_self_iff`, `Rule.patched_eq_flatten_iff`: nothing changes exactly where nothing is
  replaced
-/

namespace LinePatch

namespace Substitution

variable {α : Type} [DecidableEq α] (sub : Substitution α)

/-- Each replacement takes the length of the pattern away and adds that of the replacement. -/
theorem length_output_add (s : List α) :
    (sub.apply s).output.length + (sub.apply s).count * sub.pattern.length =
      s.length + (sub.apply s).count * sub.replacement.length := by
  induction s using sub.scanInduction with
  | nil => simp
  | pattern rest ih =>
    simp only [apply_pattern_append, List.length_append, Nat.add_mul, Nat.one_mul]
    omega
  | cons a s h ih =>
    simp only [sub.apply_cons h, List.length_cons]
    omega

/-- The occurrences that are replaced fit in the list. -/
theorem count_mul_length_le (s : List α) : (sub.apply s).count * sub.pattern.length ≤ s.length := by
  induction s using sub.scanInduction with
  | nil => simp
  | pattern rest ih =>
    simp only [apply_pattern_append, List.length_append, Nat.add_mul, Nat.one_mul]
    omega
  | cons a s h ih =>
    rw [sub.apply_cons h, List.length_cons]
    exact Nat.le_succ_of_le ih

variable {sub}

theorem length_output_eq (h : sub.replacement.length = sub.pattern.length) (s : List α) :
    (sub.apply s).output.length = s.length := by
  have hlengths := sub.length_output_add s
  rw [h] at hlengths
  exact Nat.add_right_cancel hlengths

/-- If something was replaced and the length is kept, the pattern and the replacement are equally long. -/
theorem length_replacement_eq {s : List α} (hcount : (sub.apply s).count ≠ 0)
    (h : (sub.apply s).output.length = s.length) : sub.replacement.length = sub.pattern.length := by
  have hlengths := sub.length_output_add s
  rw [h] at hlengths
  exact (Nat.eq_of_mul_eq_mul_left (Nat.pos_of_ne_zero hcount) (Nat.add_left_cancel hlengths)).symm

/-- The output equals the list exactly if nothing was replaced, unless the pattern takes its own place. -/
theorem output_eq_self_iff (h : sub.replacement ≠ sub.pattern) {s : List α} :
    (sub.apply s).output = s ↔ (sub.apply s).count = 0 := by
  constructor
  · intro hsame
    induction s using sub.scanInduction with
    | nil => simp
    | pattern rest ih =>
      have hlength := length_replacement_eq (by simp) (congrArg List.length hsame)
      rw [apply_pattern_append] at hsame
      exact absurd (List.append_inj_left hsame hlength) h
    | cons a s hp ih =>
      rw [sub.apply_cons hp] at hsame ⊢
      exact ih (List.cons.inj hsame).2
  · intro hcount
    rw [sub.apply_eq_self (sub.count_eq_zero_iff.mp hcount)]

end Substitution

namespace Rule

variable {rule : Rule} {lines : List Bytes}

theorem replacements_tally_cons (rule : Rule) (line : Bytes) (lines : List Bytes) :
    (rule.tally (line :: lines)).replacements =
      (rule.apply line).count + (rule.tally lines).replacements :=
  List.sum_cons

theorem replacements_tally_eq_zero_iff :
    (rule.tally lines).replacements = 0 ↔ ∀ line ∈ lines, ¬ rule.onBytes.pattern <:+: line := by
  induction lines with
  | nil => simp
  | cons line lines ih =>
    rw [replacements_tally_cons, Nat.add_eq_zero_iff, ih, rule.count_apply_eq_zero_iff, List.forall_mem_cons]

/-- The length of patched lines. -/
theorem length_patched_add (rule : Rule) (lines : List Bytes) :
    (rule.patched lines).length + (rule.tally lines).replacements * rule.onBytes.pattern.length =
      lines.flatten.length + (rule.tally lines).replacements * rule.onBytes.replacement.length := by
  induction lines with
  | nil => simp
  | cons line lines ih =>
    have hline : (rule.apply line).output.length + (rule.apply line).count * rule.onBytes.pattern.length =
        line.length + (rule.apply line).count * rule.onBytes.replacement.length :=
      rule.onBytes.length_output_add line
    simp only [patched_cons, replacements_tally_cons, List.flatten_cons, List.length_append, Nat.add_mul]
    omega

section Unchanged

variable (h : rule.onBytes.replacement ≠ rule.onBytes.pattern)

include h

theorem output_ne_self_iff {line : Bytes} :
    (rule.apply line).output ≠ line ↔ rule.onBytes.pattern <:+: line := by
  rw [ne_eq, apply, Substitution.output_eq_self_iff h, Substitution.count_eq_zero_iff, not_not]

/-- Patched lines are the lines as they were exactly if nothing was replaced in them. -/
theorem patched_eq_flatten_iff :
    rule.patched lines = lines.flatten ↔ (rule.tally lines).replacements = 0 := by
  constructor
  · intro hsame
    by_cases hlength : rule.onBytes.replacement.length = rule.onBytes.pattern.length
    · induction lines with
      | nil => rfl
      | cons line lines ih =>
        rw [patched_cons, List.flatten_cons] at hsame
        obtain ⟨hline, hrest⟩ :=
          List.append_inj hsame (Substitution.length_output_eq hlength line)
        rw [replacements_tally_cons, ih hrest, Nat.add_zero]
        exact (Substitution.output_eq_self_iff h).mp hline
    · by_contra hpos
      have hlengths := rule.length_patched_add lines
      rw [hsame] at hlengths
      exact hlength
        (Nat.eq_of_mul_eq_mul_left (Nat.pos_of_ne_zero hpos) (Nat.add_left_cancel hlengths)).symm
  · intro hzero
    exact patched_eq_flatten (replacements_tally_eq_zero_iff.mp hzero)

/-- The lines that are counted as changed are those that differ from what the rule makes of them. -/
theorem changedLines_tally_eq_countP (lines : List Bytes) :
    (rule.tally lines).changedLines = lines.countP fun line => (rule.apply line).output ≠ line := by
  refine List.countP_congr ?_
  intro line _
  rw [decide_eq_true_iff, decide_eq_true_iff, output_ne_self_iff h]

end Unchanged

/-- Lines stay as they were if the pattern takes its own place. -/
theorem patched_eq_flatten_of_eq (h : rule.onBytes.replacement = rule.onBytes.pattern) (lines : List Bytes) :
    rule.patched lines = lines.flatten := by
  have hlines : (fun line => (rule.apply line).output) = id := funext (rule.onBytes.output_eq_self h)
  rw [patched, hlines, List.flatMap_id]

end Rule

end LinePatch
