import LinePatch.Proofs.Reverse
import LinePatch.Proofs.Substitution.Independent

/-!
# Foreign replacements

A replacement that is not empty can be foreign to the list in which it is put: then it stands in the output
only where it was put, or across several copies of it side by side, and the reverse substitution takes the
copies out one by one. It can be foreign to the pattern: then no occurrence of the pattern is made by what
was put in together with what stood around it, and the pattern does not occur in the output. An empty
replacement marks nothing, and brings the parts around an occurrence together.

## Main results

* `Substitution.apply_reverse_of_disjoint`: a replacement with no element of the list is taken out again
* `Substitution.not_infix_output`: a replacement with no element of the pattern leaves no occurrence of it
* `apply_reverse_of_foreign`: the rules that their reverse undoes
-/

namespace LinePatch

namespace Substitution

variable {α : Type} [DecidableEq α] (sub : Substitution α)

/-- A replacement that has no element of a list is taken out of the output again. -/
theorem apply_reverse_of_disjoint (h : sub.replacement ≠ []) {s : List α}
    (hforeign : sub.replacement.Disjoint s) :
    (sub.reverse h).apply (sub.apply s).output = { output := s, count := (sub.apply s).count } := by
  refine apply_reverse_of_not_prefix h ?_
  intro a t ht _ hp
  rcases List.prefix_cons_iff.mp hp with hnil | ⟨more, hmore, -⟩
  · exact h hnil
  · exact hforeign (hmore ▸ List.mem_cons_self) (ht.mem List.mem_cons_self)

/-- If the replacement is not empty and has no element of the pattern, the pattern does not occur in the
output. -/
theorem not_infix_output (h : sub.replacement ≠ []) (hforeign : sub.replacement.Disjoint sub.pattern)
    (s : List α) : ¬ sub.pattern <:+: (sub.apply s).output := by
  rw [← sub.count_eq_zero_iff]
  induction s using sub.scanInduction with
  | nil => simp
  | pattern rest ih =>
    rw [apply_pattern_append, apply_append_of_disjoint hforeign]
    exact ih
  | cons a s hp ih =>
    rw [sub.apply_cons hp, sub.apply_cons (not_prefix_cons_output h hforeign hp)]
    exact ih

end Substitution

/-- **Undoing a rule.** If no byte of a replacement stands in a line, and the replacement is not empty, the
reverse of the rule gives back the line from what the rule made of it, and replaces as many occurrences. -/
theorem apply_reverse_of_foreign (rule : Rule) (h : rule.replacement ≠ "") (line : Bytes)
    (hforeign : (utf8 rule.replacement).Disjoint line) :
    (rule.reverse h).apply (rule.apply line).output =
      { output := line, count := (rule.apply line).count } :=
  rule.onBytes.apply_reverse_of_disjoint (mt utf8_eq_nil_iff.mp h) hforeign

/-- The replacement overlaps itself: `xx` begins at three places in the first row of copies, of which there are
two. -/
theorem apply_reverse_of_foreign_side_by_side :
    let rule : Rule := ⟨"ab", "xx", by decide⟩
    let line := utf8 "aababcab"
    (rule.replacement ≠ "" ∧ (utf8 rule.replacement).Disjoint line) ∧
      rule.apply line = { output := utf8 "axxxxcxx", count := 3 } ∧
      (rule.reverse (by decide)).apply (utf8 "axxxxcxx") = { output := line, count := 3 } := by
  intro rule line
  have h : rule.replacement ≠ "" := by decide
  have hforeign : (utf8 rule.replacement).Disjoint line := List.disjoint_left.mpr (by decide +kernel)
  have hline : rule.apply line = { output := utf8 "axxxxcxx", count := 3 } := by decide +kernel
  have hundone := apply_reverse_of_foreign rule h line hforeign
  rw [hline] at hundone
  exact ⟨⟨h, hforeign⟩, hline, hundone⟩

end LinePatch
