import LinePatch.Proofs.Substitution.Scan

/-!
# The gaps of a substitution

A substitution cuts its list at the occurrences of the pattern that it replaces. What lies between them
are the gaps: with the pattern between them they make up the list, with the replacement between them the
output.

## Main definitions

* `Substitution.gaps`: the parts of a list that a substitution keeps

## Main results

* `Substitution.intercalate_gaps`: the gaps with the pattern between them make up the list
* `Substitution.apply_eq_intercalate`: the gaps with the replacement between them make up the output
-/

namespace LinePatch

namespace Substitution

variable {α : Type} [DecidableEq α] (sub : Substitution α)

/-- The parts of a list before, between and behind the occurrences that are replaced. -/
def gaps (list : List α) : List (List α) :=
  match _h : cut? sub.pattern list with
  | none => [list]
  | some (gap, rest) => gap :: gaps rest
termination_by list.length
decreasing_by
  have hpos := List.length_pos_iff.mpr sub.pattern_ne_nil
  rw [eq_append_of_cut? _h]
  simp only [List.length_append]
  omega

theorem gaps_ne_nil (list : List α) : sub.gaps list ≠ [] := by
  rw [gaps]
  split <;> simp

/-- The gaps, with the pattern between them, make up the list. -/
theorem intercalate_gaps (list : List α) : sub.pattern.intercalate (sub.gaps list) = list := by
  fun_induction gaps sub list with
  | case1 list => exact List.intercalate_singleton
  | case2 list gap rest hcut ih =>
    rw [List.intercalate_cons_of_ne_nil (sub.gaps_ne_nil rest), ih, eq_append_of_cut? hcut]

/-- The gaps, with the replacement between them, make up the output. -/
theorem apply_eq_intercalate (list : List α) :
    sub.apply list =
      { output := sub.replacement.intercalate (sub.gaps list)
        count := (sub.gaps list).length - 1 } := by
  fun_induction gaps sub list with
  | case1 list hcut => simp [apply_of_cut?_eq_none hcut]
  | case2 list gap rest hcut ih =>
    have hpos := List.length_pos_iff.mpr (sub.gaps_ne_nil rest)
    rw [apply_of_cut?_eq_some hcut, ih, List.intercalate_cons_of_ne_nil (sub.gaps_ne_nil rest)]
    simp only [List.append_assoc, List.length_cons, Patched.mk.injEq, true_and]
    omega

theorem length_gaps (list : List α) : (sub.gaps list).length = (sub.apply list).count + 1 := by
  have hpos := List.length_pos_iff.mpr (sub.gaps_ne_nil list)
  rw [apply_eq_intercalate]
  simp only
  omega

/-- Nothing changes where the pattern takes its own place. -/
theorem output_eq_self (h : sub.replacement = sub.pattern) (list : List α) :
    (sub.apply list).output = list := by
  rw [apply_eq_intercalate, h, intercalate_gaps]

end Substitution

end LinePatch
