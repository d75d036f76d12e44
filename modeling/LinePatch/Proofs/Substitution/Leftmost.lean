import LinePatch.Proofs.Substitution.Scan

/-!
# Leftmost replacement

What it means to replace a list wherever it occurs can be said without a scan: as long as it occurs in what
is left, its first occurrence is replaced, and the rest lies behind that. A substitution does just this.

## Main definitions

* `FirstAt`: an occurrence before which there is no other
* `Leftmost`: a list after all replacements, and their number

## Main results

* `Substitution.apply_eq_iff_leftmost`: a substitution replaces the leftmost occurrences
-/

namespace LinePatch

variable {α : Type}

/-- Behind `gap` stands the first occurrence of `p`. -/
def FirstAt (p gap rest : List α) : Prop :=
  ∀ before after, gap ++ (p ++ rest) = before ++ (p ++ after) → gap.length ≤ before.length

/-- `output` is the list in which, again and again, the first occurrence of `p` in what was left has been
replaced by `r`, `count` times in all. -/
inductive Leftmost (p r : List α) : List α → List α → Nat → Prop
  /-- The list does not occur any more. -/
  | none {list : List α} (h : ¬ p <:+: list) : Leftmost p r list list 0
  /-- The first occurrence is replaced, and the rest lies behind it. -/
  | first {gap rest output : List α} {count : Nat} (h : FirstAt p gap rest)
      (later : Leftmost p r rest output count) :
      Leftmost p r (gap ++ (p ++ rest)) (gap ++ (r ++ output)) (count + 1)

section

variable {p r list output gap rest : List α} {a : α} {count : Nat}

theorem FirstAt.nil (p rest : List α) : FirstAt p [] rest := by
  intro before after _
  exact Nat.zero_le before.length

theorem FirstAt.cons (h : FirstAt p gap rest) (ha : ¬ p <+: a :: (gap ++ (p ++ rest))) :
    FirstAt p (a :: gap) rest := by
  intro before after hequal
  cases before with
  | nil =>
    rw [List.nil_append, List.cons_append] at hequal
    exact absurd ⟨after, hequal.symm⟩ ha
  | cons b before =>
    rw [List.cons_append, List.cons_append, List.cons.injEq] at hequal
    exact Nat.succ_le_succ (h before after hequal.2)

/-- Nothing is replaced where the list does not begin. -/
theorem Leftmost.cons (h : Leftmost p r list output count) (ha : ¬ p <+: a :: list) :
    Leftmost p r (a :: list) (a :: output) count := by
  cases h with
  | none h =>
    refine .none ?_
    rw [List.infix_cons_iff, not_or]
    exact ⟨ha, h⟩
  | first h later => exact .first (h.cons ha) later

end

namespace Substitution

variable [DecidableEq α] (sub : Substitution α) {list output : List α} {count : Nat}

section

variable {sub}

/-- The first occurrence is replaced, and the scan goes on behind it. -/
theorem apply_of_firstAt {gap rest : List α} (h : FirstAt sub.pattern gap rest) :
    sub.apply (gap ++ (sub.pattern ++ rest)) =
      { output := gap ++ (sub.replacement ++ (sub.apply rest).output)
        count := (sub.apply rest).count + 1 } := by
  have hgap : ∀ t, t <:+ gap → t ≠ [] → ¬ sub.pattern <+: t ++ (sub.pattern ++ rest) := by
    rintro t ⟨front, rfl⟩ hne ⟨after, hafter⟩
    have hpos := List.length_pos_iff.mpr hne
    have hle := h front after (by rw [List.append_assoc, hafter])
    rw [List.length_append] at hle
    omega
  rw [sub.apply_append_of_not_prefix hgap, apply_pattern_append]

theorem apply_eq_of_leftmost (h : Leftmost sub.pattern sub.replacement list output count) :
    sub.apply list = { output, count } := by
  induction h with
  | none h => exact sub.apply_eq_self h
  | first h _ ih => rw [apply_of_firstAt h, ih]

end

theorem leftmost_apply (list : List α) :
    Leftmost sub.pattern sub.replacement list (sub.apply list).output (sub.apply list).count := by
  induction list using sub.scanInduction with
  | nil =>
    rw [apply_nil]
    exact .none (by simp [sub.pattern_ne_nil])
  | pattern rest ih =>
    rw [apply_pattern_append]
    exact .first (.nil sub.pattern rest) ih
  | cons a s h ih =>
    rw [sub.apply_cons h]
    exact ih.cons h

/-- A substitution replaces the leftmost occurrences of its pattern. -/
theorem apply_eq_iff_leftmost :
    sub.apply list = { output, count } ↔ Leftmost sub.pattern sub.replacement list output count := by
  refine ⟨?_, apply_eq_of_leftmost⟩
  intro h
  have hleftmost := sub.leftmost_apply list
  rwa [h] at hleftmost

end Substitution

end LinePatch
