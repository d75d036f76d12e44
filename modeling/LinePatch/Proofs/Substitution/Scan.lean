import LinePatch.Substitution
import Mathlib.Data.List.Infix

/-!
# The scan of a substitution, element by element

A substitution looks at what is left of its list: where the pattern begins, the pattern is replaced and
the scan goes on behind it; elsewhere one element is passed. The three equations of `apply` say so, and
`scanInduction` is the induction along them.

## Main results

* `Substitution.apply_nil`, `apply_pattern_append`, `apply_cons`: the equations of a
  substitution
* `Substitution.scanInduction`: induction along a scan
* `Substitution.count_eq_zero_iff`: nothing is replaced exactly where the pattern does not occur
* `Substitution.apply_append`: a scan restarts at a border that no occurrence of the pattern crosses
* `Substitution.apply_append_of_not_prefix`: a scan passes over a list in which no occurrence begins
* `Substitution.notMem_output`, `output_eq_nil_iff`: what the output does not contain, and when it is empty
-/

namespace LinePatch

variable {α : Type} [DecidableEq α]

/-! ## Cutting at the first occurrence -/

section Cut

variable {p s rest gap : List α} {a : α}

theorem isPrefixOf?_eq_none_iff : p.isPrefixOf? s = none ↔ ¬ p <+: s := by
  rw [Option.eq_none_iff_forall_ne_some]
  constructor
  · rintro h ⟨rest, rfl⟩
    exact h rest (isPrefixOf?_eq_some_iff.mpr rfl)
  · intro h rest hrest
    exact h ⟨rest, (isPrefixOf?_eq_some_iff.mp hrest).symm⟩

theorem cut?_go_append (p rest before : List α) :
    cut?.go p before (p ++ rest) = some (before.reverse, rest) := by
  rw [cut?.go.eq_def, isPrefixOf?_eq_some_iff.mpr rfl]

theorem cut?_go_cons (h : ¬ p <+: a :: s) (before : List α) :
    cut?.go p before (a :: s) = cut?.go p (a :: before) s := by
  rw [cut?.go.eq_def, isPrefixOf?_eq_none_iff.mpr h]

/-- What stood in front of the list stands in front of the gap. -/
theorem cut?_go_eq (p s before : List α) :
    cut?.go p before s = (cut? p s).map fun parts => (before.reverse ++ parts.1, parts.2) := by
  unfold cut?
  by_cases hp : p <+: s
  · obtain ⟨rest, rfl⟩ := hp
    simp [cut?_go_append]
  · induction s generalizing before with
    | nil => simp [cut?.go.eq_def p _ [], isPrefixOf?_eq_none_iff.mpr hp]
    | cons a s ih =>
      rw [cut?_go_cons hp, cut?_go_cons hp]
      by_cases hs : p <+: s
      · obtain ⟨rest, rfl⟩ := hs
        simp [cut?_go_append]
      · rw [ih (a :: before) hs, ih [a] hs, Option.map_map]
        simp [Function.comp_def]

theorem cut?_append (p rest : List α) : cut? p (p ++ rest) = some ([], rest) :=
  cut?_go_append p rest []

theorem cut?_nil (hp : p ≠ []) : cut? p [] = none := by
  unfold cut?
  rw [cut?.go.eq_def, isPrefixOf?_eq_none_iff.mpr (mt List.prefix_nil.mp hp)]

theorem cut?_cons (h : ¬ p <+: a :: s) :
    cut? p (a :: s) = (cut? p s).map fun parts => (a :: parts.1, parts.2) := by
  rw [cut?, cut?_go_cons h, cut?_go_eq]
  rfl

end Cut

namespace Substitution

variable (sub : Substitution α)

/-! ## The equations of a substitution -/

section Finish

variable {sub} (scan : Scan α) {gap rest : List α}

theorem finish_of_cut?_eq_none (h : cut? sub.pattern scan.rest = none) :
    sub.finish scan = scan := by
  rw [finish]
  split
  · rfl
  · next next hnext => simp [advance?, h] at hnext

theorem finish_of_cut?_eq_some (h : cut? sub.pattern scan.rest = some (gap, rest)) :
    sub.finish scan = sub.finish
      { passed := sub.replacement.reverseAux (gap.reverseAux scan.passed)
        rest
        count := scan.count + 1 } := by
  rw [finish]
  split
  · next hnext => simp [advance?, h] at hnext
  · next next hnext =>
    simp only [advance?, h, Option.map_some, Option.some.injEq] at hnext
    rw [hnext]

end Finish

/-- What has been passed does not matter for what lies ahead. -/
theorem patched_finish (scan : Scan α) :
    (sub.finish scan).patched =
      { output := scan.passed.reverse ++ (sub.apply scan.rest).output
        count := scan.count + (sub.apply scan.rest).count } := by
  induction hn : scan.rest.length using Nat.strong_induction_on generalizing scan with
  | h n ih =>
    unfold apply
    cases hcut : cut? sub.pattern scan.rest with
    | none =>
      rw [finish_of_cut?_eq_none scan hcut, finish_of_cut?_eq_none (.start scan.rest) hcut]
      simp [Scan.patched, Scan.start, List.reverseAux_eq]
    | some parts =>
      obtain ⟨gap, rest⟩ := parts
      have hlt : rest.length < n := by
        rw [← hn]
        exact length_lt_of_cut? sub.pattern_ne_nil hcut
      rw [finish_of_cut?_eq_some scan hcut, finish_of_cut?_eq_some (.start scan.rest) hcut,
        ih _ hlt _ rfl, ih _ hlt _ rfl]
      simp only [Scan.start, List.reverseAux_eq, List.reverse_append, List.reverse_reverse,
        List.append_assoc, List.reverse_nil, List.nil_append, Patched.mk.injEq, true_and]
      omega

theorem apply_of_cut?_eq_none {sub : Substitution α} {s : List α}
    (h : cut? sub.pattern s = none) : sub.apply s = { output := s, count := 0 } := by
  rw [apply, finish_of_cut?_eq_none (.start s) h]
  rfl

theorem apply_of_cut?_eq_some {sub : Substitution α} {s gap rest : List α}
    (h : cut? sub.pattern s = some (gap, rest)) :
    sub.apply s =
      { output := gap ++ (sub.replacement ++ (sub.apply rest).output)
        count := (sub.apply rest).count + 1 } := by
  rw [apply, finish_of_cut?_eq_some (.start s) h, patched_finish]
  simp only [Scan.start, List.reverseAux_eq, List.reverse_append, List.reverse_reverse,
    List.append_assoc, List.reverse_nil, List.nil_append, Patched.mk.injEq, true_and]
  omega

@[simp] theorem apply_nil : sub.apply [] = { output := [], count := 0 } :=
  apply_of_cut?_eq_none (cut?_nil sub.pattern_ne_nil)

/-- Where the pattern begins it is replaced. -/
@[simp] theorem apply_pattern_append (rest : List α) :
    sub.apply (sub.pattern ++ rest) =
      { output := sub.replacement ++ (sub.apply rest).output
        count := (sub.apply rest).count + 1 } :=
  apply_of_cut?_eq_some (cut?_append _ _)

/-- Where the pattern does not begin one element is passed. -/
theorem apply_cons {a : α} {s : List α} (h : ¬ sub.pattern <+: a :: s) :
    sub.apply (a :: s) =
      { output := a :: (sub.apply s).output, count := (sub.apply s).count } := by
  cases hcut : cut? sub.pattern s with
  | none =>
    have hcons : cut? sub.pattern (a :: s) = none := by
      rw [cut?_cons h, hcut]
      rfl
    rw [apply_of_cut?_eq_none hcut, apply_of_cut?_eq_none hcons]
  | some parts =>
    have hcons : cut? sub.pattern (a :: s) = some (a :: parts.1, parts.2) := by
      rw [cut?_cons h, hcut]
      rfl
    rw [apply_of_cut?_eq_some hcut, apply_of_cut?_eq_some hcons]
    rfl

/-- Induction along the scan of a list. -/
@[elab_as_elim]
theorem scanInduction {motive : List α → Prop} (nil : motive [])
    (pattern : ∀ rest, motive rest → motive (sub.pattern ++ rest))
    (cons : ∀ a s, ¬ sub.pattern <+: a :: s → motive s → motive (a :: s)) (list : List α) :
    motive list := by
  induction hn : list.length using Nat.strong_induction_on generalizing list with
  | h n ih =>
    by_cases hp : sub.pattern <+: list
    · obtain ⟨rest, rfl⟩ := hp
      have hpos := List.length_pos_iff.mpr sub.pattern_ne_nil
      rw [List.length_append] at hn
      exact pattern rest (ih _ (by omega) rest rfl)
    · cases list with
      | nil => exact nil
      | cons a s =>
        rw [List.length_cons] at hn
        exact cons a s hp (ih _ (by omega) s rfl)

/-! ## Lists in which nothing is replaced -/

theorem count_eq_zero_iff {s : List α} : (sub.apply s).count = 0 ↔ ¬ sub.pattern <:+: s := by
  induction s using sub.scanInduction with
  | nil => simp [List.infix_nil, sub.pattern_ne_nil]
  | pattern rest ih => simp [(List.prefix_append sub.pattern rest).isInfix]
  | cons a s h ih => simp [sub.apply_cons h, ih, List.infix_cons_iff, h]

theorem apply_eq_self {s : List α} (h : ¬ sub.pattern <:+: s) :
    sub.apply s = { output := s, count := 0 } := by
  induction s using sub.scanInduction with
  | nil => simp
  | pattern rest ih => exact absurd (List.prefix_append sub.pattern rest).isInfix h
  | cons a s hp ih =>
    rw [List.infix_cons_iff, not_or] at h
    rw [sub.apply_cons hp, ih h.2]

/-! ## Borders that no occurrence crosses -/

/-- A scan restarts at the border of `a` and `b` if every occurrence of the pattern that begins in `a`
also ends there. -/
theorem apply_append {a b : List α}
    (h : ∀ t, t <:+ a → t ≠ [] → sub.pattern <+: t ++ b → sub.pattern <+: t) :
    sub.apply (a ++ b) =
      { output := (sub.apply a).output ++ (sub.apply b).output
        count := (sub.apply a).count + (sub.apply b).count } := by
  induction a using sub.scanInduction with
  | nil => simp
  | pattern rest ih =>
    have hrest := ih (by
      intro t ht
      exact h t (ht.trans (List.suffix_append sub.pattern rest)))
    rw [List.append_assoc, apply_pattern_append, apply_pattern_append, hrest]
    simp only [List.append_assoc, Patched.mk.injEq, true_and]
    omega
  | cons x s hp ih =>
    have hcross : ¬ sub.pattern <+: x :: (s ++ b) := by
      intro hx
      exact hp (h (x :: s) List.suffix_rfl (List.cons_ne_nil x s) hx)
    have hs := ih (by
      intro t ht
      exact h t (ht.trans (List.suffix_cons x s)))
    rw [List.cons_append, sub.apply_cons hcross, sub.apply_cons hp, hs]
    rfl

/-- A scan passes over a list in which no occurrence of the pattern begins, with what follows. -/
theorem apply_append_of_not_prefix {a b : List α}
    (h : ∀ t, t <:+ a → t ≠ [] → ¬ sub.pattern <+: t ++ b) :
    sub.apply (a ++ b) = { output := a ++ (sub.apply b).output, count := (sub.apply b).count } := by
  induction a with
  | nil => rfl
  | cons x a ih =>
    have hcons : ¬ sub.pattern <+: x :: (a ++ b) := h (x :: a) List.suffix_rfl (List.cons_ne_nil x a)
    have ha := ih (by
      intro t ht
      exact h t (ht.trans (List.suffix_cons x a)))
    rw [List.cons_append, sub.apply_cons hcons, ha]
    rfl

/-- A scan restarts in front of an element that the pattern does not contain, and behind it. -/
theorem apply_append_cons {b : α} (hb : b ∉ sub.pattern) (a c : List α) :
    sub.apply (a ++ b :: c) =
      { output := (sub.apply a).output ++ b :: (sub.apply c).output
        count := (sub.apply a).count + (sub.apply c).count } := by
  have hcons : ¬ sub.pattern <+: b :: c := by
    intro hp
    rcases List.prefix_cons_iff.mp hp with hnil | ⟨more, hmore, -⟩
    · exact sub.pattern_ne_nil hnil
    · exact hb (hmore ▸ List.mem_cons_self)
  rw [apply_append, sub.apply_cons hcons]
  intro t _ _ hp
  rcases List.prefix_or_prefix_of_prefix hp (List.prefix_append t (b :: c)) with h | ⟨more, hmore⟩
  · exact h
  · rw [← hmore, List.prefix_append_right_inj] at hp
    rcases List.prefix_cons_iff.mp hp with rfl | ⟨more, rfl, -⟩
    · rw [← hmore, List.append_nil]
    · exact absurd (hmore ▸ List.mem_append_right t List.mem_cons_self) hb

/-! ## What the output contains -/

/-- An element that stands neither in a list nor in the replacement does not stand in the output. -/
theorem notMem_output {b : α} (hb : b ∉ sub.replacement) {s : List α} (hs : b ∉ s) :
    b ∉ (sub.apply s).output := by
  induction s using sub.scanInduction with
  | nil => simp
  | pattern rest ih =>
    have hrest : b ∉ rest := fun h => hs (List.mem_append_right _ h)
    rw [apply_pattern_append, List.mem_append, not_or]
    exact ⟨hb, ih hrest⟩
  | cons a s h ih =>
    obtain ⟨ha, hs⟩ := not_or.mp (mt List.mem_cons.mpr hs)
    rw [sub.apply_cons h, List.mem_cons, not_or]
    exact ⟨ha, ih hs⟩

/-- Nothing is left exactly of a list that repeats a pattern without a replacement. -/
theorem output_eq_nil_iff {s : List α} :
    (sub.apply s).output = [] ↔
      s = [] ∨ sub.replacement = [] ∧ ∃ n, s = (List.replicate (n + 1) sub.pattern).flatten := by
  induction s using sub.scanInduction with
  | nil => simp
  | pattern rest ih =>
    rw [apply_pattern_append, List.append_eq_nil_iff, ih]
    constructor
    · rintro ⟨hr, rfl | ⟨-, n, rfl⟩⟩
      · exact .inr ⟨hr, 0, by simp⟩
      · exact .inr ⟨hr, n + 1, rfl⟩
    · rintro (hnil | ⟨hr, n, hn⟩)
      · exact absurd (List.append_eq_nil_iff.mp hnil).1 sub.pattern_ne_nil
      · rw [List.replicate_succ, List.flatten_cons, List.append_cancel_left_eq] at hn
        refine ⟨hr, ?_⟩
        cases n with
        | zero => exact .inl hn
        | succ n => exact .inr ⟨hr, n, hn⟩
  | cons a s h ih =>
    rw [sub.apply_cons h]
    refine iff_of_false (List.cons_ne_nil a _) ?_
    rintro (hnil | ⟨-, n, hn⟩)
    · exact List.cons_ne_nil a s hnil
    · rw [hn, List.replicate_succ, List.flatten_cons] at h
      exact h (List.prefix_append _ _)

end Substitution

end LinePatch
