import LinePatch.Proofs.Substitution.Scan
import LinePatch.Rule
import Mathlib.Data.List.Lattice

/-!
# Substitutions that do not see each other

A substitution is hidden from another if neither what it takes out nor what it puts in has an element of the
other's pattern, and it always puts something in. Then the other finds the same occurrences before and after
it: none is taken apart, none is put together, and no two parts of one are brought together. Two substitutions
that are hidden from each other can be applied in either order.

## Main definitions

* `Substitution.HiddenFrom`: what a substitution does is not seen by another

## Main results

* `Substitution.pairInduction`: induction along the scans of two substitutions at once
* `Substitution.prefix_of_prefix_output`, `not_prefix_cons_output`: no list comes to stand at the start that
  has no element of the replacement
* `Substitution.apply_apply_of_hidden`: two substitutions that are hidden from each other
* `apply_comm_of_disjoint`: the rules that can be applied in either order
-/

namespace LinePatch

namespace Substitution

variable {α : Type} [DecidableEq α]

/-- Induction along the scans of two substitutions at once. -/
@[elab_as_elim]
theorem pairInduction (first second : Substitution α) {motive : List α → Prop} (nil : motive [])
    (first_pattern : ∀ rest, motive rest → motive (first.pattern ++ rest))
    (second_pattern : ∀ rest, motive rest → motive (second.pattern ++ rest))
    (cons : ∀ a s, ¬ first.pattern <+: a :: s → ¬ second.pattern <+: a :: s → motive s → motive (a :: s))
    (list : List α) : motive list := by
  induction hn : list.length using Nat.strong_induction_on generalizing list with
  | h n ih =>
    by_cases hfirst : first.pattern <+: list
    · obtain ⟨rest, rfl⟩ := hfirst
      have hpos := List.length_pos_iff.mpr first.pattern_ne_nil
      rw [List.length_append] at hn
      exact first_pattern rest (ih _ (by omega) rest rfl)
    by_cases hsecond : second.pattern <+: list
    · obtain ⟨rest, rfl⟩ := hsecond
      have hpos := List.length_pos_iff.mpr second.pattern_ne_nil
      rw [List.length_append] at hn
      exact second_pattern rest (ih _ (by omega) rest rfl)
    cases list with
    | nil => exact nil
    | cons a s =>
      rw [List.length_cons] at hn
      exact cons a s hfirst hsecond (ih _ (by omega) s rfl)

variable {sub other : Substitution α}

/-- A scan passes over a list that has no element of the pattern. -/
theorem apply_append_of_disjoint {u : List α} (h : u.Disjoint sub.pattern) (s : List α) :
    sub.apply (u ++ s) = { output := u ++ (sub.apply s).output, count := (sub.apply s).count } := by
  refine sub.apply_append_of_not_prefix ?_
  intro t ht hne hp
  cases t with
  | nil => exact hne rfl
  | cons a t =>
    rcases List.prefix_cons_iff.mp hp with hnil | ⟨more, hmore, -⟩
    · exact sub.pattern_ne_nil hnil
    · exact h (ht.mem List.mem_cons_self) (hmore ▸ List.mem_cons_self)

/-- A list that has no element of the replacement stands at the start of the output only if it stood there
before. -/
theorem prefix_of_prefix_output (hne : sub.replacement ≠ []) {q s : List α}
    (hq : sub.replacement.Disjoint q) (h : q <+: (sub.apply s).output) : q <+: s := by
  induction s using sub.scanInduction generalizing q with
  | nil => simpa using h
  | pattern rest ih =>
    obtain ⟨a, r, hr⟩ := List.exists_cons_of_ne_nil hne
    rw [apply_pattern_append, hr, List.cons_append] at h
    rcases List.prefix_cons_iff.mp h with rfl | ⟨more, rfl, -⟩
    · exact List.nil_prefix
    · exact absurd List.mem_cons_self (hq (hr ▸ List.mem_cons_self))
  | cons a s hp ih =>
    rw [sub.apply_cons hp] at h
    rcases List.prefix_cons_iff.mp h with rfl | ⟨more, rfl, hmore⟩
    · exact List.nil_prefix
    · have hrest : sub.replacement.Disjoint more := fun _ hmem hmem' => hq hmem (List.mem_cons_of_mem a hmem')
      exact (List.prefix_cons_inj a).mpr (ih hrest hmore)

/-- Behind an element that is passed, such a list does not come to stand either. -/
theorem not_prefix_cons_output (hne : sub.replacement ≠ []) {q : List α} (hq : sub.replacement.Disjoint q)
    {a : α} {s : List α} (hs : ¬ q <+: a :: s) : ¬ q <+: a :: (sub.apply s).output := by
  intro hp
  rcases List.prefix_cons_iff.mp hp with rfl | ⟨more, rfl, hmore⟩
  · exact hs List.nil_prefix
  · have hrest : sub.replacement.Disjoint more := fun _ hmem hmem' => hq hmem (List.mem_cons_of_mem a hmem')
    rw [List.prefix_cons_inj] at hs
    exact hs (prefix_of_prefix_output hne hrest hmore)

/-- What a substitution takes out and puts in has no element of the pattern of another, and it always puts
something in. -/
structure HiddenFrom (sub other : Substitution α) : Prop where
  pattern : sub.pattern.Disjoint other.pattern
  replacement : sub.replacement.Disjoint other.pattern
  replacement_ne_nil : sub.replacement ≠ []

/-- What was hidden makes no new occurrence. -/
theorem HiddenFrom.not_prefix (h : sub.HiddenFrom other) {a : α} {s : List α}
    (hs : ¬ other.pattern <+: a :: s) : ¬ other.pattern <+: a :: (sub.apply s).output :=
  not_prefix_cons_output h.replacement_ne_nil h.replacement hs

/-- Of two substitutions that are hidden from each other, the second replaces as much behind the first as it
does alone, and the first could as well come second. -/
theorem apply_apply_of_hidden {first second : Substitution α} (h : first.HiddenFrom second)
    (h' : second.HiddenFrom first) (s : List α) :
    second.apply (first.apply s).output =
      { output := (first.apply (second.apply s).output).output, count := (second.apply s).count } := by
  induction s using pairInduction first second with
  | nil => simp
  | first_pattern rest ih =>
    rw [apply_pattern_append, apply_append_of_disjoint h.replacement, ih,
      apply_append_of_disjoint h.pattern, apply_pattern_append]
  | second_pattern rest ih =>
    rw [apply_append_of_disjoint h'.pattern, apply_pattern_append, ih, apply_pattern_append,
      apply_append_of_disjoint h'.replacement]
  | cons a s hfirst hsecond ih =>
    rw [first.apply_cons hfirst, second.apply_cons (h.not_prefix hsecond), ih, second.apply_cons hsecond,
      first.apply_cons (h'.not_prefix hfirst)]

end Substitution

/-- **Rules in either order.** If neither rule takes out or puts in a byte of the other's pattern, and neither
only takes out, then they give the same line in either order, and each replaces as many occurrences behind
the other as it does in the line itself. -/
theorem apply_comm_of_disjoint (first second : Rule) (hfirst : first.replacement ≠ "")
    (hsecond : second.replacement ≠ "") (hpatterns : (utf8 first.pattern).Disjoint (utf8 second.pattern))
    (hfirst' : (utf8 first.replacement).Disjoint (utf8 second.pattern))
    (hsecond' : (utf8 second.replacement).Disjoint (utf8 first.pattern)) (line : Bytes) :
    (second.apply (first.apply line).output).output = (first.apply (second.apply line).output).output ∧
      (first.apply (second.apply line).output).count = (first.apply line).count ∧
      (second.apply (first.apply line).output).count = (second.apply line).count := by
  have hhidden : first.onBytes.HiddenFrom second.onBytes :=
    ⟨hpatterns, hfirst', mt utf8_eq_nil_iff.mp hfirst⟩
  have hhidden' : second.onBytes.HiddenFrom first.onBytes :=
    ⟨List.Disjoint.symm hpatterns, hsecond', mt utf8_eq_nil_iff.mp hsecond⟩
  have hbehind := Substitution.apply_apply_of_hidden hhidden hhidden' line
  have hbefore := Substitution.apply_apply_of_hidden hhidden' hhidden line
  have houtput := congrArg Patched.output hbehind
  have hcount := congrArg Patched.count hbehind
  have hcount' := congrArg Patched.count hbefore
  exact ⟨houtput, hcount', hcount⟩

/-- Both patterns overlap themselves and stand side by side, and the replacements have a byte in common. -/
theorem apply_comm_of_disjoint_side_by_side :
    let first : Rule := ⟨"aa", "x", by decide⟩
    let second : Rule := ⟨"cc", "xy", by decide⟩
    let line := utf8 "aaacccaccaa"
    (first.replacement ≠ "" ∧ second.replacement ≠ "" ∧
        (utf8 first.pattern).Disjoint (utf8 second.pattern) ∧
        (utf8 first.replacement).Disjoint (utf8 second.pattern) ∧
        (utf8 second.replacement).Disjoint (utf8 first.pattern)) ∧
      second.apply (first.apply line).output = { output := utf8 "xaxycaxyx", count := 2 } ∧
      first.apply (second.apply line).output = { output := utf8 "xaxycaxyx", count := 2 } := by
  intro first second line
  have hfirst : first.replacement ≠ "" := by decide
  have hsecond : second.replacement ≠ "" := by decide
  have hpatterns : (utf8 first.pattern).Disjoint (utf8 second.pattern) :=
    List.disjoint_left.mpr (by decide +kernel)
  have hfirst' : (utf8 first.replacement).Disjoint (utf8 second.pattern) :=
    List.disjoint_left.mpr (by decide +kernel)
  have hsecond' : (utf8 second.replacement).Disjoint (utf8 first.pattern) :=
    List.disjoint_left.mpr (by decide +kernel)
  obtain ⟨houtput, hcount, hcount'⟩ :=
    apply_comm_of_disjoint first second hfirst hsecond hpatterns hfirst' hsecond' line
  have hbehind : (second.apply (first.apply line).output).output = utf8 "xaxycaxyx" := by decide +kernel
  have hcounts : (first.apply line).count = 2 ∧ (second.apply line).count = 2 := by decide +kernel
  refine ⟨⟨hfirst, hsecond, hpatterns, hfirst', hsecond'⟩, ?_, ?_⟩
  · exact congrArg₂ Patched.mk hbehind (hcount'.trans hcounts.2)
  · exact congrArg₂ Patched.mk (houtput.symm.trans hbehind) (hcount.trans hcounts.1)

end LinePatch
