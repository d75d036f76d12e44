import LinePatch.Proofs.Substitution.Gaps
import LinePatch.Proofs.Substitution.Occurrence

/-!
# Substitutions that insert

A substitution whose replacement begins with the pattern takes nothing away: it inserts a text behind the
occurrences. What it inserted can be taken out again, whatever the text. If no occurrence of the pattern
begins in the text, a second insertion finds the occurrences of the first and nothing else, so it puts its
own text in front of the other.

## Main definitions

* `Substitution.inserting`: the substitution that puts a text behind a pattern
* `Substitution.reverse`: the substitution that goes back from the replacement to the pattern

## Main results

* `Substitution.apply_inserting_twice`: two insertions in a row are one insertion of both texts
* `Substitution.apply_reverse_of_not_prefix`: when a substitution can be taken back
* `Substitution.apply_reverse`: an insertion can be taken back
-/

namespace LinePatch

namespace Substitution

variable {α : Type} [DecidableEq α]

/-- A scan passes over a barren list. -/
theorem apply_append_of_barren (sub : Substitution α) {u : List α} (hu : Barren sub.pattern u)
    (s : List α) :
    sub.apply (u ++ s) = { output := u ++ (sub.apply s).output, count := (sub.apply s).count } := by
  refine sub.apply_append_of_not_prefix ?_
  intro t ht hne
  exact hu.not_prefix_append ht hne s

/-! ## Insertions in a row -/

section Inserting

variable {p : List α} (hp : p ≠ [])

/-- The substitution that puts a text behind a pattern. -/
def inserting (p text : List α) (hp : p ≠ []) : Substitution α where
  pattern := p
  replacement := p ++ text
  pattern_ne_nil := hp

theorem apply_inserting_append (text rest : List α) :
    (inserting p text hp).apply (p ++ rest) =
      { output := p ++ (text ++ ((inserting p text hp).apply rest).output)
        count := ((inserting p text hp).apply rest).count + 1 } := by
  rw [← List.append_assoc]
  exact (inserting p text hp).apply_pattern_append rest

theorem apply_inserting_cons (text : List α) {a : α} {s : List α} (h : ¬ p <+: a :: s) :
    (inserting p text hp).apply (a :: s) =
      { output := a :: ((inserting p text hp).apply s).output
        count := ((inserting p text hp).apply s).count } :=
  (inserting p text hp).apply_cons h

/-- Two insertions in a row are one insertion of both texts, if no occurrence of the pattern begins in the
first: the second finds the pattern again, and passes over the text behind it. -/
theorem apply_inserting_twice {first : List α} (hfirst : Barren p first) (second s : List α) :
    (inserting p second hp).apply ((inserting p first hp).apply s).output =
      (inserting p (second ++ first) hp).apply s := by
  induction s using (inserting p first hp).scanInduction with
  | nil => simp
  | pattern rest ih =>
    change (inserting p second hp).apply ((inserting p first hp).apply (p ++ rest)).output =
      (inserting p (second ++ first) hp).apply (p ++ rest)
    rw [apply_inserting_append, apply_inserting_append, apply_inserting_append,
      apply_append_of_barren _ hfirst, ih, List.append_assoc]
  | cons a s h ih =>
    have hbegins : (inserting p first hp).pattern <+: (inserting p first hp).replacement :=
      List.prefix_append p first
    have hout : ¬ p <+: a :: ((inserting p first hp).apply s).output :=
      mt (prefix_cons_output_iff hbegins a s).mp h
    rw [apply_inserting_cons hp first h, apply_inserting_cons hp _ hout, ih,
      apply_inserting_cons hp _ h]

end Inserting

/-! ## Taking an insertion back -/

/-- The substitution that puts the pattern in the place of the replacement. -/
def reverse (sub : Substitution α) (h : sub.replacement ≠ []) : Substitution α where
  pattern := sub.replacement
  replacement := sub.pattern
  pattern_ne_nil := h

/-- The replacement is taken out again if it begins nowhere in the output but where it was put in. -/
theorem apply_reverse_of_not_prefix {sub : Substitution α} (h : sub.replacement ≠ []) {s : List α}
    (hkept : ∀ a t, a :: t <:+ s → ¬ sub.pattern <+: a :: t →
      ¬ sub.replacement <+: a :: (sub.apply t).output) :
    (sub.reverse h).apply (sub.apply s).output = { output := s, count := (sub.apply s).count } := by
  induction s using sub.scanInduction with
  | nil => simp
  | pattern rest ih =>
    have hrest := ih (by
      intro a t ht
      exact hkept a t (ht.trans (List.suffix_append sub.pattern rest)))
    have hreverse := (sub.reverse h).apply_pattern_append (sub.apply rest).output
    rw [hrest] at hreverse
    rw [apply_pattern_append]
    exact hreverse
  | cons a s hcons ih =>
    have hs := ih (by
      intro b t ht
      exact hkept b t (ht.trans (List.suffix_cons a s)))
    have hout : ¬ (sub.reverse h).pattern <+: a :: (sub.apply s).output :=
      hkept a s List.suffix_rfl hcons
    rw [sub.apply_cons hcons, apply_cons _ hout, hs]

/-- What a substitution inserted is taken out again, and nothing else. -/
theorem apply_reverse {sub : Substitution α} (hbegins : sub.pattern <+: sub.replacement)
    (h : sub.replacement ≠ []) (s : List α) :
    (sub.reverse h).apply (sub.apply s).output = { output := s, count := (sub.apply s).count } := by
  refine apply_reverse_of_not_prefix h ?_
  intro a t _ hcons hpre
  exact hcons ((prefix_cons_output_iff hbegins a t).mp (hbegins.trans hpre))

end Substitution

end LinePatch
