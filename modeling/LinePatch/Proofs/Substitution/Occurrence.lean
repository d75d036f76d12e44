import LinePatch.Proofs.Substitution.Scan

/-!
# Occurrences of a pattern

A list occurs in another at the tails that begin with it; occurrences may overlap. A list is barren of a
pattern if no occurrence of the pattern begins in it, whatever follows. A pattern whose tail is barren of
it never overlaps itself, so a substitution finds all its occurrences. If the replacement begins with the
pattern and its tail is barren too, then the occurrences in the output are those that were replaced.

## Main definitions

* `occurrences`: the number of places where a list begins in another
* `Barren`: no occurrence begins in a list, whatever follows

## Main results

* `Barren.occurrences_append`: barren lists can be left out of a count
* `Substitution.count_eq_occurrences`: all occurrences are replaced
* `Substitution.occurrences_output`: the occurrences in the output are those replaced
* `Substitution.replacement_prefix_of_suffix_output`: in the output every occurrence of the pattern is
  one of the replacement
-/

namespace LinePatch

variable {α : Type}

/-! ## Barren lists -/

/-- No occurrence of `p` begins in `u`, whatever follows: no nonempty tail of `u` begins with `p` or can
be completed to `p`. -/
def Barren (p u : List α) : Prop :=
  ∀ t ∈ u.tails, t ≠ [] → ¬ p <+: t ∧ ¬ t <+: p

instance [DecidableEq α] (p u : List α) : Decidable (Barren p u) :=
  inferInstanceAs (Decidable (∀ t ∈ u.tails, t ≠ [] → ¬ p <+: t ∧ ¬ t <+: p))

namespace Barren

variable {p u t : List α} {a : α}

theorem tail_of_cons (h : Barren p (a :: u)) : Barren p u := by
  intro t ht
  rw [List.mem_tails] at ht
  exact h t ((List.mem_tails _ _).mpr (ht.trans (List.suffix_cons a u)))

theorem not_prefix_append (h : Barren p u) (ht : t <:+ u) (hne : t ≠ []) (s : List α) :
    ¬ p <+: t ++ s := by
  intro hp
  obtain ⟨hpt, htp⟩ := h t ((List.mem_tails _ _).mpr ht) hne
  rcases List.prefix_or_prefix_of_prefix hp (List.prefix_append t s) with h | h
  · exact hpt h
  · exact htp h

/-- An occurrence behind the start of a barren list begins behind its end. -/
theorem suffix_of_begins (h : Barren p u) {s : List α} (ht : t <:+ u ++ s) (hp : p <+: t) :
    t <:+ s := by
  induction u with
  | nil => exact ht
  | cons a u ih =>
    rcases List.suffix_cons_iff.mp ht with rfl | ht
    · exact absurd hp (h.not_prefix_append List.suffix_rfl (List.cons_ne_nil a u) s)
    · exact ih h.tail_of_cons ht

protected theorem nil (p : List α) : Barren p [] := by
  intro t ht hne
  exact absurd (List.suffix_nil.mp ((List.mem_tails _ _).mp ht)) hne

protected theorem append {v : List α} (hu : Barren p u) (hv : Barren p v) : Barren p (u ++ v) := by
  induction u with
  | nil => exact hv
  | cons a u ih =>
    intro t ht hne
    rw [List.mem_tails, List.cons_append, List.suffix_cons_iff] at ht
    rcases ht with rfl | ht
    · refine ⟨hu.not_prefix_append List.suffix_rfl (List.cons_ne_nil a u) v, ?_⟩
      intro h
      have hau := hu (a :: u) ((List.mem_tails _ _).mpr List.suffix_rfl) (List.cons_ne_nil a u)
      exact hau.2 ((List.prefix_append (a :: u) v).trans h)
    · exact ih hu.tail_of_cons t ((List.mem_tails _ _).mpr ht) hne

/-- Copies of a barren list in a row are barren. -/
theorem flatten_replicate (hu : Barren p u) (n : Nat) : Barren p (List.replicate n u).flatten := by
  induction n with
  | zero => exact .nil p
  | succ n ih =>
    rw [List.replicate_succ, List.flatten_cons]
    exact hu.append ih

end Barren

variable [DecidableEq α]

/-! ## Counting occurrences -/

/-- The number of places where `p` begins in `s`; occurrences may overlap. -/
def occurrences (p s : List α) : Nat :=
  s.tails.countP fun t => p <+: t

theorem occurrences_nil {p : List α} (hp : p ≠ []) : occurrences p [] = 0 := by
  simp [occurrences, hp]

theorem occurrences_cons (p : List α) (a : α) (s : List α) :
    occurrences p (a :: s) = occurrences p s + if p <+: a :: s then 1 else 0 := by
  simp [occurrences, List.countP_cons]

theorem Barren.occurrences_append {p u : List α} (h : Barren p u) (s : List α) :
    occurrences p (u ++ s) = occurrences p s := by
  induction u with
  | nil => rfl
  | cons a u ih =>
    have hcons : ¬ p <+: (a :: u) ++ s :=
      h.not_prefix_append List.suffix_rfl (List.cons_ne_nil a u) s
    rw [List.cons_append] at hcons ⊢
    rw [occurrences_cons, if_neg hcons, ih h.tail_of_cons, Nat.add_zero]

/-- Behind the first element of `r`, which begins with `p`, the next occurrence of `p` is behind `r`. -/
theorem occurrences_append_of_barren_tail {p r : List α} (hp : p ≠ []) (hpr : p <+: r)
    (hbarren : Barren p r.tail) (s : List α) :
    occurrences p (r ++ s) = occurrences p s + 1 := by
  cases r with
  | nil => exact absurd (List.prefix_nil.mp hpr) hp
  | cons a r =>
    have hcons : p <+: a :: (r ++ s) := hpr.trans (List.prefix_append (a :: r) s)
    rw [List.cons_append, occurrences_cons, if_pos hcons]
    rw [List.tail_cons] at hbarren
    rw [hbarren.occurrences_append]

namespace Substitution

variable {sub : Substitution α}

/-! ## All occurrences are replaced -/

/-- The occurrences of a pattern that does not overlap itself are all replaced. -/
theorem count_eq_occurrences (hpattern : Barren sub.pattern sub.pattern.tail) (s : List α) :
    (sub.apply s).count = occurrences sub.pattern s := by
  induction s using sub.scanInduction with
  | nil => simp [occurrences_nil sub.pattern_ne_nil]
  | pattern rest ih =>
    rw [apply_pattern_append,
      occurrences_append_of_barren_tail sub.pattern_ne_nil List.prefix_rfl hpattern, ih]
  | cons a s h ih => rw [sub.apply_cons h, occurrences_cons, if_neg h, ih, Nat.add_zero]

/-! ## Occurrences in the output -/

/-- A replacement that begins with the pattern leaves the start of a list alone, as far as the pattern
is long. -/
theorem take_output (hbegins : sub.pattern <+: sub.replacement) {n : Nat}
    (hn : n ≤ sub.pattern.length) (s : List α) : (sub.apply s).output.take n = s.take n := by
  induction s using sub.scanInduction generalizing n with
  | nil => simp
  | pattern rest ih =>
    have hlen := hbegins.length_le
    rw [apply_pattern_append, List.take_append_of_le_length hn,
      List.take_append_of_le_length (hn.trans hlen)]
    obtain ⟨q, hq⟩ := hbegins
    rw [← hq, List.take_append_of_le_length hn]
  | cons a s h ih =>
    rw [sub.apply_cons h]
    cases n with
    | zero => rfl
    | succ n => rw [List.take_succ_cons, List.take_succ_cons, ih (Nat.le_of_succ_le hn)]

theorem prefix_cons_output_iff (hbegins : sub.pattern <+: sub.replacement) (a : α) (s : List α) :
    sub.pattern <+: a :: (sub.apply s).output ↔ sub.pattern <+: a :: s := by
  have htake : (a :: (sub.apply s).output).take sub.pattern.length =
      (a :: s).take sub.pattern.length := by
    cases hn : sub.pattern.length with
    | zero => rfl
    | succ n =>
      rw [List.take_succ_cons, List.take_succ_cons, take_output hbegins (by omega)]
  rw [List.prefix_iff_eq_take, List.prefix_iff_eq_take, htake]

section

variable (hbegins : sub.pattern <+: sub.replacement)
  (hbarren : Barren sub.pattern sub.replacement.tail)

include hbegins hbarren

/-- The occurrences of the pattern in the output are those that were replaced. -/
theorem occurrences_output (s : List α) :
    occurrences sub.pattern (sub.apply s).output = (sub.apply s).count := by
  induction s using sub.scanInduction with
  | nil => simp [occurrences_nil sub.pattern_ne_nil]
  | pattern rest ih =>
    rw [apply_pattern_append,
      occurrences_append_of_barren_tail sub.pattern_ne_nil hbegins hbarren, ih]
  | cons a s h ih =>
    have hout : ¬ sub.pattern <+: a :: (sub.apply s).output :=
      mt (prefix_cons_output_iff hbegins a s).mp h
    rw [sub.apply_cons h, occurrences_cons, if_neg hout, ih, Nat.add_zero]

/-- In the output every occurrence of the pattern is one of the replacement. -/
theorem replacement_prefix_of_suffix_output {s t : List α} (ht : t <:+ (sub.apply s).output)
    (hp : sub.pattern <+: t) : sub.replacement <+: t := by
  induction s using sub.scanInduction with
  | nil =>
    rw [apply_nil] at ht
    rw [List.suffix_nil.mp ht, List.prefix_nil] at hp
    exact absurd hp sub.pattern_ne_nil
  | pattern rest ih =>
    rw [apply_pattern_append] at ht
    cases hr : sub.replacement with
    | nil => exact absurd (List.prefix_nil.mp (hr ▸ hbegins)) sub.pattern_ne_nil
    | cons a r =>
      rw [hr, List.tail_cons] at hbarren
      rw [hr, List.cons_append] at ht
      rcases List.suffix_cons_iff.mp ht with rfl | ht
      · exact List.prefix_append (a :: r) _
      · rw [← hr]
        exact ih (hbarren.suffix_of_begins ht hp)
  | cons a s h ih =>
    rw [sub.apply_cons h] at ht
    rcases List.suffix_cons_iff.mp ht with rfl | ht
    · exact absurd ((prefix_cons_output_iff hbegins a s).mp hp) h
    · exact ih ht

end

end Substitution

end LinePatch
