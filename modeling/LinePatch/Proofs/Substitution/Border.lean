import LinePatch.Proofs.Substitution.Apart

/-!
# Lists cut in two

A list is cut at some border, and a substitution is applied to the whole and to each part. In front of the
border it replaces the same occurrences in the whole as in the part. One more can be replaced in the whole, if
it crosses the border, and then the scan of the rest begins inside the second part and can choose other
occurrences there. If no replaced occurrence crosses the border, the scan restarts at it, whatever other
occurrences do.

## Main results

* `Substitution.places_eq_filter`: the places in a first part are those in the whole
* `Substitution.apply_append_of_not_crossed`: a scan restarts at a border that it does not jump over
* `Substitution.count_add_le_count_append`, `Substitution.count_append_le`: the counts of the parts
* `apply_cut_in_two`: a rule applied to a line and to its parts
-/

namespace LinePatch

variable {α : Type}

/-- An occurrence at the start that goes beyond a first part is longer than this part. -/
theorem length_lt_of_prefix_append {p a b : List α} (h : ¬ p <+: a) (hp : p <+: a ++ b) :
    a.length < p.length := by
  by_contra hle
  exact h (List.prefix_of_prefix_length_le hp (List.prefix_append a b) (Nat.le_of_not_lt hle))

namespace Substitution

variable [DecidableEq α] (sub : Substitution α)

/-- Nothing is replaced in a list that is shorter than the pattern. -/
theorem places_eq_nil_of_length_lt {s : List α} (h : s.length < sub.pattern.length) : sub.places s = [] := by
  rw [List.eq_nil_iff_forall_not_mem]
  intro place hplace
  have hle := (sub.occursAt_of_mem_places hplace).add_length_le sub.pattern_ne_nil
  omega

/-- The places in a first part are those in the whole at which the pattern ends in this part. -/
theorem places_eq_filter (a b : List α) :
    sub.places a = (sub.places (a ++ b)).filter (· + sub.pattern.length ≤ a.length) := by
  have hpos := List.length_pos_iff.mpr sub.pattern_ne_nil
  induction a using sub.scanInduction with
  | nil =>
    rw [places_nil, eq_comm, List.filter_eq_nil_iff]
    intro place _
    rw [decide_eq_true_iff, List.length_nil]
    omega
  | pattern rest ih =>
    rw [List.append_assoc, places_pattern_append, places_pattern_append, List.filter_cons_of_pos (by simp),
      List.filter_map, ih]
    simp [Function.comp_def, Nat.add_assoc]
  | cons x s h ih =>
    by_cases hcross : sub.pattern <+: x :: (s ++ b)
    · have hlt := length_lt_of_prefix_append (a := x :: s) h hcross
      rw [sub.places_eq_nil_of_length_lt hlt, eq_comm, List.filter_eq_nil_iff]
      intro place _
      rw [decide_eq_true_iff]
      omega
    · rw [sub.places_cons h, List.cons_append, sub.places_cons hcross, List.filter_map, ih]
      simp [Function.comp_def, Nat.add_right_comm]

/-- A scan restarts at a border that no replaced occurrence crosses. -/
theorem apply_append_of_not_crossed {a b : List α}
    (h : ∀ place ∈ sub.places (a ++ b), ¬ (place < a.length ∧ a.length < place + sub.pattern.length)) :
    sub.apply (a ++ b) =
      { output := (sub.apply a).output ++ (sub.apply b).output
        count := (sub.apply a).count + (sub.apply b).count } := by
  induction a using sub.scanInduction with
  | nil => simp
  | pattern rest ih =>
    rw [List.append_assoc] at h ⊢
    rw [places_pattern_append, List.forall_mem_cons, List.forall_mem_map] at h
    have hrest := ih (by
      intro place hplace hcrosses
      have hnot := h.2 place hplace
      rw [List.length_append] at hnot
      omega)
    rw [apply_pattern_append, apply_pattern_append, hrest]
    simp only [List.append_assoc, Patched.mk.injEq, true_and]
    omega
  | cons x s hp ih =>
    rw [List.cons_append] at h ⊢
    by_cases hcross : sub.pattern <+: x :: (s ++ b)
    · have hlt := length_lt_of_prefix_append (a := x :: s) hp hcross
      obtain ⟨rest, hrest⟩ := hcross
      rw [← hrest, places_pattern_append, List.forall_mem_cons] at h
      rw [Nat.zero_add] at h
      exact absurd ⟨Nat.zero_lt_succ s.length, hlt⟩ h.1
    · rw [sub.places_cons hcross, List.forall_mem_map] at h
      have hs := ih (by
        intro place hplace hcrosses
        have hnot := h place hplace
        rw [List.length_cons] at hnot
        omega)
      rw [sub.apply_cons hcross, sub.apply_cons hp, hs, List.cons_append]

/-- A first part that is no longer than the pattern adds one replacement at most. -/
theorem count_append_le_of_length_le {a b : List α} (h : a.length ≤ sub.pattern.length) :
    (sub.apply (a ++ b)).count ≤ (sub.apply b).count + 1 := by
  have hwhole := sub.apart_places (a ++ b)
  have hbehind := hwhole.card_le_card_placesBehind h
  have hrest := hwhole.behind.card_le_count
  rw [sub.card_toFinset_places] at hbehind
  exact hbehind.trans (Nat.succ_le_succ hrest)

/-- The whole has no fewer replacements than its parts. -/
theorem count_add_le_count_append (a b : List α) :
    (sub.apply a).count + (sub.apply b).count ≤ (sub.apply (a ++ b)).count := by
  induction a using sub.scanInduction with
  | nil => simp
  | pattern rest ih =>
    rw [List.append_assoc, apply_pattern_append, apply_pattern_append]
    simp only
    omega
  | cons x s h ih =>
    by_cases hcross : sub.pattern <+: x :: s ++ b
    · have hlt := length_lt_of_prefix_append h hcross
      have hzero : (sub.apply (x :: s)).count = 0 := by
        rw [← length_places, sub.places_eq_nil_of_length_lt hlt, List.length_nil]
      obtain ⟨more, hmore⟩ := List.prefix_of_prefix_length_le (List.prefix_append (x :: s) b) hcross
        (Nat.le_of_lt hlt)
      obtain ⟨rest, hrest⟩ := hcross
      have hb : b = more ++ rest := by
        rwa [← hmore, List.append_assoc, List.append_cancel_left_eq, eq_comm] at hrest
      have hlen : more.length ≤ sub.pattern.length := by
        rw [← hmore, List.length_append]
        exact Nat.le_add_left _ _
      have hlost := sub.count_append_le_of_length_le (b := rest) hlen
      rw [← hrest, apply_pattern_append, hzero, Nat.zero_add, hb]
      exact hlost
    · rw [List.cons_append] at hcross ⊢
      rw [sub.apply_cons h, sub.apply_cons hcross]
      exact ih

/-- The whole has one more replacement than its parts at most. -/
theorem count_append_le (a b : List α) :
    (sub.apply (a ++ b)).count ≤ (sub.apply a).count + (sub.apply b).count + 1 := by
  let whole := (sub.places (a ++ b)).toFinset
  have hwhole : Apart sub.pattern (a ++ b) whole := sub.apart_places (a ++ b)
  let inside := {place ∈ whole | place + sub.pattern.length ≤ a.length}
  let crossing := {place ∈ whole | place ≤ a.length ∧ a.length < place + sub.pattern.length}
  have hfirst : {place ∈ whole | place < a.length} ⊆ inside ∪ crossing := by
    intro place hplace
    obtain ⟨hplace, hlt⟩ := Finset.mem_filter.mp hplace
    rcases Nat.lt_or_ge a.length (place + sub.pattern.length) with hcross | hinside
    · exact Finset.mem_union_right _ (Finset.mem_filter.mpr ⟨hplace, hlt.le, hcross⟩)
    · exact Finset.mem_union_left _ (Finset.mem_filter.mpr ⟨hplace, hinside⟩)
  have hinside : inside.card ≤ (sub.apply a).count := hwhole.before.card_le_count
  have hcrossing : crossing.card ≤ 1 := hwhole.card_covering_le_one a.length
  have hbehind : (placesBehind a.length whole).card ≤ (sub.apply b).count := hwhole.behind.card_le_count
  have hcard := (Finset.card_le_card hfirst).trans (Finset.card_union_le inside crossing)
  calc (sub.apply (a ++ b)).count
      = whole.card := (sub.card_toFinset_places (a ++ b)).symm
    _ = {place ∈ whole | place < a.length}.card + (placesBehind a.length whole).card :=
      card_eq_add_card_placesBehind a.length whole
    _ ≤ (sub.apply a).count + 1 + (sub.apply b).count := by omega
    _ = (sub.apply a).count + (sub.apply b).count + 1 := Nat.add_right_comm ..

end Substitution

/-- **A line cut in two.** The places of a rule in a line determine what the rule does to it. In a first part
`a` of a line, a rule replaces the pattern exactly at those places at which it does so in the line and at
which the occurrence ends in `a`. In the line it replaces as many occurrences as in both parts, or one more.
If none that it replaces crosses the border, it does to the line what it does to the parts. -/
theorem apply_cut_in_two (rule : Rule) (a b : Bytes) :
    let size := (utf8 rule.pattern).length
    let places := rule.onBytes.places
    (∀ line, rule.apply line =
        { output := splice (utf8 rule.replacement) size line (places line)
          count := (places line).length }) ∧
      places a = (places (a ++ b)).filter (· + size ≤ a.length) ∧
      (rule.apply a).count + (rule.apply b).count ≤ (rule.apply (a ++ b)).count ∧
      (rule.apply (a ++ b)).count ≤ (rule.apply a).count + (rule.apply b).count + 1 ∧
      ((∀ place ∈ places (a ++ b), ¬ (place < a.length ∧ a.length < place + size)) →
        rule.apply (a ++ b) =
          { output := (rule.apply a).output ++ (rule.apply b).output
            count := (rule.apply a).count + (rule.apply b).count }) := by
  intro size places
  refine ⟨rule.onBytes.apply_eq_splice, rule.onBytes.places_eq_filter a b,
    rule.onBytes.count_add_le_count_append a b, rule.onBytes.count_append_le a b, ?_⟩
  intro hcross
  exact rule.onBytes.apply_append_of_not_crossed hcross

/-- Of the three occurrences in `aaaa` the second crosses the border, but is not replaced. -/
theorem apply_cut_in_two_overlapping :
    let rule : Rule := ⟨"aa", "b", by decide⟩
    rule.onBytes.places (utf8 "aa" ++ utf8 "aac") = [0, 2] ∧
      rule.apply (utf8 "aa" ++ utf8 "aac") = { output := utf8 "b" ++ utf8 "bc", count := 2 } := by
  intro rule
  have hplaces : rule.onBytes.places (utf8 "aa" ++ utf8 "aac") = [0, 2] := by decide +kernel
  obtain ⟨-, -, -, -, hparts⟩ := apply_cut_in_two rule (utf8 "aa") (utf8 "aac")
  refine ⟨hplaces, (hparts ?_).trans ?_⟩
  · rw [hplaces]
    decide
  · decide +kernel

end LinePatch
