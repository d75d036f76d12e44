import LinePatch.Proofs.Substitution.Places
import LinePatch.Rule
import Mathlib.Data.Finset.Card
import Mathlib.Order.Bounds.Defs

/-!
# Occurrences apart

Where a pattern overlaps itself, occurrences of it that do not overlap can be chosen in many ways. A
substitution chooses the leftmost ones. Any other choice has one occurrence at most that covers the last
element of the first of these, and the others behind that are a choice in the rest of the list. So no choice
has more occurrences than are replaced.

## Main definitions

* `Apart`: places at which a list occurs in another, without overlaps
* `placesBehind`: the places behind a first part, counted from its end

## Main results

* `Apart.card_covering_le_one`: an element is covered by one occurrence at most
* `Apart.before`, `Apart.behind`: those of the whole in its two parts
* `Apart.card_le_count`: there are no more occurrences apart than are replaced
* `count_isGreatest`: a rule replaces as many occurrences as it can
-/

namespace LinePatch

variable {α : Type}

/-- Places at which `p` occurs in `s`, of which no two overlap. -/
structure Apart (p s : List α) (places : Finset Nat) : Prop where
  occurs : ∀ place ∈ places, OccursAt p s place
  /-- An occurrence ends before the next begins. -/
  add_length_le : ∀ place ∈ places, ∀ next ∈ places, place < next → place + p.length ≤ next

/-! ## Places behind a first part -/

/-- The places behind the first `n` elements, counted from there. -/
def placesBehind (n : Nat) (places : Finset Nat) : Finset Nat :=
  {place ∈ places | n ≤ place}.image (· - n)

@[simp] theorem mem_placesBehind {n place : Nat} {places : Finset Nat} :
    place ∈ placesBehind n places ↔ n + place ∈ places := by
  simp only [placesBehind, Finset.mem_image, Finset.mem_filter]
  constructor
  · rintro ⟨behind, ⟨hbehind, hle⟩, rfl⟩
    rwa [Nat.add_sub_cancel' hle]
  · intro hplace
    exact ⟨n + place, ⟨hplace, Nat.le_add_right n place⟩, Nat.add_sub_cancel_left n place⟩

/-- A place is among the first `n`, or behind them. -/
theorem card_eq_add_card_placesBehind (n : Nat) (places : Finset Nat) :
    places.card = {place ∈ places | place < n}.card + (placesBehind n places).card := by
  have hbehind : (placesBehind n places).card = {place ∈ places | ¬ place < n}.card := by
    rw [placesBehind, Finset.card_image_of_injOn]
    · simp only [not_lt]
    · intro place hplace other hother hequal
      have hle := (Finset.mem_filter.mp hplace).2
      have hle' := (Finset.mem_filter.mp hother).2
      simp only at hequal
      omega
  rw [hbehind, Finset.card_filter_add_card_filter_not]

namespace Apart

variable {p s a b : List α} {places others : Finset Nat}

/-- An element is covered by one occurrence at most. -/
theorem card_covering_le_one (h : Apart p s places) (index : Nat) :
    {place ∈ places | place ≤ index ∧ index < place + p.length}.card ≤ 1 := by
  rw [Finset.card_le_one]
  intro place hplace other hother
  obtain ⟨hplace, hle, hlt⟩ := Finset.mem_filter.mp hplace
  obtain ⟨hother, hle', hlt'⟩ := Finset.mem_filter.mp hother
  rcases Nat.lt_trichotomy place other with hfirst | rfl | hlast
  · have hend := h.add_length_le place hplace other hother hfirst
    omega
  · rfl
  · have hend := h.add_length_le other hother place hplace hlast
    omega

/-! ## Occurrences in two parts -/

/-- What ends in a first part occurs in it. -/
theorem before (h : Apart p (a ++ b) places) :
    Apart p a {place ∈ places | place + p.length ≤ a.length} where
  occurs place hplace := by
    obtain ⟨hplace, hle⟩ := Finset.mem_filter.mp hplace
    exact (occursAt_iff_of_add_length_le b hle).mp (h.occurs place hplace)
  add_length_le place hplace next hnext :=
    h.add_length_le place (Finset.mem_of_mem_filter place hplace) next (Finset.mem_of_mem_filter next hnext)

/-- What begins behind a first part occurs in the rest. -/
theorem behind (h : Apart p (a ++ b) places) : Apart p b (placesBehind a.length places) where
  occurs place hplace := (occursAt_append_iff a b).mp (h.occurs _ (mem_placesBehind.mp hplace))
  add_length_le place hplace next hnext hlt := by
    have hle := h.add_length_le _ (mem_placesBehind.mp hplace) _ (mem_placesBehind.mp hnext)
      (Nat.add_lt_add_left hlt a.length)
    omega

/-- Of the occurrences apart one at most begins in a first part that is no longer than the pattern. -/
theorem card_le_card_placesBehind (h : Apart p s places) {n : Nat} (hn : n ≤ p.length) :
    places.card ≤ (placesBehind n places).card + 1 := by
  have hcovering : {place ∈ places | place < n} ⊆
      {place ∈ places | place ≤ n - 1 ∧ n - 1 < place + p.length} := by
    refine Finset.monotone_filter_right places ?_
    intro place hlt
    omega
  have hfirst := (Finset.card_le_card hcovering).trans (h.card_covering_le_one _)
  rw [card_eq_add_card_placesBehind n places, Nat.add_comm]
  exact Nat.add_le_add_left hfirst _

/-! ## No more than are replaced -/

variable [DecidableEq α] {sub : Substitution α}

/-- There are no more occurrences apart than a substitution replaces. -/
theorem card_le_count (h : Apart sub.pattern s places) : places.card ≤ (sub.apply s).count := by
  induction s using sub.scanInduction generalizing places with
  | nil =>
    have hempty : places = ∅ := by
      refine Finset.eq_empty_of_forall_notMem ?_
      intro place hplace
      have hp := h.occurs place hplace
      rw [OccursAt, List.drop_nil, List.prefix_nil] at hp
      exact sub.pattern_ne_nil hp
    rw [hempty, Finset.card_empty]
    exact Nat.zero_le _
  | pattern rest ih =>
    have hfirst := h.card_le_card_placesBehind le_rfl
    have hrest := ih h.behind
    rw [Substitution.apply_pattern_append]
    exact hfirst.trans (Nat.succ_le_succ hrest)
  | cons a s hp ih =>
    have hfirst : {place ∈ places | place < 1} = ∅ := by
      refine Finset.filter_eq_empty_iff.mpr ?_
      intro place hplace hlt
      obtain rfl : place = 0 := Nat.lt_one_iff.mp hlt
      exact hp (h.occurs 0 hplace)
    have hrest := ih (Apart.behind (a := [a]) h)
    rw [List.length_singleton] at hrest
    rw [card_eq_add_card_placesBehind 1 places, hfirst, Finset.card_empty, Nat.zero_add, sub.apply_cons hp]
    exact hrest

end Apart

namespace Substitution

variable [DecidableEq α] (sub : Substitution α)

/-- A substitution replaces occurrences apart. -/
theorem apart_places (s : List α) : Apart sub.pattern s (sub.places s).toFinset where
  occurs place hplace := sub.occursAt_of_mem_places (List.mem_toFinset.mp hplace)
  add_length_le place hplace next hnext hlt := by
    have hordered : (sub.places s).Pairwise fun place next =>
        place < next → place + sub.pattern.length ≤ next := by
      refine (sub.pairwise_places s).imp ?_
      intro place next hle _
      exact hle
    have hflipped : (sub.places s).Pairwise (flip fun place next =>
        place < next → place + sub.pattern.length ≤ next) := by
      refine (sub.pairwise_places s).imp ?_
      intro place next hle hlt'
      omega
    exact hordered.forall_of_forall_of_flip (fun _ _ hlt' => absurd hlt' (Nat.lt_irrefl _)) hflipped
      (List.mem_toFinset.mp hplace) (List.mem_toFinset.mp hnext) hlt

theorem card_toFinset_places (s : List α) : (sub.places s).toFinset.card = (sub.apply s).count := by
  rw [List.toFinset_card_of_nodup (sub.nodup_places s), length_places]

end Substitution

/-- **As many as possible.** The number of occurrences that a rule replaces in a line is the largest number
of occurrences of its pattern in the line of which no two overlap, however these are chosen. -/
theorem count_isGreatest (rule : Rule) (line : Bytes) :
    IsGreatest {count | ∃ places, Apart (utf8 rule.pattern) line places ∧ places.card = count}
      (rule.apply line).count := by
  constructor
  · refine ⟨(rule.onBytes.places line).toFinset, ?_, ?_⟩
    · exact rule.onBytes.apart_places line
    · exact rule.onBytes.card_toFinset_places line
  · rintro count ⟨places, hplaces, rfl⟩
    have happart : Apart rule.onBytes.pattern line places := hplaces
    exact happart.card_le_count

end LinePatch
