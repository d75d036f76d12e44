import LinePatch.Proofs.Substitution.Scan

/-!
# The places of a substitution

A substitution replaces its pattern at certain places of a list; a place is the number of elements in front
of it. The places are found by the same scan as the output, and they determine it: between them the list is
copied, at each of them the replacement takes the place of the pattern.

## Main definitions

* `OccursAt`: a list occurs in another at a place
* `Substitution.places`: the places at which a substitution replaces its pattern
* `splice`: a list with another put in at some places

## Main results

* `Substitution.places_nil`, `places_pattern_append`, `places_cons`: the equations of the places
* `Substitution.occursAt_of_mem_places`, `pairwise_places`: the pattern occurs there, without overlaps
* `Substitution.apply_eq_splice`: the places determine the output and the count
-/

namespace LinePatch

variable {α : Type}

/-! ## Occurrences by place -/

/-- `p` occurs in `s` behind the first `place` elements. -/
def OccursAt (p s : List α) (place : Nat) : Prop :=
  p <+: s.drop place

section

variable {p s : List α} {place : Nat}

@[simp] theorem occursAt_append_iff (front rest : List α) :
    OccursAt p (front ++ rest) (front.length + place) ↔ OccursAt p rest place := by
  simp only [OccursAt, List.drop_append, List.drop_eq_nil_of_le (Nat.le_add_right _ _),
    Nat.add_sub_cancel_left, List.nil_append]

/-- An occurrence ends where the list does, or before. -/
theorem OccursAt.add_length_le (h : OccursAt p s place) (hp : p ≠ []) : place + p.length ≤ s.length := by
  have hpos := List.length_pos_iff.mpr hp
  have hle := h.length_le
  rw [List.length_drop] at hle
  omega

/-- Only what ends in front of the rest occurs without it. -/
theorem occursAt_iff_of_add_length_le (rest : List α) (h : place + p.length ≤ s.length) :
    OccursAt p (s ++ rest) place ↔ OccursAt p s place := by
  have hle : p.length ≤ (s.drop place).length := by
    rw [List.length_drop]
    omega
  rw [OccursAt, List.drop_append_of_le_length (by omega)]
  constructor
  · intro hp
    exact List.prefix_of_prefix_length_le hp (List.prefix_append _ rest) hle
  · intro hp
    exact hp.trans (List.prefix_append _ rest)

end

/-! ## The places of a substitution -/

namespace Substitution

variable [DecidableEq α] (sub : Substitution α)

/-- The places at which the pattern is replaced in a list, in order. -/
def places (list : List α) : List Nat :=
  match _h : cut? sub.pattern list with
  | none => []
  | some (gap, rest) => gap.length :: (places rest).map (gap.length + sub.pattern.length + ·)
termination_by list.length
decreasing_by exact length_lt_of_cut? sub.pattern_ne_nil _h

theorem places_of_cut?_eq_none {list : List α} (h : cut? sub.pattern list = none) :
    sub.places list = [] := by
  rw [places]
  split <;> simp_all

theorem places_of_cut?_eq_some {list gap rest : List α} (h : cut? sub.pattern list = some (gap, rest)) :
    sub.places list = gap.length :: (sub.places rest).map (gap.length + sub.pattern.length + ·) := by
  rw [places]
  split <;> simp_all

@[simp] theorem places_nil : sub.places [] = [] :=
  sub.places_of_cut?_eq_none (cut?_nil sub.pattern_ne_nil)

@[simp] theorem places_pattern_append (rest : List α) :
    sub.places (sub.pattern ++ rest) = 0 :: (sub.places rest).map (sub.pattern.length + ·) := by
  rw [sub.places_of_cut?_eq_some (cut?_append sub.pattern rest), List.length_nil, Nat.zero_add]

theorem places_cons {a : α} {s : List α} (h : ¬ sub.pattern <+: a :: s) :
    sub.places (a :: s) = (sub.places s).map (· + 1) := by
  cases hcut : cut? sub.pattern s with
  | none =>
    have hcons : cut? sub.pattern (a :: s) = none := by
      rw [cut?_cons h, hcut]
      rfl
    rw [sub.places_of_cut?_eq_none hcut, sub.places_of_cut?_eq_none hcons, List.map_nil]
  | some parts =>
    obtain ⟨gap, rest⟩ := parts
    have hcons : cut? sub.pattern (a :: s) = some (a :: gap, rest) := by
      rw [cut?_cons h, hcut]
      rfl
    rw [sub.places_of_cut?_eq_some hcut, sub.places_of_cut?_eq_some hcons, List.map_cons, List.map_map]
    refine congrArg _ (List.map_congr_left ?_)
    intro place _
    simp only [List.length_cons, Function.comp_apply]
    omega

theorem length_places (s : List α) : (sub.places s).length = (sub.apply s).count := by
  induction s using sub.scanInduction with
  | nil => simp
  | pattern rest ih => simp [ih]
  | cons a s h ih => rw [sub.places_cons h, List.length_map, ih, sub.apply_cons h]

theorem occursAt_of_mem_places {s : List α} {place : Nat} (h : place ∈ sub.places s) :
    OccursAt sub.pattern s place := by
  induction s using sub.scanInduction generalizing place with
  | nil => simp at h
  | pattern rest ih =>
    rw [places_pattern_append, List.mem_cons, List.mem_map] at h
    rcases h with rfl | ⟨earlier, hearlier, rfl⟩
    · exact List.prefix_append sub.pattern rest
    · exact (occursAt_append_iff _ _).mpr (ih hearlier)
  | cons a s hp ih =>
    rw [sub.places_cons hp, List.mem_map] at h
    obtain ⟨earlier, hearlier, rfl⟩ := h
    exact ih hearlier

/-- The next occurrence is looked for behind the last. -/
theorem pairwise_places (s : List α) :
    (sub.places s).Pairwise fun place next => place + sub.pattern.length ≤ next := by
  induction s using sub.scanInduction with
  | nil => simp
  | pattern rest ih =>
    rw [places_pattern_append, List.pairwise_cons, List.pairwise_map]
    refine ⟨?_, ih.imp ?_⟩
    · intro next hnext
      obtain ⟨earlier, -, rfl⟩ := List.mem_map.mp hnext
      omega
    · intro place next hle
      omega
  | cons a s h ih =>
    rw [sub.places_cons h, List.pairwise_map]
    refine ih.imp ?_
    intro place next hle
    omega

theorem nodup_places (s : List α) : (sub.places s).Nodup := by
  have hpos := List.length_pos_iff.mpr sub.pattern_ne_nil
  refine (sub.pairwise_places s).imp ?_
  intro place next hle
  omega

end Substitution

/-! ## What the places determine -/

/-- A list in which `r` takes the place of the `size` elements behind each of some places. -/
def splice (r : List α) (size : Nat) (list : List α) (places : List Nat) : List α :=
  go 0 places
where
  /-- The part behind the first `copied` elements, which have been dealt with. -/
  go (copied : Nat) : List Nat → List α
    | [] => list.drop copied
    | place :: places => (list.drop copied).take (place - copied) ++ (r ++ go (place + size) places)

namespace Substitution

variable [DecidableEq α] (sub : Substitution α)

/-- Behind `front` the places put the output of the rest together. -/
theorem splice_go_places (front rest : List α) :
    splice.go sub.replacement sub.pattern.length (front ++ rest) front.length
        ((sub.places rest).map (front.length + ·)) =
      (sub.apply rest).output := by
  fun_induction places sub rest generalizing front with
  | case1 rest hcut => simp [splice.go, apply_of_cut?_eq_none hcut]
  | case2 list gap rest hcut ih =>
    have hlist : front ++ list = front ++ gap ++ sub.pattern ++ rest := by
      rw [eq_append_of_cut? hcut]
      simp only [List.append_assoc]
    have hgap : ((front ++ list).drop front.length).take gap.length = gap := by
      rw [List.drop_left, eq_append_of_cut? hcut, List.append_assoc, List.take_left]
    have hplaces : ((sub.places rest).map (gap.length + sub.pattern.length + ·)).map (front.length + ·) =
        (sub.places rest).map ((front ++ gap ++ sub.pattern).length + ·) := by
      rw [List.map_map]
      refine List.map_congr_left ?_
      intro place _
      simp only [Function.comp_apply, List.length_append]
      omega
    have hnext : front.length + gap.length + sub.pattern.length = (front ++ gap ++ sub.pattern).length := by
      simp only [List.length_append]
    rw [List.map_cons, splice.go, Nat.add_sub_cancel_left, hgap, hplaces, hnext, hlist, ih,
      apply_of_cut?_eq_some hcut]

/-- A substitution puts its replacement in the place of the pattern at its places, and nowhere else. -/
theorem apply_eq_splice (list : List α) :
    sub.apply list =
      { output := splice sub.replacement sub.pattern.length list (sub.places list)
        count := (sub.places list).length } := by
  have houtput := sub.splice_go_places [] list
  simp only [List.length_nil, Nat.zero_add, List.map_id', List.nil_append] at houtput
  rw [splice, houtput, length_places]

end Substitution

end LinePatch
