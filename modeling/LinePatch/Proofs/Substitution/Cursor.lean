import LinePatch.Proofs.Substitution.Greedy
import LinePatch.Proofs.Substitution.Places

/-!
# A scan between two replacements

A scan copies its list piece by piece: up to the next occurrence of the pattern, and at the end all that is
left. So at any time a first part of the list has been dealt with. This part ends where an occurrence does,
and there the scan of a longer list restarts, whatever follows; so what has been put out is what the
substitution makes of this part alone.

## Main definitions

* `slice?`: a piece of a list between two places, if these are in order and in the list
* `Scan.written`, `Scan.copied`: what a scan has put out, and up to which place it has copied
* `Substitution.Reached`: the scans of a list, one after each replacement
* `Substitution.Covers`: a scan has put out what the part behind it becomes
* `Substitution.Replaces`: a scan replaces the occurrence at a place

## Main results

* `Substitution.RestartsBehind.append`: a scan restarts behind each occurrence that it replaces
* `Substitution.Stands.advance`, `Reached.stands`: a replacement leaves the scan where it would restart, and so
  do all of them
* `Substitution.Stands.replaces`, `Stands.covers`: what a replacement does, and what holds between two of them
* `apply_loop`: the loop over the occurrences in a line
-/

namespace LinePatch

variable {α : Type}

/-- The elements of a list from one place up to another. There are none if the places are out of order, or if
the second does not lie in the list. -/
def slice? (list : List α) (start stop : Nat) : Option (List α) :=
  if start ≤ stop ∧ stop ≤ list.length then some ((list.take stop).drop start) else none

theorem slice?_append (front gap rest : List α) :
    slice? (front ++ (gap ++ rest)) front.length (front.length + gap.length) = some gap := by
  have hbounds : front.length ≤ front.length + gap.length ∧
      front.length + gap.length ≤ (front ++ (gap ++ rest)).length := by
    simp only [List.length_append]
    omega
  rw [slice?, if_pos hbounds, ← List.append_assoc, ← List.length_append, List.take_left, List.drop_left]

/-- The first occurrence is the one with the least place. -/
theorem FirstAt.length_le_of_occursAt {p gap rest : List α} (h : FirstAt p gap rest) {place : Nat}
    (hoccurs : OccursAt p (gap ++ (p ++ rest)) place) : gap.length ≤ place := by
  obtain ⟨after, hafter⟩ := hoccurs
  have hsplit := List.take_append_drop place (gap ++ (p ++ rest))
  rw [← hafter] at hsplit
  exact (h _ after hsplit.symm).trans (List.length_take_le place _)

namespace Scan

/-- What a scan has put out for the part behind it. -/
def written (scan : Scan α) : List α :=
  scan.passed.reverse

/-- The place in `list` up to which a scan of it has copied. -/
def copied (list : List α) (scan : Scan α) : Nat :=
  list.length - scan.rest.length

theorem copied_append (front : List α) (scan : Scan α) : scan.copied (front ++ scan.rest) = front.length := by
  rw [copied, List.length_append, Nat.add_sub_cancel]

end Scan

namespace Substitution

variable [DecidableEq α] (sub : Substitution α)

/-- The scans of a list: at the beginning, and behind each replacement. -/
inductive Reached (list : List α) : Scan α → Prop
  | start : Reached list (.start list)
  | advance {scan next} (reached : Reached list scan) (h : sub.advance? scan = some next) : Reached list next

/-- Between two replacements: a scan has copied up to a place of the list, and what it has put out and counted
is what the substitution makes of the part in front of this place. -/
structure Covers (list : List α) (scan : Scan α) : Prop where
  rest_eq : slice? list (scan.copied list) list.length = some scan.rest
  written_eq : scan.written = (sub.apply (list.take (scan.copied list))).output
  count_eq : scan.count = (sub.apply (list.take (scan.copied list))).count

/-- A replacement: the first occurrence that begins where the scan has copied to, or behind, is the one at
`place`. The piece in front of it is copied, the replacement takes its place. -/
structure Replaces (list : List α) (scan : Scan α) (place : Nat) (next : Scan α) : Prop where
  copied_le : scan.copied list ≤ place
  add_length_le : place + sub.pattern.length ≤ list.length
  occurs : OccursAt sub.pattern list place
  first : ∀ other, scan.copied list ≤ other → OccursAt sub.pattern list other → place ≤ other
  written_eq : ∃ gap, slice? list (scan.copied list) place = some gap ∧
    next.written = scan.written ++ gap ++ sub.replacement
  copied_eq : next.copied list = place + sub.pattern.length
  count_eq : next.count = scan.count + 1

/-! ## Where a scan restarts -/

/-- The scan of a longer list restarts behind `front`, whatever follows. -/
def RestartsBehind (front : List α) : Prop :=
  ∀ more, sub.apply (front ++ more) =
    { output := (sub.apply front).output ++ (sub.apply more).output
      count := (sub.apply front).count + (sub.apply more).count }

variable {sub} {front gap rest list : List α} {scan next : Scan α}

theorem restartsBehind_nil : sub.RestartsBehind [] := by
  intro more
  simp

namespace RestartsBehind

theorem apply_append (h : sub.RestartsBehind front) (hfirst : FirstAt sub.pattern gap rest) :
    sub.apply (front ++ (gap ++ sub.pattern)) =
      { output := (sub.apply front).output ++ (gap ++ sub.replacement)
        count := (sub.apply front).count + 1 } := by
  have hgap := apply_of_firstAt (hfirst.withRest [])
  rw [List.append_nil, apply_nil, List.append_nil] at hgap
  rw [h, hgap]

/-- A scan restarts behind the first occurrence that follows. -/
theorem append (h : sub.RestartsBehind front) (hfirst : FirstAt sub.pattern gap rest) :
    sub.RestartsBehind (front ++ (gap ++ sub.pattern)) := by
  intro more
  have hmore : front ++ (gap ++ sub.pattern) ++ more = front ++ (gap ++ (sub.pattern ++ more)) := by
    simp only [List.append_assoc]
  rw [hmore, h, apply_of_firstAt (hfirst.withRest more), h.apply_append hfirst]
  simp only [List.append_assoc, Patched.mk.injEq, true_and]
  omega

end RestartsBehind

/-! ## What a replacement does -/

theorem advance?_eq_none_iff : sub.advance? scan = none ↔ ¬ sub.pattern <:+: scan.rest := by
  rw [advance?, Option.map_eq_none_iff, cut?_eq_none_iff]

/-- A scan moves behind the first occurrence in what is left; `gap` stands in front of it. -/
structure Advances (sub : Substitution α) (scan : Scan α) (gap : List α) (next : Scan α) : Prop where
  rest_eq : scan.rest = gap ++ (sub.pattern ++ next.rest)
  first : FirstAt sub.pattern gap next.rest
  written_eq : next.written = scan.written ++ (gap ++ sub.replacement)
  count_eq : next.count = scan.count + 1

theorem exists_advances (h : sub.advance? scan = some next) : ∃ gap, sub.Advances scan gap next := by
  obtain ⟨⟨gap, rest⟩, hcut, rfl⟩ := Option.map_eq_some_iff.mp h
  obtain ⟨hrest, hfirst⟩ := cut?_eq_some_iff.mp hcut
  refine ⟨gap, hrest, hfirst, ?_, rfl⟩
  simp [Scan.written, List.reverseAux_eq]

/-- A scan of `list` has copied `front`, and there it would restart. -/
structure Stands (sub : Substitution α) (list : List α) (scan : Scan α) (front : List α) : Prop where
  list_eq : list = front ++ scan.rest
  restarts : sub.RestartsBehind front
  written_eq : scan.written = (sub.apply front).output
  count_eq : scan.count = (sub.apply front).count

theorem stands_start (list : List α) : sub.Stands list (.start list) [] where
  list_eq := rfl
  restarts := restartsBehind_nil
  written_eq := by rw [apply_nil]; rfl
  count_eq := by rw [apply_nil]; rfl

namespace Stands

theorem copied_eq (h : sub.Stands list scan front) : scan.copied list = front.length := by
  rw [h.list_eq, Scan.copied_append]

theorem list_eq_of_advances (h : sub.Stands list scan front) (advances : sub.Advances scan gap next) :
    list = front ++ (gap ++ (sub.pattern ++ next.rest)) := by
  rw [h.list_eq, advances.rest_eq]

/-- Behind an occurrence that it replaces a scan would restart. -/
theorem advance (h : sub.Stands list scan front) (advances : sub.Advances scan gap next) :
    sub.Stands list next (front ++ (gap ++ sub.pattern)) where
  list_eq := by simp only [h.list_eq_of_advances advances, List.append_assoc]
  restarts := h.restarts.append advances.first
  written_eq := by rw [advances.written_eq, h.written_eq, h.restarts.apply_append advances.first]
  count_eq := by rw [advances.count_eq, h.count_eq, h.restarts.apply_append advances.first]

theorem replaces (h : sub.Stands list scan front) (advances : sub.Advances scan gap next) :
    sub.Replaces list scan (front.length + gap.length) next where
  copied_le := by
    rw [h.copied_eq]
    exact Nat.le_add_right _ _
  add_length_le := by
    simp only [h.list_eq_of_advances advances, List.length_append]
    omega
  occurs := by
    rw [h.list_eq_of_advances advances, occursAt_append_iff, ← Nat.add_zero gap.length,
      occursAt_append_iff]
    exact List.prefix_append _ _
  first := by
    intro other hle hoccurs
    rw [h.copied_eq] at hle
    obtain ⟨behind, rfl⟩ := Nat.exists_eq_add_of_le hle
    rw [h.list_eq_of_advances advances, occursAt_append_iff] at hoccurs
    exact Nat.add_le_add_left (advances.first.length_le_of_occursAt hoccurs) front.length
  written_eq := by
    refine ⟨gap, ?_, ?_⟩
    · rw [h.copied_eq, h.list_eq_of_advances advances]
      exact slice?_append front gap _
    · rw [advances.written_eq, List.append_assoc]
  copied_eq := by
    rw [(h.advance advances).copied_eq, List.length_append, List.length_append, Nat.add_assoc]
  count_eq := advances.count_eq

theorem covers (h : sub.Stands list scan front) : sub.Covers list scan := by
  have hfront : list.take (scan.copied list) = front := by
    rw [h.copied_eq, h.list_eq, List.take_left]
  refine
    { rest_eq := ?_
      written_eq := ?_
      count_eq := ?_ }
  · have hslice := slice?_append front scan.rest []
    rw [List.append_nil, ← h.list_eq, ← List.length_append, ← h.list_eq] at hslice
    rw [h.copied_eq, hslice]
  · rw [hfront, h.written_eq]
  · rw [hfront, h.count_eq]

/-- When no occurrence is left, the rest of the list is copied. -/
theorem apply_eq (h : sub.Stands list scan front) (hnone : sub.advance? scan = none) :
    sub.apply list = { output := scan.written ++ scan.rest, count := scan.count } := by
  have hrest := sub.apply_eq_self (advance?_eq_none_iff.mp hnone)
  rw [h.list_eq, h.restarts, hrest, ← h.written_eq, ← h.count_eq]
  rfl

end Stands

/-! ## The scans of a list -/

namespace Reached

/-- Every replacement leaves the scan at a place where it would restart. -/
theorem stands (h : sub.Reached list scan) : ∃ front, sub.Stands list scan front := by
  induction h with
  | start => exact ⟨[], stands_start list⟩
  | advance _ hadvance ih =>
    obtain ⟨front, hstands⟩ := ih
    obtain ⟨gap, advances⟩ := exists_advances hadvance
    exact ⟨front ++ (gap ++ sub.pattern), hstands.advance advances⟩

theorem finish (h : sub.Reached list scan) : sub.Reached list (sub.finish scan) := by
  fun_induction Substitution.finish sub scan with
  | case1 scan hnone => exact h
  | case2 scan next hadvance ih => exact ih (.advance h hadvance)

end Reached

theorem advance?_finish (scan : Scan α) : sub.advance? (sub.finish scan) = none := by
  fun_induction finish sub scan with
  | case1 scan hnone => exact hnone
  | case2 scan next hadvance ih => exact ih

end Substitution

open Substitution

/-- **The loop over the occurrences.** Each time the scan of a line looks for the next occurrence, it has copied
up to some place in the line, and has put out and counted what the rule makes of the part in front of it. If an
occurrence is left, the scan goes on behind the first one, which begins at that place or behind and ends in the
line. If none is left, the rest of the line is put out as it is. The scan always comes to its end. -/
theorem apply_loop (rule : Rule) (line : Bytes) :
    let sub := rule.onBytes
    (∀ scan, sub.Reached line scan →
        sub.Covers line scan ∧
          match sub.advance? scan with
          | some next => sub.Covers line next ∧ ∃ place, sub.Replaces line scan place next
          | none => rule.apply line = { output := scan.written ++ scan.rest, count := scan.count }) ∧
      ∃ last, sub.Reached line last ∧ sub.advance? last = none := by
  intro sub
  refine ⟨?_, sub.finish (.start line), .finish .start, advance?_finish _⟩
  intro scan hreached
  obtain ⟨front, hstands⟩ := hreached.stands
  refine ⟨hstands.covers, ?_⟩
  split
  next next hnext =>
    obtain ⟨gap, advances⟩ := exists_advances hnext
    exact ⟨(hstands.advance advances).covers, _, hstands.replaces advances⟩
  next hnone => exact hstands.apply_eq hnone

/-- The pattern occurs at 0, 2 and 5. Behind the occurrence at 0 the one at 2 has begun already, so the next is
replaced at 5. -/
theorem apply_loop_overlapping :
    let rule : Rule := ⟨"aba", "x", by decide⟩
    let line := utf8 "ababaaba"
    let scan : Scan UInt8 := { passed := utf8 "x", rest := utf8 "baaba", count := 1 }
    let next : Scan UInt8 := { passed := utf8 "xabx", rest := [], count := 2 }
    rule.onBytes.Reached line scan ∧ rule.onBytes.advance? scan = some next ∧ scan.copied line = 3 ∧
      rule.onBytes.Covers line scan ∧ rule.onBytes.Covers line next ∧
      rule.onBytes.Replaces line scan 5 next := by
  intro rule line scan next
  have hfirst : rule.onBytes.advance? (.start line) = some scan := by decide +kernel
  have hnext : rule.onBytes.advance? scan = some next := by decide +kernel
  have hreached : rule.onBytes.Reached line scan := .advance .start hfirst
  have hloop := (apply_loop rule line).1 scan hreached
  simp only [hnext] at hloop
  obtain ⟨hcovers, hcovers', place, hreplaces⟩ := hloop
  have hcopied : next.copied line = 5 + rule.onBytes.pattern.length := by decide +kernel
  obtain rfl : place = 5 := Nat.add_right_cancel (hreplaces.copied_eq.symm.trans hcopied)
  exact ⟨hreached, hnext, by decide +kernel, hcovers, hcovers', hreplaces⟩

end LinePatch
