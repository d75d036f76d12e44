import LinePatch.Proofs.Substitution.Gaps
import LinePatch.Proofs.Substitution.Leftmost
import LinePatch.Rule

/-!
# Greedy cuts

Where occurrences of a pattern overlap, a list can be cut at them in several ways. A cut is greedy if behind
each gap stands the first occurrence that begins in the gap or at its end, and the last gap contains none.
Every list has exactly one greedy cut. It is the one that a substitution makes, so what takes the place of
the pattern has no influence on where it is found.

## Main definitions

* `GreedyCut`: the gaps of a list that is cut greedily

## Main results

* `cut?_eq_some_iff`, `cut?_eq_none_iff`: the first occurrence of a list in another
* `Substitution.greedyCut_iff`: the gaps of a substitution are those of the greedy cut
* `existsUnique_greedyCut`: a rule puts its replacement between the gaps of the only greedy cut
-/

namespace LinePatch

variable {α : Type}

/-! ## The first occurrence -/

section First

variable {p gap rest s : List α} {a : α}

/-- Only what stands before the end of an occurrence decides whether it is the first. -/
theorem FirstAt.withRest (h : FirstAt p gap rest) (other : List α) : FirstAt p gap other := by
  intro before after hequal
  by_contra hlt
  have hlen : (before ++ p).length ≤ (gap ++ p).length := by
    simp only [List.length_append]
    omega
  rw [← List.append_assoc, ← List.append_assoc] at hequal
  have hleft : before ++ p <+: gap ++ p ++ other := ⟨after, hequal.symm⟩
  obtain ⟨more, hmore⟩ := List.prefix_of_prefix_length_le hleft (List.prefix_append _ other) hlen
  refine hlt (h before (more ++ rest) ?_)
  rw [← List.append_assoc, ← hmore, List.append_assoc, List.append_assoc]

theorem FirstAt.tail (h : FirstAt p (a :: gap) rest) : FirstAt p gap rest := by
  intro before after hequal
  have hle := h (a :: before) after (by rw [List.cons_append, List.cons_append, hequal])
  exact Nat.le_of_succ_le_succ hle

theorem FirstAt.not_prefix (h : FirstAt p (a :: gap) rest) : ¬ p <+: a :: (gap ++ (p ++ rest)) := by
  rintro ⟨after, hafter⟩
  have hle := h [] after (by rw [List.nil_append, hafter, List.cons_append])
  exact Nat.not_succ_le_zero gap.length hle

variable [DecidableEq α]

theorem cut?_of_firstAt (h : FirstAt p gap rest) : cut? p (gap ++ (p ++ rest)) = some (gap, rest) := by
  induction gap with
  | nil => exact cut?_append p rest
  | cons a gap ih =>
    rw [List.cons_append, cut?_cons h.not_prefix, ih h.tail]
    rfl

/-- A list that occurs in another has a first occurrence there. -/
theorem exists_firstAt_of_infix (h : p <:+: s) : ∃ gap rest, s = gap ++ (p ++ rest) ∧ FirstAt p gap rest := by
  induction s with
  | nil =>
    rw [List.infix_nil.mp h]
    exact ⟨[], [], rfl, .nil [] []⟩
  | cons a s ih =>
    by_cases hp : p <+: a :: s
    · obtain ⟨rest, hrest⟩ := hp
      exact ⟨[], rest, hrest.symm, .nil p rest⟩
    · obtain ⟨gap, rest, rfl, hfirst⟩ := ih ((List.infix_cons_iff.mp h).resolve_left hp)
      exact ⟨a :: gap, rest, rfl, hfirst.cons hp⟩

/-- A list is cut at the first occurrence of another, wherever that is. -/
theorem cut?_eq_some_iff : cut? p s = some (gap, rest) ↔ s = gap ++ (p ++ rest) ∧ FirstAt p gap rest := by
  constructor
  · intro h
    have hs := eq_append_of_cut? h
    obtain ⟨gap', rest', rfl, hfirst⟩ := exists_firstAt_of_infix ⟨gap, rest, hs.symm⟩
    rw [cut?_of_firstAt hfirst] at h
    cases h
    exact ⟨rfl, hfirst⟩
  · rintro ⟨rfl, h⟩
    exact cut?_of_firstAt h

theorem cut?_eq_none_iff : cut? p s = none ↔ ¬ p <:+: s := by
  constructor
  · intro h hp
    obtain ⟨gap, rest, rfl, hfirst⟩ := exists_firstAt_of_infix hp
    rw [cut?_of_firstAt hfirst] at h
    cases h
  · intro h
    rw [Option.eq_none_iff_forall_ne_some]
    rintro ⟨gap, rest⟩ hcut
    exact h ⟨gap, rest, (eq_append_of_cut? hcut).symm⟩

end First

/-! ## Greedy cuts -/

/-- `gaps` are what is left of `list` when it is cut at occurrences of `p`, in order and each at the first
place where `p` occurs. In `gap ++ p`, which may hold several occurrences, the first stands behind the gap. -/
structure GreedyCut (p list : List α) (gaps : List (List α)) : Prop where
  ne_nil : gaps ≠ []
  intercalate_eq : p.intercalate gaps = list
  first : ∀ gap ∈ gaps.dropLast, FirstAt p gap []
  last : ∀ gap ∈ gaps.getLast?, ¬ p <:+: gap

section Cut

variable {p gap rest : List α} {gaps : List (List α)}

theorem greedyCut_singleton (h : ¬ p <:+: gap) : GreedyCut p gap [gap] where
  ne_nil := List.cons_ne_nil gap []
  intercalate_eq := List.intercalate_singleton
  first := by simp
  last := by simpa using h

theorem GreedyCut.cons (h : GreedyCut p rest gaps) (hfirst : FirstAt p gap rest) :
    GreedyCut p (gap ++ (p ++ rest)) (gap :: gaps) where
  ne_nil := List.cons_ne_nil gap gaps
  intercalate_eq := by
    rw [List.intercalate_cons_of_ne_nil h.ne_nil, h.intercalate_eq, List.append_assoc]
  first := by
    rw [List.dropLast_cons_of_ne_nil h.ne_nil, List.forall_mem_cons]
    exact ⟨hfirst.withRest [], h.first⟩
  last := by
    rw [List.getLast?_cons_of_ne_nil h.ne_nil]
    exact h.last

end Cut

namespace Substitution

variable [DecidableEq α] (sub : Substitution α)

theorem greedyCut_gaps (list : List α) : GreedyCut sub.pattern list (sub.gaps list) := by
  fun_induction gaps sub list with
  | case1 list hcut => exact greedyCut_singleton (cut?_eq_none_iff.mp hcut)
  | case2 list gap rest hcut ih =>
    obtain ⟨rfl, hfirst⟩ := cut?_eq_some_iff.mp hcut
    exact ih.cons hfirst

theorem gaps_of_cut?_eq_none {list : List α} (h : cut? sub.pattern list = none) :
    sub.gaps list = [list] := by
  rw [gaps]
  split <;> simp_all

theorem gaps_of_cut?_eq_some {list gap rest : List α} (h : cut? sub.pattern list = some (gap, rest)) :
    sub.gaps list = gap :: sub.gaps rest := by
  rw [gaps]
  split <;> simp_all

/-- The greedy cut of a list is the one that a substitution makes. -/
theorem greedyCut_iff {list : List α} {gaps : List (List α)} :
    GreedyCut sub.pattern list gaps ↔ gaps = sub.gaps list := by
  constructor
  · intro h
    obtain ⟨hne, rfl, hfirst, hlast⟩ := h
    induction gaps with
    | nil => exact absurd rfl hne
    | cons gap gaps ih =>
      rcases eq_or_ne gaps [] with rfl | hgaps
      · rw [List.intercalate_singleton, gaps_of_cut?_eq_none]
        exact cut?_eq_none_iff.mpr (hlast gap rfl)
      · rw [List.dropLast_cons_of_ne_nil hgaps, List.forall_mem_cons] at hfirst
        rw [List.getLast?_cons_of_ne_nil hgaps] at hlast
        have hcut := cut?_of_firstAt (hfirst.1.withRest (sub.pattern.intercalate gaps))
        rw [List.intercalate_cons_of_ne_nil hgaps, List.append_assoc, sub.gaps_of_cut?_eq_some hcut,
          ← ih hgaps hfirst.2 hlast]
  · rintro rfl
    exact sub.greedyCut_gaps list

end Substitution

/-- **Greedy replacement.** A line is cut greedily at a pattern in exactly one way. A rule with that pattern
puts its replacement between the gaps of this cut, and replaces as many occurrences as there are places
between them; what it puts there, or forms with its neighbours, is not looked at again. The line is handed
back untouched exactly if it is its own only gap, that is, if the pattern does not occur in it. -/
theorem existsUnique_greedyCut (pattern : String) (hpattern : pattern ≠ "") (line : Bytes) :
    (∃! gaps, GreedyCut (utf8 pattern) line gaps) ∧
      ∀ gaps, GreedyCut (utf8 pattern) line gaps → ∀ replacement : String,
        let patched := (Rule.mk pattern replacement hpattern).apply line
        patched.output = (utf8 replacement).intercalate gaps ∧
          gaps.length = patched.count + 1 ∧
          (patched.untouched ↔ gaps = [line]) ∧
          (patched.untouched ↔ ¬ utf8 pattern <:+: line) := by
  have hcut (replacement : String) {gaps : List Bytes} :
      GreedyCut (utf8 pattern) line gaps ↔ gaps = (Rule.mk pattern replacement hpattern).onBytes.gaps line :=
    (Rule.mk pattern replacement hpattern).onBytes.greedyCut_iff
  refine ⟨⟨_, (hcut "").mpr rfl, fun gaps h => (hcut "").mp h⟩, ?_⟩
  intro gaps hgreedy replacement patched
  obtain rfl := (hcut replacement).mp hgreedy
  let sub := (Rule.mk pattern replacement hpattern).onBytes
  have huntouched : patched.untouched ↔ (sub.apply line).count = 0 := beq_iff_eq
  refine ⟨?_, sub.length_gaps line, ?_, huntouched.trans sub.count_eq_zero_iff⟩
  · exact congrArg Patched.output (sub.apply_eq_intercalate line)
  · rw [huntouched, sub.count_eq_zero_iff]
    constructor
    · intro h
      exact sub.gaps_of_cut?_eq_none (cut?_eq_none_iff.mpr h)
    · intro h
      exact hgreedy.last line (by rw [h]; rfl)

/-- The pattern overlaps itself; then its replacement contains it, and forms it with what stands behind. -/
theorem existsUnique_greedyCut_overlapping :
    let pattern := "aba"
    let line := utf8 "ababaaba"
    let gaps := [[], utf8 "ba", []]
    let patched (replacement : String) := (Rule.mk pattern replacement (by decide)).apply line
    pattern ≠ "" ∧ GreedyCut (utf8 pattern) line gaps ∧
      (∀ other, GreedyCut (utf8 pattern) line other → other = gaps) ∧
      patched "xabax" = { output := utf8 "xabaxbaxabax", count := 2 } ∧
      patched "a" = { output := utf8 "abaa", count := 2 } := by
  intro pattern line gaps patched
  have hpattern : pattern ≠ "" := by decide
  have hgreedy : GreedyCut (utf8 pattern) line gaps :=
    (Rule.mk pattern "" (by decide)).onBytes.greedyCut_iff.mpr (by decide +kernel)
  obtain ⟨⟨_, -, hunique⟩, hpatched⟩ := existsUnique_greedyCut pattern hpattern line
  refine ⟨hpattern, hgreedy, ?_, ?_, ?_⟩
  · intro other hother
    exact (hunique other hother).trans (hunique gaps hgreedy).symm
  · obtain ⟨houtput, hcount, -⟩ := hpatched gaps hgreedy "xabax"
    exact congrArg₂ Patched.mk houtput (Nat.succ.inj hcount).symm
  · obtain ⟨houtput, hcount, -⟩ := hpatched gaps hgreedy "a"
    exact congrArg₂ Patched.mk houtput (Nat.succ.inj hcount).symm

end LinePatch
