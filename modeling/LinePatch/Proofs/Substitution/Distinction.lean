import LinePatch.Proofs.Bytes.Utf8
import LinePatch.Proofs.Lengths

/-!
# What tells rules apart

Two rules that differ are told apart by what they do to the shorter of their patterns: the rule with this
pattern replaces it once, and the other rule either puts something else in its place or does not find its own
pattern there. So rules that treat all lines alike are equal. The outputs alone do not tell as much: a rule
that puts its pattern in its own place changes nothing, whatever the pattern is.

## Main definitions

* `Rule.AgreeOn`: two rules treat a line alike

## Main results

* `Substitution.apply_pattern_ne`: the shorter pattern tells two substitutions apart
* `Substitution.forall_output_eq_iff`: what the outputs alone tell
* `beq_iff_agreeOn`: rules are equal exactly if they agree on every line
-/

namespace LinePatch

namespace Substitution

variable {α : Type} [DecidableEq α]

/-- In the pattern itself one occurrence is replaced. -/
theorem apply_pattern (sub : Substitution α) :
    sub.apply sub.pattern = { output := sub.replacement, count := 1 } := by
  have happly := sub.apply_pattern_append []
  rwa [List.append_nil, apply_nil, List.append_nil] at happly

variable {sub other : Substitution α}

/-- Another pattern that is not longer is too short for an occurrence. -/
theorem apply_pattern_eq_self (hne : sub.pattern ≠ other.pattern)
    (hle : sub.pattern.length ≤ other.pattern.length) :
    other.apply sub.pattern = { output := sub.pattern, count := 0 } := by
  refine other.apply_eq_self ?_
  intro hoccurs
  exact hne (hoccurs.eq_of_length_le hle).symm

/-- The shorter of two patterns tells two substitutions apart. -/
theorem apply_pattern_ne (hne : sub.pattern = other.pattern → sub.replacement ≠ other.replacement)
    (hle : sub.pattern.length ≤ other.pattern.length) :
    sub.apply sub.pattern ≠ other.apply sub.pattern := by
  rw [apply_pattern]
  by_cases hpattern : sub.pattern = other.pattern
  · rw [hpattern, apply_pattern]
    intro hsame
    exact hne hpattern (congrArg Patched.output hsame)
  · rw [apply_pattern_eq_self hpattern hle]
    intro hsame
    exact Nat.one_ne_zero (congrArg Patched.count hsame)

/-- Substitutions that find different patterns, but give the same outputs, change nothing at all. -/
theorem replacement_eq_pattern (hne : sub.pattern ≠ other.pattern)
    (hle : sub.pattern.length ≤ other.pattern.length)
    (h : ∀ list, (sub.apply list).output = (other.apply list).output) :
    sub.replacement = sub.pattern ∧ other.replacement = other.pattern := by
  have hsub : sub.replacement = sub.pattern := by
    have hshorter := h sub.pattern
    rwa [apply_pattern, apply_pattern_eq_self hne hle] at hshorter
  have hlonger := h other.pattern
  rw [sub.output_eq_self hsub, apply_pattern] at hlonger
  exact ⟨hsub, hlonger.symm⟩

/-- The outputs tell two substitutions apart, unless neither of them changes anything. -/
theorem forall_output_eq_iff :
    (∀ list, (sub.apply list).output = (other.apply list).output) ↔
      sub.pattern = other.pattern ∧ sub.replacement = other.replacement ∨
        sub.replacement = sub.pattern ∧ other.replacement = other.pattern := by
  constructor
  · intro h
    by_cases hpattern : sub.pattern = other.pattern
    · have hreplaced := h sub.pattern
      rw [apply_pattern, hpattern, apply_pattern] at hreplaced
      exact .inl ⟨hpattern, hreplaced⟩
    · rcases Nat.le_total sub.pattern.length other.pattern.length with hle | hle
      · exact .inr (replacement_eq_pattern hpattern hle h)
      · exact .inr (replacement_eq_pattern (Ne.symm hpattern) hle fun list => (h list).symm).symm
  · rintro (⟨hpattern, hreplacement⟩ | ⟨hsub, hother⟩) list
    · obtain ⟨pattern, replacement, hne⟩ := sub
      subst hpattern hreplacement
      rfl
    · rw [sub.output_eq_self hsub, other.output_eq_self hother]

end Substitution

namespace Rule

/-- Two rules treat a line alike: they give the same output, replace as many occurrences, and either both
hand the line back untouched or neither does. -/
structure AgreeOn (rule other : Rule) (line : Bytes) : Prop where
  output_eq : (rule.apply line).output = (other.apply line).output
  count_eq : (rule.apply line).count = (other.apply line).count
  untouched_eq : (rule.apply line).untouched = (other.apply line).untouched

variable {rule other : Rule}

theorem agreeOn_iff {line : Bytes} : rule.AgreeOn other line ↔ rule.apply line = other.apply line := by
  constructor
  · rintro ⟨houtput, hcount, -⟩
    exact congrArg₂ Patched.mk houtput hcount
  · intro h
    exact ⟨congrArg Patched.output h, congrArg Patched.count h, congrArg Patched.untouched h⟩

theorem AgreeOn.refl (rule : Rule) (line : Bytes) : rule.AgreeOn rule line :=
  agreeOn_iff.mpr rfl

theorem AgreeOn.symm {line : Bytes} (h : rule.AgreeOn other line) : other.AgreeOn rule line :=
  agreeOn_iff.mpr (agreeOn_iff.mp h).symm

/-- A text is known by its bytes, and so is a rule. -/
theorem eq_iff_onBytes : rule = other ↔
    rule.onBytes.pattern = other.onBytes.pattern ∧ rule.onBytes.replacement = other.onBytes.replacement := by
  obtain ⟨pattern, replacement, hpattern⟩ := rule
  obtain ⟨pattern', replacement', hpattern'⟩ := other
  simp only [onBytes, utf8_injective.eq_iff, mk.injEq]

theorem not_agreeOn_pattern (hne : rule ≠ other)
    (hle : (utf8 rule.pattern).length ≤ (utf8 other.pattern).length) :
    ¬ rule.AgreeOn other (utf8 rule.pattern) := by
  rw [agreeOn_iff]
  refine Substitution.apply_pattern_ne ?_ hle
  intro hpattern hreplacement
  exact hne (eq_iff_onBytes.mpr ⟨hpattern, hreplacement⟩)

/-- Rules that differ do not agree on the shorter of their patterns. -/
theorem exists_not_agreeOn (hne : rule ≠ other) :
    ∃ line, (line = utf8 rule.pattern ∨ line = utf8 other.pattern) ∧
      line.length ≤ min (utf8 rule.pattern).length (utf8 other.pattern).length ∧
      ¬ rule.AgreeOn other line := by
  rcases Nat.le_total (utf8 rule.pattern).length (utf8 other.pattern).length with hle | hle
  · exact ⟨_, .inl rfl, Nat.le_min.mpr ⟨Nat.le_refl _, hle⟩, not_agreeOn_pattern hne hle⟩
  · have hother := not_agreeOn_pattern (Ne.symm hne) hle
    exact ⟨_, .inr rfl, Nat.le_min.mpr ⟨hle, Nat.le_refl _⟩, mt AgreeOn.symm hother⟩

/-- The outputs tell two rules apart, unless neither of them changes anything. -/
theorem forall_output_eq_iff :
    (∀ line, (rule.apply line).output = (other.apply line).output) ↔
      rule = other ∨ rule.replacement = rule.pattern ∧ other.replacement = other.pattern := by
  rw [eq_iff_onBytes, ← utf8_injective.eq_iff, ← utf8_injective.eq_iff (a := other.replacement)]
  exact Substitution.forall_output_eq_iff

end Rule

/-- **Equality of rules.** Two rules are equal exactly if they agree on every line. If they are not, they
disagree on a line that is one of their patterns, and longer than neither. The outputs alone tell them apart
unless each of the rules puts its pattern in its own place. -/
theorem beq_iff_agreeOn (rule other : Rule) :
    (rule == other ↔ ∀ line, rule.AgreeOn other line) ∧
      (rule != other ↔ ∃ line, (line = utf8 rule.pattern ∨ line = utf8 other.pattern) ∧
        line.length ≤ min (utf8 rule.pattern).length (utf8 other.pattern).length ∧
        ¬ rule.AgreeOn other line) ∧
      ((∀ line, (rule.apply line).output = (other.apply line).output) ↔
        rule == other ∨ rule.replacement = rule.pattern ∧ other.replacement = other.pattern) := by
  rw [beq_iff_eq, bne_iff_ne]
  refine ⟨⟨?_, ?_⟩, ⟨Rule.exists_not_agreeOn, ?_⟩, Rule.forall_output_eq_iff⟩
  · rintro rfl
    exact Rule.AgreeOn.refl rule
  · intro h
    by_contra hne
    obtain ⟨line, -, -, hline⟩ := Rule.exists_not_agreeOn hne
    exact hline (h line)
  · rintro ⟨line, -, -, hline⟩ rfl
    exact hline (.refl rule line)

/-- Of two rules that change nothing, the counts are all that tells them apart. -/
example :
    let rule : Rule := ⟨"b", "b", by decide⟩
    let other : Rule := ⟨"abc", "abc", by decide⟩
    rule.apply (utf8 "b") = { output := utf8 "b", count := 1 } ∧
      other.apply (utf8 "b") = { output := utf8 "b", count := 0 } := by
  decide +kernel

end LinePatch
