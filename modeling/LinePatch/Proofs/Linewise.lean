import LinePatch.Pass
import LinePatch.Proofs.Bytes.Lines
import LinePatch.Proofs.Substitution.Scan
import Mathlib.Algebra.GroupWithZero.Nat

/-!
# Rules over lines

A pass applies a rule to one line after another. `Rule.patched` is what becomes of the lines and
`Rule.tally` what a pass counts in them. Where a line break in the pattern can only be its last byte, no
occurrence of the pattern crosses the end of a line, so the lines are patched as the whole is. Where a
line break stands elsewhere in the pattern, no line contains the pattern.

## Main definitions

* `Rule.patched`: lines after a rule has been applied to each of them
* `Rule.tally`: the counts of a pass over lines

## Main results

* `Rule.tally_concat`, `Rule.patched_concat`: what one more line adds
* `Rule.tally_append`, `Rule.patched_append`: lines in a row
* `Rule.apply_eq_of_newline_notMem`: the lines are patched as the whole is
* `Rule.patched_eq_flatten`, `Rule.tally_eq_length`: lines without the pattern stay as they are
* `Rule.not_infix_of_newline_mem`: no line contains a pattern with an earlier line break
-/

namespace LinePatch

namespace Rule

variable (rule : Rule)

/-- The lines, after the rule has been applied to each of them. -/
def patched (lines : List Bytes) : Bytes :=
  lines.flatMap fun line => (rule.apply line).output

/-- What a pass counts in lines: the lines, those that contain the pattern, and the replacements. -/
def tally (lines : List Bytes) : Summary where
  lines := lines.length
  changedLines := lines.countP fun line => rule.onBytes.pattern <:+: line
  replacements := (lines.map fun line => (rule.apply line).count).sum

@[simp] theorem patched_nil : rule.patched [] = [] := rfl

@[simp] theorem tally_nil : rule.tally [] = {} := rfl

theorem patched_cons (line : Bytes) (lines : List Bytes) :
    rule.patched (line :: lines) = (rule.apply line).output ++ rule.patched lines := rfl

theorem patched_append (lines more : List Bytes) :
    rule.patched (lines ++ more) = rule.patched lines ++ rule.patched more :=
  List.flatMap_append

theorem patched_concat (lines : List Bytes) (line : Bytes) :
    rule.patched (lines ++ [line]) = rule.patched lines ++ (rule.apply line).output := by
  rw [patched_append, patched_cons, patched_nil, List.append_nil]

theorem count_apply_eq_zero_iff {line : Bytes} :
    (rule.apply line).count = 0 ↔ ¬ rule.onBytes.pattern <:+: line :=
  rule.onBytes.count_eq_zero_iff

theorem tally_concat (lines : List Bytes) (line : Bytes) :
    rule.tally (lines ++ [line]) = (rule.tally lines).addLine (rule.apply line).count := by
  by_cases h : rule.onBytes.pattern <:+: line
  · have hcount : (rule.apply line).count ≠ 0 := fun hz => rule.count_apply_eq_zero_iff.mp hz h
    simp [tally, Summary.addLine, List.countP_append, h, hcount]
  · have hcount : (rule.apply line).count = 0 := rule.count_apply_eq_zero_iff.mpr h
    simp [tally, Summary.addLine, List.countP_append, h, hcount]

/-- The counts of lines in a row are the sums of their counts. -/
theorem tally_append (lines more : List Bytes) :
    rule.tally (lines ++ more) =
      { lines := (rule.tally lines).lines + (rule.tally more).lines
        changedLines := (rule.tally lines).changedLines + (rule.tally more).changedLines
        replacements := (rule.tally lines).replacements + (rule.tally more).replacements } := by
  simp only [tally, List.length_append, List.countP_append, List.map_append, List.sum_append]

/-! ## Patterns in which a line break can only be the last byte -/

section Within

variable {rule}

/-- No occurrence of such a pattern crosses the end of a line. -/
theorem prefix_of_prefix_append (hpattern : newline ∉ rule.onBytes.pattern.dropLast)
    {head rest t : Bytes} (ht : t <:+ head ++ [newline]) (hne : t ≠ [])
    (hp : rule.onBytes.pattern <+: t ++ rest) : rule.onBytes.pattern <+: t := by
  rcases List.prefix_or_prefix_of_prefix hp (List.prefix_append t rest) with h | ⟨more, hmore⟩
  · exact h
  · rcases List.suffix_concat_iff.mp ht with rfl | ⟨s, rfl, -⟩
    · exact absurd rfl hne
    · rcases eq_or_ne more [] with rfl | hmore'
      · rw [← hmore, List.append_nil]
      · rw [← hmore, List.dropLast_append_of_ne_nil hmore'] at hpattern
        exact absurd (by simp) hpattern

/-- The lines of a byte string are patched as the whole is. -/
theorem apply_eq_of_newline_notMem (hpattern : newline ∉ rule.onBytes.pattern.dropLast)
    (bytes : Bytes) :
    rule.apply bytes =
      { output := rule.patched (Bytes.lines bytes)
        count := (rule.tally (Bytes.lines bytes)).replacements } := by
  induction bytes using Bytes.linesInduction with
  | nil => exact rule.onBytes.apply_nil
  | last line hline hne => simp [Bytes.lines_of_newline_notMem hline hne, patched, tally]
  | cons head rest hhead ih =>
    have happend := rule.onBytes.apply_append (a := head ++ [newline]) (b := rest)
      fun t ht hne hp => prefix_of_prefix_append hpattern ht hne hp
    rw [Bytes.lines_cons_line hhead, apply, happend]
    change Patched.mk (_ ++ (rule.apply rest).output) (_ + (rule.apply rest).count) = _
    rw [ih]
    rfl

end Within

/-! ## Patterns with an earlier line break -/

section Across

variable {rule}

theorem apply_eq_self {line : Bytes} (h : ¬ rule.onBytes.pattern <:+: line) :
    rule.apply line = { output := line, count := 0 } :=
  rule.onBytes.apply_eq_self h

theorem patched_eq_flatten {lines : List Bytes}
    (h : ∀ line ∈ lines, ¬ rule.onBytes.pattern <:+: line) : rule.patched lines = lines.flatten := by
  have houtputs : lines.map (fun line => (rule.apply line).output) = lines.map id := by
    refine List.map_congr_left ?_
    intro line hline
    rw [apply_eq_self (h line hline), id]
  rw [patched, List.flatMap_def, houtputs, List.map_id]

theorem tally_eq_length {lines : List Bytes}
    (h : ∀ line ∈ lines, ¬ rule.onBytes.pattern <:+: line) :
    rule.tally lines = { lines := lines.length } := by
  have hchanged : lines.countP (fun line => rule.onBytes.pattern <:+: line) = 0 :=
    List.countP_eq_zero.mpr (by simpa using h)
  have hcounts : lines.map (fun line => (rule.apply line).count) = lines.map fun _ => 0 := by
    refine List.map_congr_left ?_
    intro line hline
    rw [apply_eq_self (h line hline)]
  simp [tally, hchanged, hcounts]

/-- No line contains such a pattern. -/
theorem not_infix_of_newline_mem (hpattern : newline ∈ rule.onBytes.pattern.dropLast)
    {bytes line : Bytes} (hline : line ∈ Bytes.lines bytes) : ¬ rule.onBytes.pattern <:+: line := by
  intro h
  exact Bytes.newline_notMem_dropLast_of_mem_lines hline (Bytes.mem_dropLast_of_infix h hpattern)

end Across

end Rule

end LinePatch
