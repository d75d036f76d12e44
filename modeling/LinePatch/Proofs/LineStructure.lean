import LinePatch.Proofs.Linewise

/-!
# Rules that keep the lines

A rule with a line break neither in its pattern nor in its replacement keeps the lines of an input apart
and whole: a line that ended with a line break still does, and no line is cut in two. Only the last line
can be lost, if the rule has no replacement and the line is the pattern over and over, without a line
break behind it.

## Main definitions

* `Rule.Erases`: a rule leaves nothing of a line

## Main results

* `Rule.lines_patched`: the lines of patched lines are these, without those that are lost
* `Rule.newline_suffix_output_iff`: a line ends with a line break if it did before
* `Rule.tally_map`: lines in which equally many occurrences are replaced are counted equally
-/

namespace LinePatch

namespace Rule

variable {rule : Rule}

/-- The rule leaves nothing of a line: it has no replacement, and the line is the pattern once or more. -/
def Erases (rule : Rule) (line : Bytes) : Prop :=
  rule.replacement = "" ∧ ∃ n, line = (List.replicate (n + 1) (utf8 rule.pattern)).flatten

theorem output_eq_nil_iff_erases {line : Bytes} (hne : line ≠ []) :
    (rule.apply line).output = [] ↔ rule.Erases line := by
  refine rule.onBytes.output_eq_nil_iff.trans ?_
  rw [or_iff_right hne]
  exact and_congr_left' utf8_eq_nil_iff

/-! ## One line -/

section Line

theorem apply_nil (rule : Rule) : rule.apply [] = { output := [], count := 0 } :=
  rule.onBytes.apply_nil

/-- A byte that the pattern does not contain stays where it is. -/
theorem apply_append_cons {b : UInt8} (hb : b ∉ rule.onBytes.pattern) (head tail : Bytes) :
    rule.apply (head ++ b :: tail) =
      { output := (rule.apply head).output ++ b :: (rule.apply tail).output
        count := (rule.apply head).count + (rule.apply tail).count } :=
  rule.onBytes.apply_append_cons hb head tail

variable (hpattern : newline ∉ rule.onBytes.pattern)

include hpattern

/-- The line break at the end of a line stays. -/
theorem apply_concat_newline (head : Bytes) :
    rule.apply (head ++ [newline]) =
      { output := (rule.apply head).output ++ [newline], count := (rule.apply head).count } := by
  rw [apply_append_cons hpattern, apply_nil, Nat.add_zero]

/-- A byte in front of the last line break stays there, if the pattern does not contain it. -/
theorem pair_suffix_output {b : UInt8} (hb : b ∉ rule.onBytes.pattern) {line : Bytes}
    (h : [b, newline] <:+ line) : [b, newline] <:+ (rule.apply line).output := by
  obtain ⟨head, rfl⟩ := h
  have hnewline : (rule.apply [newline]).output = [newline] := by
    rw [← List.nil_append [newline], apply_concat_newline hpattern, apply_nil]
  rw [apply_append_cons hb, hnewline]
  exact List.suffix_append _ _

theorem newline_notMem_of_erases {line : Bytes} (h : rule.Erases line) : newline ∉ line := by
  obtain ⟨-, n, rfl⟩ := h
  intro hmem
  obtain ⟨part, hpart, hnewline⟩ := List.mem_flatten.mp hmem
  rw [List.eq_of_mem_replicate hpart] at hnewline
  exact hpattern hnewline

end Line

/-! ## All lines -/

section Lines

variable (hpattern : newline ∉ rule.onBytes.pattern)
  (hreplacement : newline ∉ rule.onBytes.replacement)

include hpattern hreplacement

/-- The lines of patched lines are these, without those of which nothing is left. -/
theorem lines_patched (bytes : Bytes) :
    Bytes.lines (rule.patched (Bytes.lines bytes)) =
      ((Bytes.lines bytes).map fun line => (rule.apply line).output).filter (· ≠ []) := by
  induction bytes using Bytes.linesInduction with
  | nil => rfl
  | last line hline hne =>
    have hout : newline ∉ (rule.apply line).output := rule.onBytes.notMem_output hreplacement hline
    rw [Bytes.lines_of_newline_notMem hline hne, rule.patched_cons, rule.patched_nil, List.append_nil]
    rcases eq_or_ne (rule.apply line).output [] with hnil | hnil
    · simp [hnil]
    · simp [hnil, Bytes.lines_of_newline_notMem hout hnil]
  | cons head rest hhead ih =>
    have hout : newline ∉ (rule.apply head).output := rule.onBytes.notMem_output hreplacement hhead
    rw [Bytes.lines_cons_line hhead, rule.patched_cons, apply_concat_newline hpattern,
      Bytes.lines_cons_line hout, ih, List.map_cons, apply_concat_newline hpattern,
      List.filter_cons_of_pos (by simp)]

/-- If no line is lost, the lines of patched lines are these. -/
theorem lines_patched_eq_map {bytes : Bytes}
    (h : ∀ line ∈ Bytes.lines bytes, ¬ rule.Erases line) :
    Bytes.lines (rule.patched (Bytes.lines bytes)) =
      (Bytes.lines bytes).map fun line => (rule.apply line).output := by
  rw [lines_patched hpattern hreplacement, List.filter_eq_self]
  intro output houtput
  obtain ⟨line, hline, rfl⟩ := List.mem_map.mp houtput
  have hne := Bytes.ne_nil_of_mem_lines hline
  simpa [output_eq_nil_iff_erases hne] using h line hline

/-- If a line is lost it is the last, and the lines of patched lines are the others. -/
theorem lines_patched_of_erases {bytes last : Bytes} (hlast : (Bytes.lines bytes).getLast? = some last)
    (h : rule.Erases last) :
    Bytes.lines (rule.patched (Bytes.lines bytes)) =
      (Bytes.lines bytes).dropLast.map fun line => (rule.apply line).output := by
  obtain ⟨before, hbefore⟩ := List.getLast?_eq_some_iff.mp hlast
  have hnil : (rule.apply last).output = [] :=
    (output_eq_nil_iff_erases (Bytes.ne_nil_of_mem_lines (List.mem_of_getLast? hlast))).mpr h
  rw [lines_patched hpattern hreplacement, hbefore, List.dropLast_concat, List.map_append,
    List.filter_append, List.map_singleton, hnil, List.filter_cons_of_neg (by simp), List.filter_nil,
    List.append_nil, List.filter_eq_self]
  intro output houtput
  obtain ⟨line, hline, rfl⟩ := List.mem_map.mp houtput
  have hdrop : line ∈ (Bytes.lines bytes).dropLast := by
    rw [hbefore, List.dropLast_concat]
    exact hline
  have hmem := Bytes.newline_mem_of_mem_dropLast_lines hdrop
  have hne := Bytes.ne_nil_of_mem_lines (List.mem_of_mem_dropLast hdrop)
  have hkept : ¬ rule.Erases line := fun herases => newline_notMem_of_erases hpattern herases hmem
  simpa [output_eq_nil_iff_erases hne] using hkept

/-- A line ends with a line break after the rule has been applied if it did before. -/
theorem newline_suffix_output_iff {bytes line : Bytes} (h : line ∈ Bytes.lines bytes) :
    [newline] <:+ (rule.apply line).output ↔ [newline] <:+ line := by
  by_cases hmem : newline ∈ line
  · obtain ⟨head, -, rfl⟩ := Bytes.exists_eq_concat_newline_of_mem_lines h hmem
    rw [apply_concat_newline hpattern]
    exact iff_of_true (List.suffix_append _ _) (List.suffix_append _ _)
  · have hout : newline ∉ (rule.apply line).output := rule.onBytes.notMem_output hreplacement hmem
    refine iff_of_false ?_ ?_
    · intro hsuffix
      exact hout (hsuffix.mem (List.mem_singleton_self newline))
    · intro hsuffix
      exact hmem (hsuffix.mem (List.mem_singleton_self newline))

end Lines

/-! ## Rules that insert -/

section Insert

variable (hbegins : rule.onBytes.pattern <+: rule.onBytes.replacement)

include hbegins

theorem replacement_ne_empty_of_begins : rule.replacement ≠ "" := by
  intro hempty
  have hnil : rule.onBytes.replacement = [] := utf8_eq_nil_iff.mpr hempty
  rw [hnil, List.prefix_nil] at hbegins
  exact rule.onBytes.pattern_ne_nil hbegins

/-- A rule whose replacement begins with the pattern keeps all lines. -/
theorem lines_patched_of_begins (hreplacement : newline ∉ rule.onBytes.replacement) (bytes : Bytes) :
    Bytes.lines (rule.patched (Bytes.lines bytes)) =
      (Bytes.lines bytes).map fun line => (rule.apply line).output := by
  have hpattern : newline ∉ rule.onBytes.pattern := fun hmem => hreplacement (hbegins.mem hmem)
  refine lines_patched_eq_map hpattern hreplacement ?_
  rintro line - ⟨hempty, -⟩
  exact replacement_ne_empty_of_begins hbegins hempty

end Insert

/-! ## Counting -/

/-- Lines in which one rule replaces as many occurrences as another does in theirs are counted equally. -/
theorem tally_map {other : Rule} {f : Bytes → Bytes} {lines : List Bytes}
    (h : ∀ line ∈ lines, (other.apply (f line)).count = (rule.apply line).count) :
    other.tally (lines.map f) = rule.tally lines := by
  have hchanged : lines.countP (fun line => other.onBytes.pattern <:+: f line) =
      lines.countP fun line => rule.onBytes.pattern <:+: line := by
    refine List.countP_congr ?_
    intro line hline
    rw [decide_eq_true_iff, decide_eq_true_iff]
    refine not_iff_not.mp ?_
    rw [← other.count_apply_eq_zero_iff, ← rule.count_apply_eq_zero_iff, h line hline]
  have hcounts : lines.map (fun line => (other.apply (f line)).count) =
      lines.map fun line => (rule.apply line).count :=
    List.map_congr_left h
  simp only [tally, List.length_map, List.countP_map, List.map_map, Function.comp_def, hchanged,
    hcounts]

end Rule

end LinePatch
