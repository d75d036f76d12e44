import LinePatch.Bytes.Lines
import Mathlib.Data.List.Infix

/-!
# The shape of lines

A byte string is empty, or a single line without a line break, or a line with its line break and further
bytes behind it. `linesInduction` is the induction along these three cases.

## Main results

* `linesInduction`: induction along the lines of a byte string
* `newline_notMem_dropLast_of_mem_lines`: a line break stands nowhere in a line but at its end
* `getLast?_lines_of_newline_notMem`: only the last line can be without a line break
* `lines_append_of_closed`, `exists_lines_append`: the lines of two byte strings in a row
-/

namespace LinePatch

namespace Bytes

theorem lines_cons_line {head : Bytes} (h : newline ∉ head) (rest : Bytes) :
    lines ((head ++ [newline]) ++ rest) = (head ++ [newline]) :: lines rest := by
  rw [List.append_assoc, List.singleton_append, lines_append_newline h]

/-- A byte string with a line break is a line with its line break and further bytes. -/
theorem exists_line_of_newline_mem {bytes : Bytes} (h : newline ∈ bytes) :
    ∃ head rest, newline ∉ head ∧ bytes = (head ++ [newline]) ++ rest := by
  obtain ⟨head, rest, rfl, hhead⟩ := List.eq_append_cons_of_mem h
  exact ⟨head, rest, hhead, by simp⟩

/-- Induction along the lines of a byte string. -/
@[elab_as_elim]
theorem linesInduction {motive : Bytes → Prop} (nil : motive [])
    (last : ∀ line, newline ∉ line → line ≠ [] → motive line)
    (cons : ∀ head rest, newline ∉ head → motive rest → motive ((head ++ [newline]) ++ rest))
    (bytes : Bytes) : motive bytes := by
  induction hn : bytes.length using Nat.strong_induction_on generalizing bytes with
  | h n ih =>
    by_cases hmem : newline ∈ bytes
    · obtain ⟨head, rest, hhead, rfl⟩ := exists_line_of_newline_mem hmem
      simp only [List.length_append, List.length_singleton] at hn
      exact cons head rest hhead (ih rest.length (by omega) rest rfl)
    · rcases eq_or_ne bytes [] with rfl | hne
      · exact nil
      · exact last bytes hmem hne

/-- A line break stands nowhere in a line but at its end. -/
theorem newline_notMem_dropLast_of_mem_lines {bytes line : Bytes} (h : line ∈ lines bytes) :
    newline ∉ line.dropLast := by
  induction bytes using linesInduction with
  | nil => simp at h
  | last bytes hbytes hne =>
    rw [lines_of_newline_notMem hbytes hne, List.mem_singleton] at h
    rw [h]
    intro hmem
    exact hbytes (List.mem_of_mem_dropLast hmem)
  | cons head rest hhead ih =>
    rw [lines_cons_line hhead, List.mem_cons] at h
    rcases h with rfl | h
    · rwa [List.dropLast_concat]
    · exact ih h

/-- A line with a line break ends with it. -/
theorem exists_eq_concat_newline_of_mem_lines {bytes line : Bytes} (h : line ∈ lines bytes)
    (hmem : newline ∈ line) : ∃ head, newline ∉ head ∧ line = head ++ [newline] := by
  have hdrop := newline_notMem_dropLast_of_mem_lines h
  rcases List.eq_nil_or_concat line with rfl | ⟨head, last, rfl⟩
  · exact absurd rfl (ne_nil_of_mem_lines h)
  · rw [List.concat_eq_append] at hdrop hmem ⊢
    rw [List.dropLast_concat] at hdrop
    rcases List.mem_append.mp hmem with hhead | hlast
    · exact absurd hhead hdrop
    · rw [← List.mem_singleton.mp hlast]
      exact ⟨head, hdrop, rfl⟩

/-- Every line before the last has a line break. -/
theorem newline_mem_of_mem_dropLast_lines {bytes line : Bytes} (h : line ∈ (lines bytes).dropLast) :
    newline ∈ line := by
  induction bytes using linesInduction with
  | nil => simp at h
  | last bytes hbytes hne =>
    rw [lines_of_newline_notMem hbytes hne] at h
    simp at h
  | cons head rest hhead ih =>
    rw [lines_cons_line hhead] at h
    rcases eq_or_ne (lines rest) [] with hrest | hrest
    · rw [hrest] at h
      simp at h
    · rw [List.dropLast_cons_of_ne_nil hrest, List.mem_cons] at h
      rcases h with rfl | h
      · exact List.mem_append_right head List.mem_cons_self
      · exact ih h

/-- A line without a line break is the last. -/
theorem getLast?_lines_of_newline_notMem {bytes line : Bytes} (h : line ∈ lines bytes)
    (hline : newline ∉ line) : (lines bytes).getLast? = some line := by
  have hne : lines bytes ≠ [] := List.ne_nil_of_mem h
  rw [← List.dropLast_concat_getLast hne, List.mem_append] at h
  rcases h with h | h
  · exact absurd (newline_mem_of_mem_dropLast_lines h) hline
  · rw [List.mem_singleton.mp h, List.getLast?_eq_some_getLast hne]

/-- What stands before the end of a part of a line stands before the end of the line. -/
theorem mem_dropLast_of_infix {p line : Bytes} {b : UInt8} (h : p <:+: line)
    (hb : b ∈ p.dropLast) : b ∈ line.dropLast := by
  obtain ⟨before, after, rfl⟩ := h
  have hp : p ≠ [] := by
    rintro rfl
    simp at hb
  rcases List.eq_nil_or_concat after with rfl | ⟨after, last, rfl⟩
  · rw [List.append_nil, List.dropLast_append_of_ne_nil hp]
    exact List.mem_append_right _ hb
  · rw [List.concat_eq_append, ← List.append_assoc, List.dropLast_concat]
    exact List.mem_append_left _ (List.mem_append_right _ (List.mem_of_mem_dropLast hb))

/-! ## Two byte strings in a row -/

/-- Behind a line break the lines begin anew. -/
theorem lines_append_of_closed {a : Bytes} (h : a = [] ∨ [newline] <:+ a) (b : Bytes) :
    lines (a ++ b) = lines a ++ lines b := by
  induction a using linesInduction with
  | nil => rfl
  | last line hline hne =>
    rcases h with hnil | hsuffix
    · exact absurd hnil hne
    · exact absurd (hsuffix.mem (List.mem_singleton_self newline)) hline
  | cons head rest hhead ih =>
    have hrest : rest = [] ∨ [newline] <:+ rest := by
      rcases eq_or_ne rest [] with hnil | hne
      · exact .inl hnil
      · have hsuffix := h.resolve_left (by simp)
        have hlength : [newline].length ≤ rest.length := List.length_pos_iff.mpr hne
        exact .inr (List.suffix_of_suffix_length_le hsuffix (List.suffix_append _ _) hlength)
    rw [List.append_assoc, lines_cons_line hhead, lines_cons_line hhead, ih hrest, List.cons_append]

/-- Bytes without a line break belong to the first line behind them. -/
theorem exists_lines_append_of_newline_notMem {head b : Bytes} (hhead : newline ∉ head) (hb : b ≠ []) :
    ∃ first later, lines b = first :: later ∧ lines (head ++ b) = (head ++ first) :: later := by
  induction b using linesInduction with
  | nil => exact absurd rfl hb
  | last line hline hne =>
    have hboth : newline ∉ head ++ line := by
      rw [List.mem_append]
      exact not_or.mpr ⟨hhead, hline⟩
    refine ⟨line, [], lines_of_newline_notMem hline hne, ?_⟩
    exact lines_of_newline_notMem hboth (List.append_ne_nil_of_right_ne_nil head hne)
  | cons line rest hline _ =>
    have hboth : newline ∉ head ++ line := by
      rw [List.mem_append]
      exact not_or.mpr ⟨hhead, hline⟩
    refine ⟨line ++ [newline], lines rest, lines_cons_line hline rest, ?_⟩
    rw [← List.append_assoc, ← List.append_assoc, lines_cons_line hboth, List.append_assoc]

/-- Without a line break between them, the last line of the one and the first of the other are one line. -/
theorem exists_lines_append {a b : Bytes} (ha : a ≠ []) (hopen : ¬ [newline] <:+ a) (hb : b ≠ []) :
    ∃ before last first later, lines a = before ++ [last] ∧ lines b = first :: later ∧
      lines (a ++ b) = before ++ (last ++ first) :: later := by
  induction a using linesInduction with
  | nil => exact absurd rfl ha
  | last line hline hne =>
    obtain ⟨first, later, hfirst, hjoined⟩ := exists_lines_append_of_newline_notMem hline hb
    exact ⟨[], line, first, later, lines_of_newline_notMem hline hne, hfirst, hjoined⟩
  | cons head rest hhead ih =>
    have hne : rest ≠ [] := by
      rintro rfl
      rw [List.append_nil] at hopen
      exact hopen (List.suffix_append _ _)
    have hrest : ¬ [newline] <:+ rest := fun hsuffix => hopen (hsuffix.trans (List.suffix_append _ _))
    obtain ⟨before, last, first, later, hlast, hfirst, hjoined⟩ := ih hne hrest
    refine ⟨(head ++ [newline]) :: before, last, first, later, ?_, hfirst, ?_⟩
    · rw [lines_cons_line hhead, hlast, List.cons_append]
    · rw [List.append_assoc, lines_cons_line hhead, hjoined, List.cons_append]

end Bytes

end LinePatch
