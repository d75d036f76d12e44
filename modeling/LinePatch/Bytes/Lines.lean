import LinePatch.Bytes

/-!
# Lines

The lines of a byte string are its longest pieces in which no byte stands behind a line break. Each of
them ends with a line break, except perhaps the last.

## Main definitions

* `Bytes.lines`: the lines of a byte string

## Main results

* `Bytes.flatten_lines`: the lines make up the byte string
* `Bytes.lines_append_newline`: a line break ends a line, whatever follows
* `Bytes.lines_of_newline_notMem`: without a line break there is one line
-/

namespace LinePatch

namespace Bytes

/-- The lines of a byte string, each with its line break. -/
def lines : Bytes → List Bytes
  | [] => []
  | b :: rest =>
    if b = newline then [b] :: lines rest
    else
      match lines rest with
      | [] => [[b]]
      | line :: others => (b :: line) :: others

@[simp] theorem lines_nil : lines [] = [] := rfl

theorem lines_newline_cons (rest : Bytes) :
    lines (newline :: rest) = [newline] :: lines rest := by
  simp [lines]

theorem flatten_lines (bytes : Bytes) : (lines bytes).flatten = bytes := by
  fun_induction lines bytes with
  | case1 => rfl
  | case2 rest ih => simp [ih]
  | case3 b rest _ hrest ih =>
    rw [hrest] at ih
    simp [← ih]
  | case4 b rest _ line others hrest ih =>
    rw [hrest] at ih
    simp [← ih]

theorem ne_nil_of_mem_lines {bytes line : Bytes} (h : line ∈ lines bytes) : line ≠ [] := by
  fun_induction lines bytes generalizing line with
  | case1 => simp at h
  | case2 rest ih =>
    rcases List.mem_cons.1 h with rfl | h
    · simp
    · exact ih h
  | case3 => simp_all
  | case4 b rest _ first others hrest ih =>
    rcases List.mem_cons.1 h with rfl | h
    · simp
    · exact ih (by rw [hrest]; exact List.mem_cons_of_mem _ h)

/-- A line ends with its first line break, whatever follows. -/
theorem lines_append_newline {head : Bytes} (h : newline ∉ head) (rest : Bytes) :
    lines (head ++ newline :: rest) = (head ++ [newline]) :: lines rest := by
  induction head with
  | nil => exact lines_newline_cons rest
  | cons b head ih =>
    obtain ⟨hb, hhead⟩ := not_or.1 (mt List.mem_cons.2 h)
    rw [List.cons_append, lines, if_neg (Ne.symm hb), ih hhead]
    rfl

theorem lines_of_newline_notMem {bytes : Bytes} (h : newline ∉ bytes) (hne : bytes ≠ []) :
    lines bytes = [bytes] := by
  induction bytes with
  | nil => exact absurd rfl hne
  | cons b rest ih =>
    obtain ⟨hb, hrest⟩ := not_or.1 (mt List.mem_cons.2 h)
    rw [lines, if_neg (Ne.symm hb)]
    cases rest with
    | nil => rfl
    | cons c rest => rw [ih hrest (List.cons_ne_nil c rest)]

end Bytes

end LinePatch
