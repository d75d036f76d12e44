import LinePatch.Proofs.Pass.Trail

/-!
# What a pass notes

A pass takes note of each line in which something is replaced, before it writes the line. So its notes agree
with its counts, and with the line in its error: if that line could not be written it is among those noted, and
if it could not be read it is not.

## Main definitions

* `Rule.IsChange`: a line, by number, in which something is replaced
* `Rule.changes`: all these lines of some lines
* `Agree`: notes that agree with a result

## Main results

* `Rule.mem_changes_iff`, `Rule.pairwise_changes`: the changes of some lines, in order
* `Rule.length_changes`, `Rule.sum_changes`: they agree with the counts
* `Progress.Trail.changes_eq`: between two lines, the notes are the changes of the lines read so far
* `Progress.agree_run`: when a pass ends, its notes agree with its result
-/

namespace LinePatch

namespace Rule

/-- The line with the number of the change is one in which the rule replaces something, as often as the change
says. -/
structure IsChange (rule : Rule) (lines : List Bytes) (change : Change) : Prop where
  exists_line : ∃ line number, lines[number]? = some line ∧ change.line = number + 1 ∧
    change.count = (rule.apply line).count
  count_pos : 0 < change.count

/-- The changes of some lines, of which the first has the number one. -/
def changes (rule : Rule) (lines : List Bytes) : List Change :=
  ((lines.zipIdx 1).map fun (line, number) => { line := number, count := (rule.apply line).count }).filter
    (0 < ·.count)

variable (rule : Rule)

@[simp] theorem changes_nil : rule.changes [] = [] := rfl

theorem changes_concat (lines : List Bytes) (line : Bytes) :
    rule.changes (lines ++ [line]) =
      if (rule.apply line).count = 0 then rule.changes lines
      else rule.changes lines ++ [{ line := lines.length + 1, count := (rule.apply line).count }] := by
  rw [changes, List.zipIdx_append, List.map_append, List.filter_append]
  split
  next hzero => simp [changes, hzero]
  next hpos => simp [changes, Nat.pos_of_ne_zero hpos, Nat.add_comm]

variable {rule} {lines : List Bytes} {change : Change}

theorem mem_changes_iff : change ∈ rule.changes lines ↔ rule.IsChange lines change := by
  simp only [changes, List.mem_filter, List.mem_map, Prod.exists, decide_eq_true_iff]
  constructor
  · rintro ⟨⟨line, number, hmem, rfl⟩, hpos⟩
    obtain ⟨hone, hline⟩ := List.mem_zipIdx_iff_le_and_getElem?_sub.mp hmem
    exact ⟨⟨line, number - 1, hline, (Nat.sub_add_cancel hone).symm, rfl⟩, hpos⟩
  · rintro ⟨⟨line, number, hline, hnumber, hcount⟩, hpos⟩
    refine ⟨⟨line, number + 1, ?_, ?_⟩, hpos⟩
    · exact List.mem_zipIdx_iff_le_and_getElem?_sub.mpr ⟨Nat.le_add_left 1 number, hline⟩
    · rw [← hnumber, ← hcount]

theorem IsChange.line_le (h : rule.IsChange lines change) : change.line ≤ lines.length := by
  obtain ⟨line, number, hline, hnumber, -⟩ := h.exists_line
  rw [hnumber]
  exact (List.getElem?_eq_some_iff.mp hline).1

/-- The changes of the first lines are those up to the last of them. -/
theorem isChange_take_iff {size : Nat} :
    rule.IsChange (lines.take size) change ↔ rule.IsChange lines change ∧ change.line ≤ size := by
  constructor
  · rintro ⟨⟨line, number, hline, hnumber, hcount⟩, hpos⟩
    rw [List.getElem?_take] at hline
    split at hline
    next hlt =>
      rw [hnumber]
      exact ⟨⟨⟨line, number, hline, hnumber, hcount⟩, hpos⟩, hlt⟩
    next => cases hline
  · rintro ⟨⟨⟨line, number, hline, hnumber, hcount⟩, hpos⟩, hle⟩
    rw [hnumber] at hle
    exact ⟨⟨line, number, (List.getElem?_take_of_lt hle).trans hline, hnumber, hcount⟩, hpos⟩

theorem pairwise_changes (lines : List Bytes) :
    (rule.changes lines).Pairwise (·.line < ·.line) := by
  induction lines using List.reverseRecOn with
  | nil => exact .nil
  | append_singleton lines line ih =>
    rw [changes_concat]
    split
    · exact ih
    · refine List.pairwise_append.mpr ⟨ih, List.pairwise_singleton _ _, ?_⟩
      intro change hchange last hlast
      rw [List.mem_singleton.mp hlast]
      exact Nat.lt_succ_of_le (mem_changes_iff.mp hchange).line_le

theorem length_changes (lines : List Bytes) :
    (rule.changes lines).length = (rule.tally lines).changedLines := by
  induction lines using List.reverseRecOn with
  | nil => rfl
  | append_singleton lines line ih =>
    rw [changes_concat, tally_concat, Summary.addLine]
    split
    · exact ih
    · rw [List.length_append, ih, List.length_singleton]

theorem sum_changes (lines : List Bytes) :
    ((rule.changes lines).map (·.count)).sum = (rule.tally lines).replacements := by
  induction lines using List.reverseRecOn with
  | nil => rfl
  | append_singleton lines line ih =>
    rw [changes_concat, tally_concat, Summary.addLine]
    split
    next hzero => rw [ih, hzero]; rfl
    next => rw [List.map_append, List.sum_append, ih, List.map_singleton, List.sum_singleton]

end Rule

/-- The notes of a pass agree with its result: they are the changes of `lines`, in order, and all of them if the
pass succeeded; else those up to the line that could not be written, or before the line that could not be read. -/
structure Agree (rule : Rule) (lines : List Bytes) (changes : List Change)
    (result : Except PatchError Summary) : Prop where
  ascending : changes.Pairwise (·.line < ·.line)
  mem_iff : ∀ change, change ∈ changes ↔ rule.IsChange lines change ∧
    match result with
    | .ok _ => True
    | .error (.write _ line _) => change.line ≤ line
    | .error (.read _ line _) => change.line < line
    | .error (.openInput _ _) | .error (.createOutput _ _) => False
  counts : ∀ summary, result = .ok summary →
    changes.length = summary.changedLines ∧ (changes.map (·.count)).sum = summary.replacements ∧
      ∀ change ∈ changes, change.line ≤ summary.lines

namespace Agree

variable {rule : Rule} {lines : List Bytes}

/-- A pass that succeeds has noted all changes. -/
theorem finished (rule : Rule) (lines : List Bytes) :
    Agree rule lines (rule.changes lines) (.ok (rule.tally lines)) where
  ascending := rule.pairwise_changes lines
  mem_iff change := by rw [Rule.mem_changes_iff, and_true]
  counts := by
    rintro summary ⟨⟩
    refine ⟨rule.length_changes lines, rule.sum_changes lines, ?_⟩
    intro change hchange
    exact (Rule.mem_changes_iff.mp hchange).line_le

/-- A line that cannot be read stands behind all those that are read. -/
theorem readFailed (rule : Rule) (lines : List Bytes) (path : String) (cause : IoError) :
    Agree rule lines (rule.changes lines) (.error (.read path (lines.length + 1) cause)) where
  ascending := rule.pairwise_changes lines
  mem_iff change := by
    rw [Rule.mem_changes_iff]
    constructor
    · intro hchange
      exact ⟨hchange, Nat.lt_succ_of_le hchange.line_le⟩
    · exact And.left
  counts := nofun

/-- The line that cannot be written has been read, and the lines behind it have not. -/
theorem writeFailed (rule : Rule) (read later : List Bytes) (path : String) (cause : IoError) :
    Agree rule (read ++ later) (rule.changes read) (.error (.write path read.length cause)) where
  ascending := rule.pairwise_changes read
  mem_iff change := by rw [Rule.mem_changes_iff, ← Rule.isChange_take_iff, List.take_left]
  counts := nofun

/-- Without a pass there is nothing to note. -/
theorem unopened {error : PatchError} (h : error.line? = none) : Agree rule lines [] (.error error) where
  ascending := .nil
  mem_iff change := by
    cases error with
    | openInput | createOutput => simp
    | read | write => cases h
  counts := nofun

end Agree

namespace Progress

variable {σ : Type}

theorem toList_changes_note (progress : Progress σ) (count : Nat) :
    (progress.note count).changes.toList =
      if count = 0 then progress.changes.toList
      else progress.changes.toList ++ [{ line := progress.summary.lines + 1, count }] := by
  simp only [note, Summary.addLine]
  split
  · rfl
  · exact Array.toList_push

variable [Sink σ] {rule : Rule} {start last : Progress σ} {lines : List Bytes}

/-- Between two lines, a pass has noted the changes of the lines that it has read. -/
theorem Trail.changes_eq (trail : Trail rule start lines last) (hsummary : start.summary = {})
    (hchanges : start.changes = #[]) : last.changes.toList = rule.changes lines := by
  induction trail with
  | nil => rw [hchanges, rule.changes_nil]
  | snoc trail advances ih =>
    have hnumber := congrArg Summary.lines (trail.summary_eq hsummary)
    rw [advances.changes, toList_changes_note, ih, hnumber, rule.changes_concat]
    rfl

/-- When a pass ends, what it has noted agrees with its result. -/
theorem agree_run (rule : Rule) (route : Route) (source : Source) (sink : σ) :
    Agree rule source.reading.lines (run rule route { source, sink }).progress.changes.toList
      (run rule route { source, sink }).result := by
  obtain ⟨lines, last, result, final, trail, stops, hrun⟩ :=
    exists_trail_stops rule route { source, sink }
  have hchanges := trail.changes_eq rfl rfl
  have hsummary : last.summary = rule.tally lines := trail.summary_eq rfl
  have hnumber : last.summary.lines = lines.length := congrArg Summary.lines hsummary
  have hlines : source.reading.lines = lines ++ last.source.reading.lines :=
    congrArg Reading.lines trail.reading_eq
  rw [hrun, hlines]
  cases stops with
  | finished read =>
    rw [Source.reading_of_ended read, List.append_nil, hsummary]
    simp only [hchanges]
    exact .finished rule lines
  | flushFailed read =>
    rw [Source.reading_of_ended read, hnumber]
    simp only [hchanges]
    exact .writeFailed rule lines [] route.output _
  | readFailed read =>
    rw [Source.reading_of_failed read, List.append_nil, hnumber]
    simp only [hchanges]
    exact .readFailed rule lines route.input _
  | @writeFailed line _ _ _ read =>
    rw [Source.reading_of_line read, hnumber]
    simp only [toList_changes_note, hchanges, hnumber, ← rule.changes_concat]
    have hlength : (lines ++ [line]).length = lines.length + 1 := List.length_append
    rw [List.append_cons, ← hlength]
    exact .writeFailed rule (lines ++ [line]) _ route.output _

end Progress

end LinePatch
