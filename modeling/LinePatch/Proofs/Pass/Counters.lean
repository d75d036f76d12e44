import LinePatch.Proofs.Lengths
import LinePatch.Proofs.Pass.Trail

/-!
# What a pass can count

A pass counts no more than the bytes that it has read allow: a line has a byte at least, the occurrences that
are replaced fit in their lines, and a line is counted as changed once, if something is replaced in it. This
holds at any time, also when the pass fails, so 64 bits are enough for the counters of a pass that reads less
than `2 ^ 64 - 1` bytes. When a pass succeeds, the replacements account for the difference between what it has
read and what it has written.

## Main definitions

* `Summary.BoundedBy`: the counts that some number of bytes allows
* `Summary.AtMost`: no count, nor the number of the next line, is greater than a bound
* `Progress.Stage`: a pass at some time

## Main results

* `Summary.BoundedBy.addLine`, `Progress.Trail.boundedBy`: a line keeps the bounds, and so do all lines
* `Progress.Stage.exists_read`: the bounds hold at any time
* `run_counters`: the counters of a pass, at any time and at its end
-/

namespace LinePatch

/-! ## Bounds of counts -/

/-- The counts that `size` bytes allow, with a pattern of `width` bytes. -/
structure Summary.BoundedBy (summary : Summary) (width size : Nat) : Prop where
  changedLines_le_lines : summary.changedLines ≤ summary.lines
  lines_le : summary.lines ≤ size
  changedLines_le_replacements : summary.changedLines ≤ summary.replacements
  replacements_mul_le : summary.replacements * width ≤ size

/-- No count is greater than `bound`, and neither is the number of the next line. -/
structure Summary.AtMost (summary : Summary) (bound : Nat) : Prop where
  lines_succ_le : summary.lines + 1 ≤ bound
  changedLines_le : summary.changedLines ≤ bound
  replacements_le : summary.replacements ≤ bound

namespace Summary

variable {summary : Summary} {width size bound : Nat}

theorem AtMost.mono (h : summary.AtMost size) (hle : size ≤ bound) : summary.AtMost bound where
  lines_succ_le := h.lines_succ_le.trans hle
  changedLines_le := h.changedLines_le.trans hle
  replacements_le := h.replacements_le.trans hle

namespace BoundedBy

protected theorem nil (width : Nat) : BoundedBy {} width 0 where
  changedLines_le_lines := Nat.le_refl 0
  lines_le := Nat.le_refl 0
  changedLines_le_replacements := Nat.le_refl 0
  replacements_mul_le := (Nat.zero_mul width).le

theorem mono (h : summary.BoundedBy width size) (hle : size ≤ bound) : summary.BoundedBy width bound :=
  { h with
    lines_le := h.lines_le.trans hle
    replacements_mul_le := h.replacements_mul_le.trans hle }

/-- A line that has a byte, and in which the replaced occurrences fit, keeps the bounds. -/
theorem addLine (h : summary.BoundedBy width size) {count length : Nat} (hlength : 0 < length)
    (hcount : count * width ≤ length) : (summary.addLine count).BoundedBy width (size + length) where
  changedLines_le_lines := by
    have hle := h.changedLines_le_lines
    simp only [Summary.addLine]
    split <;> omega
  lines_le := Nat.add_le_add h.lines_le hlength
  changedLines_le_replacements := by
    have hle := h.changedLines_le_replacements
    simp only [Summary.addLine]
    split <;> omega
  replacements_mul_le := by
    rw [Summary.addLine, Nat.add_mul]
    exact Nat.add_le_add h.replacements_mul_le hcount

/-- A pattern has a byte at least, so no count is greater than the number of bytes. -/
theorem atMost (h : summary.BoundedBy width size) (hwidth : 0 < width) : summary.AtMost (size + 1) where
  lines_succ_le := Nat.succ_le_succ h.lines_le
  changedLines_le := (h.changedLines_le_lines.trans h.lines_le).trans (Nat.le_succ size)
  replacements_le :=
    ((Nat.le_mul_of_pos_right _ hwidth).trans h.replacements_mul_le).trans (Nat.le_succ size)

end BoundedBy

end Summary

/-! ## A pass at any time -/

namespace Progress

section

variable {σ : Type} [Sink σ] {rule : Rule} {route : Route} {start last progress : Progress σ}
  {lines : List Bytes}

/-- A pass at some time after `start`, whatever its sink has taken of what was to be written. -/
inductive Stage (rule : Rule) (start : Progress σ) : Progress σ → Prop
  /-- Some lines have been counted and written, and nothing, or a part, has been read behind them. -/
  | reading {lines last source errors part} (trail : Trail rule start lines last)
      (consumed : Source.Consumed last.source source errors part) (sink : σ) :
      Stage rule start { last with source, sink }
  /-- One more line has been read and counted, and is written. -/
  | writing {lines last line source} (trail : Trail rule start lines last)
      (read : last.source.readLine = .line line source) (sink : σ) :
      Stage rule start { ({ last with source }.note (rule.apply line).count) with sink }

/-- When a pass ends it has come to its last stage. -/
theorem Stops.stage {result : Except PatchError Summary} {final : Progress σ}
    (trail : Trail rule start lines last) (stops : Stops rule route last result final) :
    Stage rule start final := by
  cases stops with
  | finished read => exact .reading trail (Source.consumed_of_readLine_ended read) _
  | flushFailed read => exact .reading trail (Source.consumed_of_readLine_ended read) _
  | readFailed read =>
    obtain ⟨part, consumed⟩ := Source.consumed_of_readLine_failed read
    exact .reading trail consumed last.sink
  | writeFailed read => exact .writing trail read _

theorem stage_run (rule : Rule) (route : Route) (start : Progress σ) :
    Stage rule start (start.run rule route).progress := by
  obtain ⟨lines, last, result, final, trail, stops, hrun⟩ := exists_trail_stops rule route start
  rw [hrun]
  exact stops.stage trail

/-- A line that is read keeps the bounds of what is counted. -/
theorem boundedBy_addLine {summary : Summary} {size : Nat} {source rest : Source} {line : Bytes}
    (h : summary.BoundedBy rule.onBytes.pattern.length size) (read : source.readLine = .line line rest) :
    (summary.addLine (rule.apply line).count).BoundedBy rule.onBytes.pattern.length
      (size + line.length) :=
  h.addLine (Source.length_add_size_le_of_readLineFrom_line read).1 (rule.onBytes.count_mul_length_le line)

/-- Between two lines, the counts are those that the lines read so far allow. -/
theorem Trail.boundedBy (trail : Trail rule start lines last) (hstart : start.summary = {}) :
    last.summary.BoundedBy rule.onBytes.pattern.length lines.flatten.length := by
  induction trail with
  | nil =>
    rw [hstart]
    exact .nil _
  | snoc _ advances ih =>
    rw [advances.summary, List.flatten_append, List.flatten_singleton, List.length_append]
    exact boundedBy_addLine ih advances.read

/-- At any time, the counts are those that the bytes read so far allow. -/
theorem Stage.exists_read (stage : Stage rule start progress) (hstart : start.summary = {}) :
    ∃ read, start.source.bytes = read ++ progress.source.bytes ∧
      progress.summary.BoundedBy rule.onBytes.pattern.length read.length := by
  cases stage with
  | reading trail consumed =>
    refine ⟨_, (trail.consumed.trans consumed).bytes_eq, (trail.boundedBy hstart).mono ?_⟩
    rw [List.length_append]
    exact Nat.le_add_right _ _
  | writing trail read =>
    refine ⟨_, (trail.consumed.trans (Source.consumed_of_readLine_line read)).bytes_eq, ?_⟩
    rw [List.length_append]
    exact boundedBy_addLine (trail.boundedBy hstart) read

theorem summary_of_run_ok {summary : Summary} (hok : (start.run rule route).result = .ok summary) :
    (start.run rule route).progress.summary = summary := by
  obtain ⟨lines, last, result, final, -, stops, hrun⟩ := exists_trail_stops rule route start
  rw [hrun] at hok ⊢
  obtain rfl : result = .ok summary := hok
  cases stops with
  | finished => rfl

/-- The line at which a pass fails is one of those counted, or the next. -/
theorem line_le_of_run_error {error : PatchError} (herror : (start.run rule route).result = .error error)
    {line : Nat} (h : line ∈ error.line?) : line ≤ (start.run rule route).progress.summary.lines + 1 := by
  obtain ⟨lines, last, result, final, -, stops, hrun⟩ := exists_trail_stops rule route start
  rw [hrun] at herror ⊢
  obtain rfl : result = .error error := herror
  cases stops with
  | flushFailed => exact (Option.some.inj h).symm.le.trans (Nat.le_succ _)
  | readFailed => exact (Option.some.inj h).symm.le
  | writeFailed => exact (Option.some.inj h).symm.le.trans (Nat.le_succ _)

end

/-- When a pass succeeds, the replacements account for the length of what has been written. -/
theorem length_taken_add {rule : Rule} {route : Route} {source : Source} {sink : ScriptedSink}
    {summary : Summary} {read : Bytes}
    (hok : (run rule route { source, sink }).result = .ok summary)
    (hread : source.bytes = read ++ (run rule route { source, sink }).progress.source.bytes) :
    (run rule route { source, sink }).progress.sink.taken.length +
        summary.replacements * rule.onBytes.pattern.length =
      sink.taken.length + read.length + summary.replacements * rule.onBytes.replacement.length := by
  obtain ⟨lines, last, result, final, trail, stops, hrun⟩ :=
    exists_trail_stops rule route { source, sink }
  rw [hrun] at hok hread ⊢
  obtain rfl : result = .ok summary := hok
  cases stops with
  | finished ended flush =>
    have hconsumed := trail.consumed.trans (Source.consumed_of_readLine_ended ended)
    have hlines : read = lines.flatten := by
      rw [← List.append_cancel_right (hconsumed.bytes_eq.symm.trans hread), List.append_nil]
    obtain ⟨-, rfl⟩ := ScriptedSink.flush_eq_ok_iff.mp flush
    have hsummary : last.summary = rule.tally lines := trail.summary_eq rfl
    have htaken : last.sink.taken = sink.taken ++ rule.patched lines := trail.wrote.taken_eq
    have hlengths := rule.length_patched_add lines
    change last.sink.taken.length + _ = _
    rw [htaken, hsummary, hlines, List.length_append]
    omega

end Progress

open Progress

/-- **The counters of a pass.** At any time, no more lines are counted as changed than are counted, no more
lines are counted than bytes have been read, no more lines are counted as changed than replacements, and the
replaced occurrences have no more bytes than have been read. So no counter and no line number in an error is
greater than that number of bytes by more than one, and 64 bits are enough for them while it is less than
`2 ^ 64 - 1`. When the pass succeeds, the bytes written and those taken out are as many as the bytes read and
those put in. -/
theorem run_counters (rule : Rule) (route : Route) (source : Source) (answers : List WriteAnswer)
    (flushFailure? : Option IoError) :
    let start : Progress ScriptedSink := { source, sink := { answers, flushFailure? } }
    let outcome := start.run rule route
    let width := (utf8 rule.pattern).length
    (∀ progress, Stage rule start progress →
        ∃ read, source.bytes = read ++ progress.source.bytes ∧
          progress.summary.BoundedBy width read.length ∧
          progress.summary.AtMost (read.length + 1) ∧
          (read.length < 2 ^ 64 - 1 → progress.summary.AtMost (2 ^ 64 - 1))) ∧
      Stage rule start outcome.progress ∧
      ∃ read, source.bytes = read ++ outcome.progress.source.bytes ∧
        match outcome.result with
        | .ok summary =>
          summary = outcome.progress.summary ∧
            outcome.progress.sink.taken.length + summary.replacements * width =
              read.length + summary.replacements * (utf8 rule.replacement).length
        | .error error => ∀ line ∈ error.line?, line ≤ read.length + 1 := by
  intro start outcome width
  have hwidth : 0 < width := List.length_pos_iff.mpr rule.onBytes.pattern_ne_nil
  have hstage : Stage rule start outcome.progress := stage_run rule route start
  refine ⟨?_, hstage, ?_⟩
  · intro progress stage
    obtain ⟨read, hread, hbounded⟩ := stage.exists_read rfl
    refine ⟨read, hread, hbounded, hbounded.atMost hwidth, ?_⟩
    intro hlt
    exact (hbounded.atMost hwidth).mono hlt
  · obtain ⟨read, hread, hbounded⟩ := hstage.exists_read rfl
    refine ⟨read, hread, ?_⟩
    split
    next summary hok =>
      have hlengths := length_taken_add hok hread
      change _ = 0 + read.length + _ at hlengths
      rw [Nat.zero_add] at hlengths
      exact ⟨(summary_of_run_ok hok).symm, hlengths⟩
    next error herror =>
      intro line hline
      exact (line_le_of_run_error herror hline).trans (hbounded.atMost hwidth).lines_succ_le

end LinePatch
