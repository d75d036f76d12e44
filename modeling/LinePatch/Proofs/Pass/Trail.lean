import LinePatch.Proofs.Linewise
import LinePatch.Proofs.Source.Reading
import LinePatch.Proofs.Sink.Scripted

/-!
# The trail of a pass

A pass advances over one line after another until it stops. `Advances` is everything a step over a line
does, `Stops` everything the last step does, and a `Trail` is made of the steps over some lines. Every
run is a trail and a stop, so what holds of a run is read off the trail: the counts are those of its
lines, its lines are the first of the source, and what it wrote are these lines patched.

## Main definitions

* `Progress.Advances`, `Progress.Stops`: a step over a line, and the step that ends a pass
* `Progress.Trail`: the steps of a pass over some lines

## Main results

* `Progress.exists_trail_stops`: every run is a trail and a stop
* `Progress.Trail.summary_eq`, `Trail.reading_eq`, `Trail.consumed`, `Trail.lines_eq`, `Trail.wrote`: what
  a trail has counted, read and written
-/

namespace LinePatch

namespace Progress

variable {σ : Type} [Sink σ]

/-- A step over a line: it is read, counted, noted and written. -/
structure Advances (rule : Rule) (progress : Progress σ) (line : Bytes) (next : Progress σ) :
    Prop where
  read : progress.source.readLine = .line line next.source
  write : Sink.writeAll (rule.apply line).output progress.sink = .ok () next.sink
  summary : next.summary = progress.summary.addLine (rule.apply line).count
  changes : next.changes = (progress.note (rule.apply line).count).changes

/-- The step that ends a pass: the result, and what the pass leaves. -/
inductive Stops (rule : Rule) (route : Route) (progress : Progress σ) :
    Except PatchError Summary → Progress σ → Prop
  /-- The input has ended, and the sink was flushed. -/
  | finished {source sink} (read : progress.source.readLine = .ended source)
      (flush : Sink.flush progress.sink = .ok () sink) :
      Stops rule route progress (.ok progress.summary) { progress with source, sink }
  /-- The input has ended, but the sink could not be flushed. -/
  | flushFailed {source sink error} (read : progress.source.readLine = .ended source)
      (flush : Sink.flush progress.sink = .error error sink) :
      Stops rule route progress (.error (.write route.output progress.summary.lines error))
        { progress with source, sink }
  /-- The next line could not be read. -/
  | readFailed {source error} (read : progress.source.readLine = .failed error source) :
      Stops rule route progress (.error (.read route.input (progress.summary.lines + 1) error))
        { progress with source }
  /-- A line was read, but could not be written. -/
  | writeFailed {line source sink error} (read : progress.source.readLine = .line line source)
      (write : Sink.writeAll (rule.apply line).output progress.sink = .error error sink) :
      Stops rule route progress (.error (.write route.output (progress.summary.lines + 1) error))
        { ({ progress with source }.note (rule.apply line).count) with sink }

variable {rule : Rule} {route : Route}

section Step

variable {progress next last : Progress σ} {line : Bytes} {result : Except PatchError Summary}

theorem exists_of_writeLine_next (h : progress.writeLine route line = .next next) :
    ∃ sink, Sink.writeAll line progress.sink = .ok () sink ∧ next = { progress with sink } := by
  unfold writeLine at h
  split at h
  next sink hwrite => exact ⟨sink, hwrite, (Step.next.inj h).symm⟩
  next => cases h

theorem exists_of_writeLine_stop (h : progress.writeLine route line = .stop result last) :
    ∃ error sink, Sink.writeAll line progress.sink = .error error sink ∧
      result = .error (.write route.output progress.summary.lines error) ∧
      last = { progress with sink } := by
  unfold writeLine at h
  split at h
  next => cases h
  next error sink hwrite =>
    obtain ⟨rfl, rfl⟩ := Step.stop.inj h
    exact ⟨error, sink, hwrite, rfl, rfl⟩

theorem advances_of_step (h : progress.step rule route = .next next) :
    ∃ line, Advances rule progress line next := by
  unfold step at h
  split at h
  next line source hread =>
    obtain ⟨sink, hwrite, rfl⟩ := exists_of_writeLine_next h
    exact ⟨line, hread, hwrite, rfl, rfl⟩
  next => exact absurd h close_ne_next
  next => cases h

theorem stops_of_step (h : progress.step rule route = .stop result last) :
    Stops rule route progress result last := by
  unfold step at h
  split at h
  next line source hread =>
    obtain ⟨error, sink, hwrite, rfl, rfl⟩ := exists_of_writeLine_stop h
    exact .writeFailed hread hwrite
  next source hread =>
    unfold close at h
    split at h
    next sink hflush =>
      obtain ⟨rfl, rfl⟩ := Step.stop.inj h
      exact .finished hread hflush
    next error sink hflush =>
      obtain ⟨rfl, rfl⟩ := Step.stop.inj h
      exact .flushFailed hread hflush
  next error source hread =>
    obtain ⟨rfl, rfl⟩ := Step.stop.inj h
    exact .readFailed hread

theorem run_of_step_next (h : progress.step rule route = .next next) :
    progress.run rule route = next.run rule route := by
  rw [run]
  split <;> simp_all

theorem run_of_step_stop (h : progress.step rule route = .stop result last) :
    progress.run rule route = { result, progress := last } := by
  rw [run]
  split <;> simp_all

end Step

/-! ## Trails -/

/-- The steps of a pass over some lines. -/
inductive Trail (rule : Rule) (start : Progress σ) : List Bytes → Progress σ → Prop
  | nil : Trail rule start [] start
  | snoc {lines middle line next} (trail : Trail rule start lines middle)
      (advances : Advances rule middle line next) : Trail rule start (lines ++ [line]) next

theorem Trail.cons {start middle last : Progress σ} {line : Bytes} {lines : List Bytes}
    (advances : Advances rule start line middle) (trail : Trail rule middle lines last) :
    Trail rule start (line :: lines) last := by
  induction trail with
  | nil => exact .snoc .nil advances
  | snoc _ next ih => exact .snoc ih next

/-- Every run is a trail and a stop. -/
theorem exists_trail_stops (rule : Rule) (route : Route) (start : Progress σ) :
    ∃ lines last result final, Trail rule start lines last ∧ Stops rule route last result final ∧
      start.run rule route = { result, progress := final } := by
  fun_induction run rule route start with
  | case1 start next hstep ih =>
    obtain ⟨lines, last, result, final, trail, stops, hrun⟩ := ih
    obtain ⟨line, advances⟩ := advances_of_step hstep
    exact ⟨line :: lines, last, result, final, trail.cons advances, stops, hrun⟩
  | case2 start result final hstep =>
    exact ⟨[], start, result, final, .nil, stops_of_step hstep, rfl⟩

namespace Trail

variable {start last : Progress σ} {lines : List Bytes}

/-- A pass counts the lines of its trail. -/
theorem summary_eq (trail : Trail rule start lines last) (hstart : start.summary = {}) :
    last.summary = rule.tally lines := by
  induction trail with
  | nil => rw [hstart, rule.tally_nil]
  | snoc _ advances ih => rw [advances.summary, ih, rule.tally_concat]

/-- The lines of a trail are the first that its source gives. -/
theorem reading_eq (trail : Trail rule start lines last) :
    start.source.reading =
      { lines := lines ++ last.source.reading.lines, failure? := last.source.reading.failure? } := by
  induction trail with
  | nil => rfl
  | snoc _ advances ih =>
    rw [ih, Source.reading_of_line advances.read]
    simp only [List.append_assoc, List.singleton_append]

/-- A trail consumes its lines and meets no failure. -/
theorem consumed (trail : Trail rule start lines last) :
    Source.Consumed start.source last.source [] lines.flatten := by
  induction trail with
  | nil => exact .refl start.source
  | snoc _ advances ih =>
    rw [List.flatten_append, List.flatten_singleton]
    exact ih.trans (Source.consumed_of_readLine_line advances.read)

/-- Without an early empty chunk, the lines of a trail are the first of the bytes. -/
theorem lines_eq (trail : Trail rule start lines last) (hchunks : .chunk [] ∉ start.source.fills) :
    Bytes.lines start.source.bytes = lines ++ Bytes.lines last.source.bytes := by
  induction trail with
  | nil => rfl
  | @snoc lines middle line next trail advances ih =>
    have hmiddle : .chunk [] ∉ middle.source.fills := by
      intro h
      exact hchunks (trail.consumed.took.mem h)
    rw [ih, Source.lines_of_readLine_line hmiddle advances.read, List.append_assoc,
      List.singleton_append]

/-- A trail writes its lines, after the rule has been applied to each of them. -/
theorem wrote {start last : Progress ScriptedSink} (trail : Trail rule start lines last) :
    start.sink.Wrote last.sink [] (rule.patched lines) := by
  induction trail with
  | nil => exact .refl start.sink
  | snoc _ advances ih =>
    rw [rule.patched_concat]
    exact ih.trans (ScriptedSink.wrote_of_writeAll_ok advances.write)

end Trail

end Progress

end LinePatch
