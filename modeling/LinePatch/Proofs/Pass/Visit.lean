import LinePatch.Proofs.Pass.Trail

/-!
# The lines that a pass visits

A pass applies its rule to each line that it has read, also to one that it then fails to write. The visits
of a pass are these lines, in order, each with the sink that the pass has at that time. They are the lines of
its trail, and the line that could not be written if the pass ended with one.

## Main definitions

* `Visit`: a line that has been read, and the sink to which it is to be written
* `Progress.visits`: the visits of a pass

## Main results

* `Progress.Advances.visits_eq`, `Progress.visits_of_ended`, `visits_of_failed`, `visits_of_writeAll_error`:
  the visits of a step over a line, and of the last step
* `Progress.Trail.exists_visits_eq`: a pass has visited the lines of its trail
* `Progress.exists_writeAll_of_visits_eq`: a line behind which another is visited has been written
-/

namespace LinePatch

/-- A line that has been read, and the sink to which it is to be written when the rule has been applied. -/
structure Visit (σ : Type) where
  line : Bytes
  sink : σ

namespace Progress

variable {σ : Type} [Sink σ]

/-- The lines to which a pass applies its rule, in order. -/
def visits (rule : Rule) (route : Route) (progress : Progress σ) : List (Visit σ) :=
  match progress.source.readLine with
  | .line line _ =>
    { line, sink := progress.sink } ::
      match _h : progress.step rule route with
      | .next next => next.visits rule route
      | .stop _ _ => []
  | .ended _ | .failed _ _ => []
termination_by progress.source.size
decreasing_by exact size_lt_of_step_next _h

variable {rule : Rule} {progress next : Progress σ} {line : Bytes}

theorem Advances.step_eq (h : Advances rule progress line next) (route : Route) :
    progress.step rule route = .next next := by
  obtain ⟨source, sink, summary, changes⟩ := next
  obtain ⟨read, write, rfl, rfl⟩ := h
  simp only at read write
  simp only [step, read, writeLine, note, write]

/-- A step over a line visits that line. -/
theorem Advances.visits_eq (h : Advances rule progress line next) (route : Route) :
    progress.visits rule route = { line, sink := progress.sink } :: next.visits rule route := by
  rw [visits, h.read]
  simp only
  split
  next _ hnext =>
    rw [h.step_eq route] at hnext
    cases hnext
    rfl
  next _ _ hstop =>
    rw [h.step_eq route] at hstop
    cases hstop

variable {route : Route}

/-- The last step visits a line only if it fails to write it. -/
theorem visits_of_ended {source : Source} (read : progress.source.readLine = .ended source) :
    progress.visits rule route = [] := by
  rw [visits, read]

theorem visits_of_failed {source : Source} {error : IoError}
    (read : progress.source.readLine = .failed error source) : progress.visits rule route = [] := by
  rw [visits, read]

theorem visits_of_writeAll_error {source : Source} {sink : σ} {error : IoError}
    (read : progress.source.readLine = .line line source)
    (write : Sink.writeAll (rule.apply line).output progress.sink = .error error sink) :
    progress.visits rule route = [{ line, sink := progress.sink }] := by
  rw [visits, read]
  simp only
  split
  next _ hnext =>
    obtain ⟨_, advances⟩ := advances_of_step hnext
    have hread := advances.read
    rw [read] at hread
    cases hread
    have hwrite := advances.write
    rw [write] at hwrite
    cases hwrite
  next => rfl

/-- A pass has visited the lines of its trail, and has written each of them. -/
theorem Trail.exists_visits_eq {start last : Progress σ} {lines : List Bytes}
    (trail : Trail rule start lines last) (route : Route) :
    ∃ seen, start.visits rule route = seen ++ last.visits rule route ∧ seen.map Visit.line = lines ∧
      ∀ visit ∈ seen, ∃ sink, Sink.writeAll (rule.apply visit.line).output visit.sink = .ok () sink := by
  induction trail with
  | nil => exact ⟨[], rfl, rfl, List.forall_mem_nil _⟩
  | @snoc lines middle line next _ advances ih =>
    obtain ⟨seen, hvisits, hlines, hwritten⟩ := ih
    refine ⟨seen ++ [{ line, sink := middle.sink }], ?_, ?_, ?_⟩
    · rw [hvisits, advances.visits_eq route, List.append_assoc, List.singleton_append]
    · rw [List.map_append, hlines]
      rfl
    · refine List.forall_mem_append.mpr ⟨hwritten, List.forall_mem_singleton.mpr ?_⟩
      exact ⟨next.sink, advances.write⟩

/-- The step that ends a pass visits one line at most. -/
theorem Stops.length_visits_le {last : Progress σ} {result : Except PatchError Summary}
    (stops : Stops rule route progress result last) : (progress.visits rule route).length ≤ 1 := by
  cases stops with
  | finished read => simp [visits_of_ended read]
  | flushFailed read => simp [visits_of_ended read]
  | readFailed read => simp [visits_of_failed read]
  | writeFailed read write => simp [visits_of_writeAll_error read write]

/-- A line behind which another is visited has been written: behind the lines of the trail stands one visit at
most. -/
theorem exists_writeAll_of_visits_eq {seen later : List (Visit σ)} {visit : Visit σ}
    (h : progress.visits rule route = seen ++ visit :: later) :
    ∀ earlier ∈ seen, ∃ sink,
      Sink.writeAll (rule.apply earlier.line).output earlier.sink = .ok () sink := by
  obtain ⟨_, last, _, _, trail, stops, -⟩ := exists_trail_stops rule route progress
  obtain ⟨written, hvisits, -, hwritten⟩ := trail.exists_visits_eq route
  have hlast := stops.length_visits_le
  have hamong : seen <+: written := by
    refine List.prefix_of_prefix_length_le ⟨visit :: later, h.symm⟩
      ⟨last.visits rule route, hvisits.symm⟩ ?_
    have hlength := congrArg List.length (hvisits.symm.trans h)
    rw [List.length_append, List.length_append, List.length_cons] at hlength
    omega
  intro earlier hearlier
  exact hwritten earlier (hamong.mem hearlier)

end Progress

end LinePatch
