import LinePatch.Proofs.Pass.Trail

/-!
# How a pass over a stream ends

Reading, writing and flushing can each fail, at any line. A pass over scripted streams nevertheless ends
in one of four ways: finished, or at the first failure it met. What the sink has taken and the line in
the error agree: all lines before are patched and taken, of the line that could not be read nothing, and
of the line that could not be written less than the whole.

## Main definitions

* `Outcome.Ending`: the four ways
* `Outcome.Met`: the failures a pass has met in the scripts
* `Outcome.Ending.Describes`: what a pass that ends in some way has done

## Main results

* `existsUnique_ending`: a pass ends in exactly one way, and what was taken is the start of what was to be
  written
-/

namespace LinePatch

open Progress

/-- How a pass ends. -/
inductive Outcome.Ending where
  | finished
  | readFailed
  | writeFailed
  | flushFailed
deriving DecidableEq

/-- Of the scripts of a source and a sink a pass has taken a part, in which `reads` and `writes` are the
failures for good, in order. -/
def Outcome.Met (outcome : Outcome ScriptedSink) (fills : List Fill) (answers : List WriteAnswer)
    (reads writes : List IoError) : Prop :=
  Took Fill.error? fills outcome.progress.source.fills reads ∧
    Took WriteAnswer.error? answers outcome.progress.sink.answers writes

namespace Outcome.Ending

/-- What a pass over scripted streams that ends in this way has done. -/
def Describes (rule : Rule) (fills : List Fill) (answers : List WriteAnswer)
    (flushFailure? : Option IoError) (outcome : Outcome ScriptedSink) : Ending → Prop
  | finished =>
    let reading := (Source.ofFills fills).reading
    outcome.result = .ok (rule.tally reading.lines) ∧
      outcome.progress.sink.taken = rule.patched reading.lines ∧
      outcome.progress.sink.flushes = 1 ∧
      outcome.Met fills answers [] [] ∧ reading.failure? = none ∧ flushFailure? = none
  | readFailed => ∃ error,
    let reading := (Source.ofFills fills).reading
    outcome.result = .error (.read "<input>" (reading.lines.length + 1) error) ∧
      outcome.progress.sink.taken = rule.patched reading.lines ∧
      outcome.progress.sink.flushes = 0 ∧
      outcome.Met fills answers [error] [] ∧ reading.failure? = some error
  | writeFailed => ∃ error before line later part missing,
    (Source.ofFills fills).reading.lines = before ++ line :: later ∧
      (rule.apply line).output = part ++ missing ∧ missing ≠ [] ∧
      outcome.result = .error (.write "<output>" (before.length + 1) error) ∧
      outcome.progress.sink.taken = rule.patched before ++ part ∧
      outcome.progress.sink.flushes = 0 ∧
      outcome.Met fills answers [] [error]
  | flushFailed => ∃ error,
    let reading := (Source.ofFills fills).reading
    outcome.result = .error (.write "<output>" reading.lines.length error) ∧
      outcome.progress.sink.taken = rule.patched reading.lines ∧
      outcome.progress.sink.flushes = 1 ∧
      outcome.Met fills answers [] [] ∧ reading.failure? = none ∧ flushFailure? = some error

/-- The way in which a pass has ended, by its result and its flushes. -/
def ofOutcome (outcome : Outcome ScriptedSink) : Ending :=
  match outcome.result with
  | .ok _ => finished
  | .error (.write ..) => if outcome.progress.sink.flushes = 0 then writeFailed else flushFailed
  | .error _ => readFailed

section

variable {rule : Rule} {fills : List Fill} {answers : List WriteAnswer}
  {flushFailure? : Option IoError} {outcome : Outcome ScriptedSink}

/-- No two ways describe the same outcome. -/
theorem Describes.eq_ofOutcome {ending : Ending}
    (h : ending.Describes rule fills answers flushFailure? outcome) : ending = ofOutcome outcome := by
  cases ending with
  | finished => simp [ofOutcome, h.1]
  | readFailed =>
    obtain ⟨error, hresult, -⟩ := h
    simp [ofOutcome, hresult]
  | writeFailed =>
    obtain ⟨error, before, line, later, part, missing, -, -, -, hresult, -, hflushes, -⟩ := h
    simp [ofOutcome, hresult, hflushes]
  | flushFailed =>
    obtain ⟨error, hresult, -, hflushes, -⟩ := h
    simp [ofOutcome, hresult, hflushes]

/-- What was taken is the start of what was to be written. -/
theorem Describes.prefix_patched {ending : Ending}
    (h : ending.Describes rule fills answers flushFailure? outcome) :
    outcome.progress.sink.taken <+: rule.patched (Source.ofFills fills).reading.lines := by
  cases ending with
  | finished => rw [h.2.1]
  | readFailed =>
    obtain ⟨error, -, htaken, -⟩ := h
    rw [htaken]
  | writeFailed =>
    obtain ⟨error, before, line, later, part, missing, hlines, hline, -, -, htaken, -⟩ := h
    rw [htaken, hlines, rule.patched_append, rule.patched_cons, hline, List.append_assoc]
    exact (List.prefix_append_right_inj _).mpr (List.prefix_append part _)
  | flushFailed =>
    obtain ⟨error, -, htaken, -⟩ := h
    rw [htaken]

/-- Every pass ends in one of the four ways. -/
theorem exists_describes (rule : Rule) (fills : List Fill) (answers : List WriteAnswer)
    (flushFailure? : Option IoError) :
    ∃ ending : Ending, ending.Describes rule fills answers flushFailure?
      (patchStream rule (.ofFills fills) ({ answers, flushFailure? } : ScriptedSink)) := by
  obtain ⟨lines, last, result, final, trail, stops, hrun⟩ :=
    exists_trail_stops (σ := ScriptedSink) rule .streams
      { source := .ofFills fills, sink := { answers, flushFailure? } }
  rw [patchStream, hrun]
  have hreading := trail.reading_eq
  have hsummary : last.summary = rule.tally lines := trail.summary_eq rfl
  have htaken : last.sink.taken = rule.patched lines := trail.wrote.taken_eq
  have hflushes : last.sink.flushes = 0 := trail.wrote.flushes_eq
  have hflushFailure := trail.wrote.flushFailure?_eq
  cases stops with
  | finished read flush =>
    rw [Source.reading_of_ended read, List.append_nil] at hreading
    obtain ⟨hnone, rfl⟩ := ScriptedSink.flush_eq_ok_iff.mp flush
    have hconsumed := trail.consumed.trans (Source.consumed_of_readLine_ended read)
    refine ⟨finished, ?_⟩
    simp only [Describes, hreading]
    refine ⟨congrArg _ hsummary, htaken, congrArg (· + 1) hflushes,
      ⟨hconsumed.took, trail.wrote.took⟩, trivial, ?_⟩
    rw [← hnone, hflushFailure]
  | @flushFailed rest sink error read flush =>
    rw [Source.reading_of_ended read, List.append_nil] at hreading
    obtain ⟨hsome, rfl⟩ := ScriptedSink.flush_eq_error_iff.mp flush
    have hconsumed := trail.consumed.trans (Source.consumed_of_readLine_ended read)
    refine ⟨flushFailed, error, ?_⟩
    simp only [hreading]
    refine ⟨by rw [hsummary]; rfl, htaken, congrArg (· + 1) hflushes,
      ⟨hconsumed.took, trail.wrote.took⟩, trivial, ?_⟩
    rw [← hsome, hflushFailure]
  | @readFailed rest error read =>
    rw [Source.reading_of_failed read, List.append_nil] at hreading
    obtain ⟨part, hpart⟩ := Source.consumed_of_readLine_failed read
    have hconsumed := trail.consumed.trans hpart
    refine ⟨readFailed, error, ?_⟩
    simp only [hreading]
    exact ⟨by rw [hsummary]; rfl, htaken, hflushes, ⟨hconsumed.took, trail.wrote.took⟩, trivial⟩
  | @writeFailed line rest sink error read write =>
    rw [Source.reading_of_line read] at hreading
    have hconsumed := trail.consumed.trans (Source.consumed_of_readLine_line read)
    obtain ⟨part, missing, hline, hmissing, hpart⟩ := ScriptedSink.wrote_of_writeAll_error write
    have hwrote := trail.wrote.trans hpart
    refine ⟨writeFailed, error, lines, line, rest.reading.lines, part, missing, ?_, hline, hmissing,
      by rw [hsummary]; rfl, hwrote.taken_eq, hwrote.flushes_eq, ⟨hconsumed.took, hwrote.took⟩⟩
    rw [hreading]

end

end Outcome.Ending

/-- **The endings of a pass.** Whatever the scripts of the source and of the sink, a pass ends in exactly
one of four ways, and the bytes taken are the start of the patched lines. -/
theorem existsUnique_ending (rule : Rule) (fills : List Fill) (answers : List WriteAnswer)
    (flushFailure? : Option IoError) :
    let outcome := patchStream rule (.ofFills fills) ({ answers, flushFailure? } : ScriptedSink)
    (∃! ending : Outcome.Ending, ending.Describes rule fills answers flushFailure? outcome) ∧
      outcome.progress.sink.taken <+: rule.patched (Source.ofFills fills).reading.lines := by
  intro outcome
  obtain ⟨ending, hending⟩ := Outcome.Ending.exists_describes rule fills answers flushFailure?
  refine ⟨⟨ending, hending, ?_⟩, hending.prefix_patched⟩
  intro other hother
  rw [hother.eq_ofOutcome, hending.eq_ofOutcome]

end LinePatch
