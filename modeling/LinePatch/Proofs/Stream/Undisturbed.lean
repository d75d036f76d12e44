import LinePatch.Proofs.Pass.Trail

/-!
# Undisturbed streams

A stream is undisturbed if no fill is empty before the input ends and neither reading nor writing fails
for good. Patching such a stream succeeds, and what is counted and written depends only on the bytes of
the input: not on how they are spread over chunks, nor on how the sink cuts what it is offered.

## Main definitions

* `Undisturbed`: a stream that delivers an input and that nothing disturbs

## Main results

* `patched_of_result_eq_ok`: what a pass that succeeds has counted, read and written
* `exists_result_eq_ok`: an undisturbed pass succeeds
* `patchStream_of_undisturbed`: the whole outcome of an undisturbed pass, from the bytes of the input
-/

namespace LinePatch

open Progress

section

variable {rule : Rule} {source : Source} {sink : ScriptedSink} {summary : Summary}

/-- A pass that succeeds, over a source without an early empty chunk, has read all lines of the input,
counted them, and written them patched. -/
theorem patched_of_result_eq_ok (hchunks : .chunk [] ∉ source.fills)
    (hok : (patchStream rule source sink).result = .ok summary) :
    summary = rule.tally (Bytes.lines source.bytes) ∧
      (patchStream rule source sink).progress.sink.taken =
        sink.taken ++ rule.patched (Bytes.lines source.bytes) ∧
      (patchStream rule source sink).progress.sink.flushes = sink.flushes + 1 ∧
      (patchStream rule source sink).progress.source = .ofFills [] := by
  obtain ⟨lines, last, result, final, trail, stops, hrun⟩ :=
    exists_trail_stops rule .streams { source, sink }
  rw [patchStream, hrun] at hok ⊢
  obtain rfl : result = .ok summary := hok
  cases stops with
  | @finished rest flushed read flush =>
    have hlast : .chunk [] ∉ last.source.fills := by
      intro h
      exact hchunks (trail.consumed.took.mem h)
    obtain ⟨hbytes, hrest⟩ := Source.bytes_of_readLine_ended hlast read
    have hlines : Bytes.lines source.bytes = lines := by
      have hbegins := trail.lines_eq hchunks
      rwa [hbytes, Bytes.lines_nil, List.append_nil] at hbegins
    obtain ⟨-, rfl⟩ := ScriptedSink.flush_eq_ok_iff.mp flush
    rw [hlines]
    exact ⟨trail.summary_eq rfl, trail.wrote.taken_eq, congrArg (· + 1) trail.wrote.flushes_eq, hrest⟩

/-- Patching succeeds if no fill, no answer and no flush fails for good. -/
theorem exists_result_eq_ok (rule : Rule) (source : Source) (sink : ScriptedSink)
    (hfills : ∀ fill ∈ source.fills, fill.error? = none)
    (hanswers : ∀ answer ∈ sink.answers, answer.error? = none)
    (hflush : sink.flushFailure? = none) :
    ∃ summary, (patchStream rule source sink).result = .ok summary := by
  obtain ⟨lines, last, result, final, trail, stops, hrun⟩ :=
    exists_trail_stops rule .streams { source, sink }
  rw [patchStream, hrun]
  cases stops with
  | finished read flush => exact ⟨_, rfl⟩
  | flushFailed read flush =>
    obtain ⟨hsome, -⟩ := ScriptedSink.flush_eq_error_iff.mp flush
    rw [trail.wrote.flushFailure?_eq, hflush] at hsome
    cases hsome
  | readFailed read =>
    obtain ⟨part, hpart⟩ := Source.consumed_of_readLine_failed read
    have hnil := (trail.consumed.trans hpart).took.errors_eq_nil hfills
    cases hnil
  | writeFailed read write =>
    obtain ⟨part, rest, -, -, hpart⟩ := ScriptedSink.wrote_of_writeAll_error write
    have hnil := (trail.wrote.trans hpart).took.errors_eq_nil hanswers
    cases hnil

end

/-- A stream that delivers `input` and that nothing disturbs: no fill is empty, and neither a fill nor a
write call fails for good. -/
structure Undisturbed (input : Bytes) (fills : List Fill) (answers : List WriteAnswer) : Prop where
  delivered_eq : Source.delivered fills = input
  chunks : .chunk [] ∉ fills
  fills : ∀ fill ∈ fills, fill.error? = none
  answers : ∀ answer ∈ answers, answer.error? = none

/-- A pass over an undisturbed stream counts and patches the lines of the input. -/
theorem Undisturbed.outcome_eq {input : Bytes} {fills : List Fill} {answers : List WriteAnswer}
    (h : Undisturbed input fills answers) (rule : Rule) :
    (patchStream rule (.ofFills fills) ({ answers } : ScriptedSink)).result =
        .ok (rule.tally (Bytes.lines input)) ∧
      (patchStream rule (.ofFills fills) ({ answers } : ScriptedSink)).progress.sink.taken =
        rule.patched (Bytes.lines input) := by
  obtain ⟨summary, hok⟩ :=
    exists_result_eq_ok rule (.ofFills fills) { answers } h.fills h.answers rfl
  obtain ⟨rfl, htaken, -, -⟩ := patched_of_result_eq_ok h.chunks hok
  rw [Source.bytes_ofFills, h.delivered_eq] at hok htaken
  exact ⟨hok, htaken⟩

/-- **An undisturbed pass** over an input, however it arrives in chunks and however the sink cuts what it
is offered: each line is patched and written, all lines are counted, and the sink is flushed once. -/
theorem patchStream_of_undisturbed (rule : Rule) (input : Bytes) (fills : List Fill)
    (answers : List WriteAnswer) (hinput : Source.delivered fills = input)
    (hchunks : .chunk [] ∉ fills) (hfills : ∀ fill ∈ fills, fill.error? = none)
    (hanswers : ∀ answer ∈ answers, answer.error? = none) :
    let outcome := patchStream rule (.ofFills fills) ({ answers } : ScriptedSink)
    outcome.result = .ok
        { lines := (Bytes.lines input).length
          changedLines := (Bytes.lines input).countP fun line => rule.onBytes.pattern <:+: line
          replacements := ((Bytes.lines input).map fun line => (rule.apply line).count).sum } ∧
      outcome.progress.sink.taken =
        ((Bytes.lines input).map fun line => (rule.apply line).output).flatten ∧
      outcome.progress.sink.flushes = 1 ∧
      outcome.progress.source = .ofFills [] := by
  intro outcome
  obtain ⟨summary, hok⟩ :=
    exists_result_eq_ok rule (.ofFills fills) { answers } hfills hanswers rfl
  obtain ⟨rfl, htaken, hflushes, hsource⟩ := patched_of_result_eq_ok hchunks hok
  rw [Source.bytes_ofFills, hinput] at hok htaken
  exact ⟨hok, htaken.trans (List.flatMap_def ..), hflushes, hsource⟩

/-- An interrupted fill falls into the pattern, and the sink takes one byte, then three, then all. -/
theorem patchStream_cut_in_pattern :
    let fills := [.chunk (utf8 "x\nassert(fal"), .failure (.system .interruptedCall),
      .chunk (utf8 "se);\ny")]
    let answers := [.upTo 1, .upTo 3]
    let outcome := patchStream .assertReturn (.ofFills fills) ({ answers } : ScriptedSink)
    .chunk [] ∉ fills ∧ (∀ fill ∈ fills, fill.error? = none) ∧
      (∀ answer ∈ answers, answer.error? = none) ∧
      outcome.result = .ok { lines := 3, changedLines := 1, replacements := 1 } ∧
      outcome.progress.sink.taken = utf8 "x\nassert(false);return \"\";\ny" ∧
      outcome.progress.sink.flushes = 1 ∧
      outcome.progress.source = .ofFills [] := by
  intro fills answers outcome
  have hchunks : .chunk [] ∉ fills := by decide
  have hfills : ∀ fill ∈ fills, fill.error? = none := by decide
  have hanswers : ∀ answer ∈ answers, answer.error? = none := by decide
  obtain ⟨hresult, htaken, hflushes, hsource⟩ :=
    patchStream_of_undisturbed .assertReturn (utf8 "x\nassert(false);\ny") fills answers (by decide)
      hchunks hfills hanswers
  refine ⟨hchunks, hfills, hanswers, hresult.trans (congrArg _ ?_), htaken.trans ?_, hflushes, hsource⟩
  · decide +kernel
  · decide +kernel

end LinePatch
