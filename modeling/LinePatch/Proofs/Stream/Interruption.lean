import LinePatch.Proofs.Sink.Interruption
import LinePatch.Proofs.Source.Interruption
import LinePatch.Proofs.Stream.Ending

/-!
# Interruptions do not show

Interrupted fills and write calls are made again, so a pass over scripts with interruptions takes the same
steps as one over the scripts without some of them: both read the same lines, write the same bytes and end
alike. Only the record of the write calls tells them apart, by the interrupted ones. A flush is made once,
so it is the only call whose interruption ends a pass.

## Main definitions

* `Progress.Calmed`: a pass and one that is spared some interruptions

## Main results

* `Progress.calmed_run`: two such passes end alike
* `patchStream_calmed`: whatever interruptions are left out of the scripts of a pass, and wherever
-/

namespace LinePatch

namespace Progress

variable {rule : Rule} {route : Route}

/-- `calm` is `progress` without some of the interruptions of its source and of its sink. -/
structure Calmed (progress calm : Progress ScriptedSink) : Prop where
  source : Source.Calmed progress.source calm.source
  sink : ScriptedSink.Calmed progress.sink calm.sink
  summary_eq : calm.summary = progress.summary
  changes_eq : calm.changes = progress.changes

/-- Both steps did the same, and left the same but for some interruptions. -/
inductive CalmedStep : Step ScriptedSink → Step ScriptedSink → Prop
  | next {progress calm} (h : Calmed progress calm) : CalmedStep (.next progress) (.next calm)
  | stop {result calmResult progress calm} (hresult : calmResult = result)
      (h : Calmed progress calm) : CalmedStep (.stop result progress) (.stop calmResult calm)

variable {progress calm : Progress ScriptedSink}

theorem Calmed.withSource (h : Calmed progress calm) {source calmSource : Source}
    (hsource : Source.Calmed source calmSource) :
    Calmed { progress with source } { calm with source := calmSource } :=
  ⟨hsource, h.sink, h.summary_eq, h.changes_eq⟩

theorem Calmed.withSink (h : Calmed progress calm) {sink calmSink : ScriptedSink}
    (hsink : ScriptedSink.Calmed sink calmSink) :
    Calmed { progress with sink } { calm with sink := calmSink } :=
  ⟨h.source, hsink, h.summary_eq, h.changes_eq⟩

theorem Calmed.note (h : Calmed progress calm) (count : Nat) :
    Calmed (progress.note count) (calm.note count) := by
  refine ⟨h.source, h.sink, ?_, ?_⟩
  · simp only [Progress.note, h.summary_eq]
  · simp only [Progress.note, h.summary_eq, h.changes_eq]

theorem calmedStep_writeLine (h : Calmed progress calm) (line : Bytes) :
    CalmedStep (progress.writeLine route line) (calm.writeLine route line) := by
  have hwrite := ScriptedSink.calmedResult_writeAll h.sink line
  unfold writeLine
  change ScriptedSink.CalmedResult (Sink.writeAll line progress.sink) (Sink.writeAll line calm.sink)
    at hwrite
  generalize Sink.writeAll line progress.sink = result at hwrite
  generalize Sink.writeAll line calm.sink = calmResult at hwrite
  cases hwrite with
  | ok hsink => exact .next (h.withSink hsink)
  | error hsink => exact .stop (by rw [h.summary_eq]) (h.withSink hsink)

theorem calmedStep_close (h : Calmed progress calm) :
    CalmedStep (progress.close route) (calm.close route) := by
  have hflush := ScriptedSink.calmedResult_flush h.sink
  unfold close
  change ScriptedSink.CalmedResult (Sink.flush progress.sink) (Sink.flush calm.sink) at hflush
  generalize Sink.flush progress.sink = result at hflush
  generalize Sink.flush calm.sink = calmResult at hflush
  cases hflush with
  | ok hsink => exact .stop (by rw [h.summary_eq]) (h.withSink hsink)
  | error hsink => exact .stop (by rw [h.summary_eq]) (h.withSink hsink)

theorem calmedStep_step (rule : Rule) (route : Route) (h : Calmed progress calm) :
    CalmedStep (progress.step rule route) (calm.step rule route) := by
  have hread := Source.calmedRead_readLine h.source
  unfold step
  generalize progress.source.readLine = read at hread
  generalize calm.source.readLine = calmRead at hread
  cases hread with
  | line hsource => exact calmedStep_writeLine ((h.withSource hsource).note _) _
  | ended hsource => exact calmedStep_close (h.withSource hsource)
  | failed hsource => exact .stop (by rw [h.summary_eq]) (h.withSource hsource)

/-! ## Two runs in step -/

/-- A pass ends alike without some of its interruptions. -/
theorem calmed_run (rule : Rule) (route : Route) (h : Calmed progress calm) :
    (calm.run rule route).result = (progress.run rule route).result ∧
      Calmed (progress.run rule route).progress (calm.run rule route).progress := by
  fun_induction run rule route progress generalizing calm with
  | case1 progress next hstep ih =>
    have hcalmed := calmedStep_step rule route h
    rw [hstep] at hcalmed
    generalize hcalm : calm.step rule route = step at hcalmed
    cases hcalmed with
    | next hnext =>
      rw [run_of_step_next hcalm]
      exact ih hnext
  | case2 progress result last hstep =>
    have hcalmed := calmedStep_step rule route h
    rw [hstep] at hcalmed
    generalize hcalm : calm.step rule route = step at hcalmed
    cases hcalmed with
    | stop hresult hlast =>
      rw [run_of_step_stop hcalm]
      exact ⟨hresult, hlast⟩

end Progress

/-! ## Errors -/

/-- An error that is not made up for is no interruption. -/
theorem IoError.isInterrupted_eq_false_of_ite {failure error : IoError}
    (h : (if failure.isInterrupted then none else some failure) = some error) :
    error.isInterrupted = false := by
  split at h
  next => cases h
  next hfailure =>
    cases h
    exact Bool.eq_false_iff.mpr hfailure

theorem Fill.isInterrupted_eq_false_of_error? {fill : Fill} {error : IoError}
    (h : fill.error? = some error) : error.isInterrupted = false := by
  cases fill with
  | chunk bytes => cases h
  | failure failure => exact IoError.isInterrupted_eq_false_of_ite h

theorem WriteAnswer.isInterrupted_eq_false_of_error? {answer : WriteAnswer} {error : IoError}
    (h : answer.error? = some error) : error.isInterrupted = false := by
  cases answer with
  | upTo limit =>
    obtain ⟨-, rfl⟩ : limit = 0 ∧ IoError.wroteNothing = error := by simpa [error?] using h
    rfl
  | everything => cases h
  | failure failure => exact IoError.isInterrupted_eq_false_of_ite h

/-- Only a flush can end a pass by an interruption. -/
theorem Outcome.Ending.Describes.flushFailed_of_isInterrupted {rule : Rule} {fills : List Fill}
    {answers : List WriteAnswer} {flushFailure? : Option IoError} {outcome : Outcome ScriptedSink}
    {ending : Outcome.Ending} (h : ending.Describes rule fills answers flushFailure? outcome)
    {error : PatchError} (hresult : outcome.result = .error error)
    (herror : error.cause.isInterrupted) :
    outcome.progress.sink.flushes = 1 ∧ flushFailure? = some error.cause := by
  cases ending with
  | finished =>
    rw [h.1] at hresult
    cases hresult
  | readFailed =>
    obtain ⟨cause, hread, -, -, ⟨htook, -⟩, -⟩ := h
    rw [hread] at hresult
    cases hresult
    obtain ⟨fill, -, hfill⟩ := htook.exists_of_mem (List.mem_singleton_self cause)
    have hfalse := Fill.isInterrupted_eq_false_of_error? hfill
    exact absurd herror (by simp [PatchError.cause, hfalse])
  | writeFailed =>
    obtain ⟨cause, before, line, later, part, missing, -, -, -, hwrite, -, -, -, htook⟩ := h
    rw [hwrite] at hresult
    cases hresult
    obtain ⟨answer, -, hanswer⟩ := htook.exists_of_mem (List.mem_singleton_self cause)
    have hfalse := WriteAnswer.isInterrupted_eq_false_of_error? hanswer
    exact absurd herror (by simp [PatchError.cause, hfalse])
  | flushFailed =>
    obtain ⟨cause, hflush, -, hflushes, -, -, hsome⟩ := h
    rw [hflush] at hresult
    cases hresult
    exact ⟨hflushes, hsome⟩

/-- **Interruptions do not show.** Leave any of the interruptions out of the scripts of a source and of a
sink, wherever they stand: a pass still has the same result, writes the same bytes, flushes as often and
leaves the same bytes unread, and of its write calls only interrupted ones are missing. No pass ends by an
interruption but one whose only flush was interrupted. -/
theorem patchStream_calmed (rule : Rule) {fills calmFills : List Fill}
    {answers calmAnswers : List WriteAnswer} (flushFailure? : Option IoError)
    (hfills : Omits Fill.isInterruption fills calmFills)
    (hanswers : Omits WriteAnswer.isInterruption answers calmAnswers) :
    let outcome := patchStream rule (.ofFills fills) ({ answers, flushFailure? } : ScriptedSink)
    let calm := patchStream rule (.ofFills calmFills)
      ({ answers := calmAnswers, flushFailure? } : ScriptedSink)
    (calm.result = outcome.result ∧
        calm.progress.sink.taken = outcome.progress.sink.taken ∧
        calm.progress.sink.flushes = outcome.progress.sink.flushes ∧
        calm.progress.source.unread = outcome.progress.source.unread ∧
        Omits WriteCall.isInterrupted outcome.progress.sink.calls.toList
          calm.progress.sink.calls.toList) ∧
      ∀ error, outcome.result = .error error → error.kind = .interrupted →
        outcome.progress.sink.flushes = 1 ∧ flushFailure? = some error.cause := by
  intro outcome calm
  have hstart : Progress.Calmed
      { source := .ofFills fills, sink := ({ answers, flushFailure? } : ScriptedSink) }
      { source := .ofFills calmFills, sink := { answers := calmAnswers, flushFailure? } } :=
    ⟨⟨rfl, hfills⟩, ⟨hanswers, rfl, rfl, .nil, rfl⟩, rfl, rfl⟩
  obtain ⟨hresult, hprogress⟩ := Progress.calmed_run rule .streams hstart
  refine ⟨⟨hresult, ?_, hprogress.sink.flushes_eq, hprogress.source.unread_eq, hprogress.sink.calls⟩, ?_⟩
  · exact congrArg Array.toList hprogress.sink.contents_eq
  · intro error herror hkind
    obtain ⟨ending, hending⟩ :=
      Outcome.Ending.exists_describes rule fills answers flushFailure?
    have hcause : error.cause.isInterrupted := decide_eq_true hkind
    exact hending.flushFailed_of_isInterrupted herror hcause

/-- Interruptions before the first chunk, inside a line and at the end of the input, and before and behind
a short write; the flush is interrupted too. -/
theorem patchStream_calmed_everywhere :
    let interrupted : IoError := .system .interruptedCall
    let fills := [.failure interrupted, .chunk (utf8 "assert(fal"), .failure interrupted,
      .failure interrupted, .chunk (utf8 "se);\n"), .failure interrupted]
    let calmFills := [.chunk (utf8 "assert(fal"), .chunk (utf8 "se);\n"), .failure interrupted]
    let answers := [.failure interrupted, .upTo 3, .failure interrupted]
    let calmAnswers := [.upTo 3]
    let outcome := patchStream .assertReturn (.ofFills fills)
      ({ answers, flushFailure? := some interrupted } : ScriptedSink)
    let calm := patchStream .assertReturn (.ofFills calmFills)
      ({ answers := calmAnswers, flushFailure? := some interrupted } : ScriptedSink)
    (Omits Fill.isInterruption fills calmFills ∧
        Omits WriteAnswer.isInterruption answers calmAnswers) ∧
      calm.result = .error (.write "<output>" 1 interrupted) ∧ calm.result = outcome.result ∧
      calm.progress.sink.offered = [25, 22] ∧ outcome.progress.sink.offered = [25, 25, 22, 22] ∧
      outcome.progress.sink.flushes = 1 := by
  intro interrupted fills calmFills answers calmAnswers outcome calm
  have hfills : Omits Fill.isInterruption fills calmFills :=
    .skip rfl (.keep _ (.skip rfl (.skip rfl (.keep _ (.keep _ .nil)))))
  have hanswers : Omits WriteAnswer.isInterruption answers calmAnswers :=
    .skip rfl (.keep _ (.skip rfl .nil))
  obtain ⟨⟨hresult, -⟩, herror⟩ :=
    patchStream_calmed .assertReturn (some interrupted) hfills hanswers
  have hcalm : calm.result = .error (.write "<output>" 1 interrupted) := by decide +kernel
  obtain ⟨hflushes, -⟩ := herror _ (hresult.symm.trans hcalm) rfl
  refine ⟨⟨hfills, hanswers⟩, hcalm, hresult, ?_, ?_, hflushes⟩
  all_goals decide +kernel

end LinePatch
