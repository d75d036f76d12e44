import LinePatch.Proofs.Pass.Trail
import LinePatch.Proofs.Source.GroupedReading

/-!
# Patching a script of fills

How many lines a pass sees, where it ends and what it leaves of a script depends on where the empty chunks
and the failures stand in it. Read in groups, every script says so: a pass over it patches the lines of
its groups.

## Main results

* `Progress.Trail.groupedReading_eq`: the lines of a trail are the first of the groups
* `patchStream_eq_groupedReading`: a pass over any script
-/

namespace LinePatch

open Progress

/-- The lines of a trail are the first lines of the groups. -/
theorem Progress.Trail.groupedReading_eq {σ : Type} [Sink σ] {rule : Rule} {start last : Progress σ}
    {lines : List Bytes} (trail : Trail rule start lines last) :
    start.source.groupedReading =
      { last.source.groupedReading with lines := lines ++ last.source.groupedReading.lines } := by
  induction trail with
  | nil => rfl
  | snoc _ advances ih =>
    rw [ih, Source.groupedReading_of_line advances.read]
    simp only [List.append_assoc, List.singleton_append]

/-- **From a script to lines.** Whatever the fills, a pass to a sink that takes all it is offered patches
the lines of their groups and counts these lines. It ends where the groups end, after a failure with an
error at the line behind them, and leaves the fills behind its last group. -/
theorem patchStream_eq_groupedReading (rule : Rule) (fills : List Fill) (answers : List WriteAnswer)
    (hanswers : ∀ answer ∈ answers, answer.error? = none) :
    let outcome := patchStream rule (.ofFills fills) ({ answers } : ScriptedSink)
    let reading := (Source.ofFills fills).groupedReading
    outcome.result =
        (match reading.failure? with
        | none => .ok (rule.tally reading.lines)
        | some error => .error (.read "<input>" (reading.lines.length + 1) error)) ∧
      outcome.progress.sink.taken = rule.patched reading.lines ∧
      outcome.progress.source = .ofFills reading.left := by
  intro outcome reading
  obtain ⟨lines, last, result, final, trail, stops, hrun⟩ :=
    exists_trail_stops (σ := ScriptedSink) rule .streams
      { source := .ofFills fills, sink := { answers } }
  have houtcome : outcome = { result, progress := final } := hrun
  have hreading : reading =
      { last.source.groupedReading with lines := lines ++ last.source.groupedReading.lines } :=
    trail.groupedReading_eq
  have hsummary : last.summary = rule.tally lines := trail.summary_eq rfl
  have htaken : last.sink.taken = rule.patched lines := trail.wrote.taken_eq
  cases stops with
  | finished read flush =>
    obtain ⟨hended, hsource⟩ := Source.groupedReading_of_ended read
    obtain ⟨-, rfl⟩ := ScriptedSink.flush_eq_ok_iff.mp flush
    rw [hended, List.append_nil] at hreading
    rw [houtcome, hreading]
    exact ⟨congrArg _ hsummary, htaken, hsource⟩
  | flushFailed read flush =>
    obtain ⟨hsome, -⟩ := ScriptedSink.flush_eq_error_iff.mp flush
    rw [trail.wrote.flushFailure?_eq] at hsome
    cases hsome
  | @readFailed source error read =>
    obtain ⟨hfailed, hsource⟩ := Source.groupedReading_of_failed read
    rw [hfailed, List.append_nil] at hreading
    rw [houtcome, hreading]
    refine ⟨?_, htaken, hsource⟩
    rw [hsummary]
    rfl
  | writeFailed read write =>
    obtain ⟨part, rest, -, -, hpart⟩ := ScriptedSink.wrote_of_writeAll_error write
    have hnil := (trail.wrote.trans hpart).took.errors_eq_nil hanswers
    cases hnil

/-- A group that ends inside a line and one that ends with a line break, behind which the pass is over; and
a group that fails inside its second line. -/
theorem patchStream_eq_groupedReading_two_groups :
    let error : IoError := .system .inputOutput
    let closed := [.failure (.system .interruptedCall), .chunk (utf8 "a\nb"), .chunk [],
      .chunk (utf8 "c"), .chunk (utf8 "\n"), .chunk [], .chunk (utf8 "x")]
    let failing := [.chunk (utf8 "a\nb"), .chunk [], .chunk (utf8 "c\nd"), .failure error,
      .chunk (utf8 "x")]
    let outcome (fills : List Fill) :=
      patchStream .assertReturn (.ofFills fills) ({ answers := [.upTo 1] } : ScriptedSink)
    (∀ answer ∈ [WriteAnswer.upTo 1], answer.error? = none) ∧
      ((outcome closed).result = .ok { lines := 3 } ∧
        (outcome closed).progress.sink.taken = utf8 "a\nbc\n" ∧
        (outcome closed).progress.source = .ofFills [.chunk (utf8 "x")]) ∧
      (outcome failing).result = .error (.read "<input>" 4 error) ∧
        (outcome failing).progress.sink.taken = utf8 "a\nbc\n" ∧
        (outcome failing).progress.source = .ofFills [.chunk (utf8 "x")] := by
  intro error closed failing outcome
  have hanswers : ∀ answer ∈ [WriteAnswer.upTo 1], answer.error? = none := by decide
  obtain ⟨hresult, htaken, hsource⟩ :=
    patchStream_eq_groupedReading .assertReturn closed [.upTo 1] hanswers
  obtain ⟨hresult', htaken', hsource'⟩ :=
    patchStream_eq_groupedReading .assertReturn failing [.upTo 1] hanswers
  refine ⟨hanswers, ⟨hresult.trans ?_, htaken.trans ?_, hsource.trans ?_⟩,
    hresult'.trans ?_, htaken'.trans ?_, hsource'.trans ?_⟩
  all_goals decide +kernel

end LinePatch
