import LinePatch.Proofs.Pass.Moment
import LinePatch.Proofs.Pass.Visit

/-!
# A pass ends

None of the loops of a pass can go on for ever, though some of their turns read no byte and write none. Each
line makes the source smaller. Within a line, looking again takes a fill, replacing an occurrence leaves less
of the line, and another call takes an answer or has written the line. So everything that a turn can use up,
weighed in the order of the loops, is a budget that no turn leaves as it was; and the budget of a pass that
begins is known from its scripts.

## Main definitions

* `Moment.budget`: how many turns a pass has left, at most
* `LoopsConsume`: what each loop uses up before it goes on

## Main results

* `Moment.budget_lt_of_turn`: every turn lowers the budget
* `patchStream_terminates`: a pass over scripts ends, and how many turns it can take
-/

namespace LinePatch

namespace Source

variable {taken taken' line : Bytes} {source next rest : Source}

/-- Looking again takes one fill, and keeps all bytes. -/
theorem size_of_look_again (h : source.look taken = .again (taken', next)) :
    taken'.length + next.size + 1 = taken.length + source.size := by
  obtain ⟨fill, hfills, rfl, hunread⟩ := exists_fill_of_look_again h
  simp only [size, hfills, hunread, delivered, List.reverseAux_eq, List.length_append, List.length_reverse,
    List.length_cons, List.flatMap_cons]
  omega

/-- A line holds at least one byte. -/
theorem size_of_look_line (h : source.look taken = .done (.line line rest)) :
    0 < line.length ∧ line.length + rest.size ≤ taken.length + source.size := by
  obtain ⟨hpos, hle⟩ := length_add_size_le_of_readLineFrom_line (readLineFrom_of_look_done h)
  rw [Nat.add_assoc, ← size_eq_add_size_ofFills] at hle
  exact ⟨hpos, hle⟩

end Source

namespace Moment

variable {rule : Rule} {route : Route}

/-- How many turns a pass has left, at most. A fill or a byte is worth more than all the turns of a line that
take neither a fill nor an answer: to look at the line, to find no further occurrence, to make the call that
writes it, and to find nothing left of it. -/
def budget : Moment → Nat
  | reading taken progress => 5 * (taken.length + progress.source.size) + progress.sink.answers.length + 2
  | patching scan progress =>
    5 * progress.source.size + progress.sink.answers.length + scan.rest.length + 5
  | writing left progress =>
    5 * progress.source.size + progress.sink.answers.length + (if left = [] then 3 else 4)
  | closing _ => 1

theorem budget_pos (moment : Moment) : 0 < moment.budget := by
  cases moment with
  | reading | patching => exact Nat.succ_pos _
  | writing =>
    simp only [budget]
    split <;> exact Nat.succ_pos _
  | closing => exact Nat.one_pos

/-- Every turn lowers the budget. -/
theorem GoesOn.budget_lt {moment next : Moment} (h : GoesOn rule moment next) :
    next.budget < moment.budget := by
  cases h with
  | look hlook =>
    have hsize := Source.size_of_look_again hlook
    simp only [budget]
    omega
  | line hlook =>
    obtain ⟨hpos, hle⟩ := Source.size_of_look_line hlook
    simp only [budget, Scan.start]
    omega
  | ended =>
    simp only [budget]
    omega
  | replaced hadvance =>
    have hlt := Substitution.length_rest_lt_of_advance? hadvance
    simp only [budget]
    omega
  | patched =>
    simp only [budget, Progress.note]
    split <;> omega
  | called hattempt =>
    obtain ⟨hne, ⟨answer, hanswers⟩ | ⟨hnone, hnone', rfl⟩⟩ :=
      ScriptedSink.exists_answer_of_attempt_again hattempt
    · simp only [budget, hanswers, List.length_cons, if_neg hne]
      split <;> omega
    · simp only [budget, hnone, hnone', if_neg hne, if_true]
      omega
  | written hattempt =>
    obtain ⟨rfl, rfl⟩ := ScriptedSink.eq_nil_of_attempt_done_ok hattempt
    simp only [budget, List.length_nil, if_true]
    omega

end Moment

open Moment

/-- What each loop of a pass uses up before it goes on. -/
structure LoopsConsume (rule : Rule) (route : Route) : Prop where
  /-- The next line is read from a source that has become smaller. -/
  lines : ∀ progress next : Progress ScriptedSink, progress.step rule route = .next next →
    next.source.size < progress.source.size
  /-- Within a line, a fill is taken before what has arrived is looked at again. -/
  reading : ∀ taken taken' progress next,
    (reading taken progress).turn rule route = .again (reading taken' next) →
      ∃ fill, progress.source.fills = fill :: next.source.fills
  /-- Behind an occurrence less is left of the line. -/
  patching : ∀ scan scan' progress next,
    (patching scan progress).turn rule route = .again (patching scan' next) →
      scan'.rest.length < scan.rest.length
  /-- Within a line, a call takes an answer before another is made, or it completes the line. -/
  writing : ∀ left left' progress next,
    (writing left progress).turn rule route = .again (writing left' next) →
      (∃ answer, progress.sink.answers = answer :: next.sink.answers) ∨
        progress.sink.answers = [] ∧ left' = []

theorem loopsConsume (rule : Rule) (route : Route) : LoopsConsume rule route where
  lines _ _ h := Progress.size_lt_of_step_next h
  reading _ _ _ _ h := by
    cases goesOn_of_turn h with
    | look hlook =>
      obtain ⟨fill, hfills, -⟩ := Source.exists_fill_of_look_again hlook
      exact ⟨fill, hfills⟩
  patching _ _ _ _ h := by
    cases goesOn_of_turn h with
    | replaced hadvance => exact Substitution.length_rest_lt_of_advance? hadvance
  writing _ _ _ _ h := by
    cases goesOn_of_turn h with
    | called hattempt =>
      rcases (ScriptedSink.exists_answer_of_attempt_again hattempt).2 with hanswer | ⟨hnone, -, hleft⟩
      · exact .inl hanswer
      · exact .inr ⟨hnone, hleft⟩

/-- **A pass ends.** Taken turn by turn, every pass over scripts ends, and with the outcome of the pass. It takes
no more than five turns for each fill and for each byte of the source, one for each answer of the sink, and two
to find the end and to flush. None of its loops goes on without using something up. -/
theorem patchStream_terminates (rule : Rule) (fills : List Fill) (answers : List WriteAnswer)
    (flushFailure? : Option IoError) :
    let start : Progress ScriptedSink :=
      { source := .ofFills fills, sink := { answers, flushFailure? } }
    (∃ turns ≤ 5 * (fills.length + (Source.delivered fills).length) + answers.length + 2,
        EndsAfter (Moment.turn rule .streams) (.reading [] start) turns
          (patchStream rule start.source start.sink)) ∧
      LoopsConsume rule .streams := by
  intro start
  refine ⟨?_, loopsConsume rule .streams⟩
  have hlt (moment next : Moment) (h : moment.turn rule .streams = .again next) :
      next.budget < moment.budget :=
    (goesOn_of_turn h).budget_lt
  obtain ⟨turns, hturns, outcome, hends⟩ := exists_endsAfter_of_lt budget_pos hlt (.reading [] start)
  have houtcome : outcome = patchStream rule start.source start.sink := by
    rw [hends.result_eq outcome_eq, patchStream, Progress.run_eq_outcome, Progress.step_eq_stepBehind]
    rfl
  have hbudget : (Moment.reading [] start).budget =
      5 * (fills.length + (Source.delivered fills).length) + answers.length + 2 := by
    simp only [start, budget, Source.size, Source.ofFills, List.length_nil, Nat.zero_add]
  exact ⟨turns, hbudget ▸ hturns, houtcome ▸ hends⟩

/-- An interrupted fill, an interrupted call, and a line of which nothing is left: none of them moves a byte, and
each uses something up. -/
theorem patchStream_terminates_moving_nothing :
    let rule : Rule := ⟨"a", "", by decide⟩
    let interrupted : IoError := .simple .interrupted
    let fills : List Fill := [.failure interrupted, .chunk (utf8 "a"), .chunk []]
    let sink : ScriptedSink := { answers := [.failure interrupted] }
    let start : Progress ScriptedSink := { source := .ofFills fills, sink }
    let refilled : Progress ScriptedSink := { start with source := .ofFills [.chunk (utf8 "a"), .chunk []] }
    let repeated : Progress ScriptedSink :=
      { start with sink := { calls := #[{ offered := 1, answer := .failure interrupted }] } }
    let next : Progress ScriptedSink :=
      { source := .ofFills [], sink, summary := { lines := 1, changedLines := 1, replacements := 1 }
        changes := #[{ line := 1, count := 1 }] }
    ((reading [] start).turn rule .streams = .again (reading [] refilled) ∧
        ∃ fill, fills = fill :: refilled.source.fills) ∧
      ((writing [98] start).turn rule .streams = .again (writing [98] repeated) ∧
        ∃ answer, sink.answers = answer :: repeated.sink.answers) ∧
      (start.step rule .streams = .next next ∧ next.source.size < start.source.size) ∧
      ∃ turns ≤ 5 * (3 + 1) + 1 + 2, EndsAfter (Moment.turn rule .streams) (.reading [] start) turns
        (patchStream rule start.source start.sink) := by
  intro rule interrupted fills sink start refilled repeated next
  obtain ⟨hends, hloops⟩ := patchStream_terminates rule fills sink.answers none
  have hlook : (reading [] start).turn rule .streams = .again (reading [] refilled) := rfl
  have hcall : (writing [98] start).turn rule .streams = .again (writing [98] repeated) := rfl
  have hadvances : Progress.Advances rule start (utf8 "a") next :=
    { read := by decide +kernel
      write := by
        have hnil : (rule.apply (utf8 "a")).output = [] := by decide +kernel
        rw [hnil]
        exact ScriptedSink.writeAll_nil sink
      summary := by decide +kernel
      changes := by decide +kernel }
  have hstep := hadvances.step_eq .streams
  refine ⟨⟨hlook, hloops.reading _ _ _ _ hlook⟩, ⟨hcall, ?_⟩, ⟨hstep, hloops.lines _ _ hstep⟩, hends⟩
  exact (hloops.writing _ _ _ _ hcall).resolve_right (by simp [start, sink])

end LinePatch
