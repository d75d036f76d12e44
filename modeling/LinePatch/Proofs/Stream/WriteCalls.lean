import LinePatch.Proofs.Pass.Visit
import LinePatch.Proofs.Sink.Offer

/-!
# The write calls of a pass

A pass writes one line after another, each by calls that offer what is left of this line alone. The script of
the sink goes on with every call, the lines go on when one has been taken as a whole: a call that takes less
than it is offered, or that is interrupted, lets the script go on alone, a line of which the rule leaves
nothing lets the lines go on alone. The answer that ends the writing is the last that is taken.

## Main definitions

* `Visit.offers`: the calls by which one line is written
* `Outcome.FailedToWrite`: a write call ended the pass
* `Progress.WritesEnd`: how the calls of a pass have ended
* `Outcome.WriteTrace`: what the calls of a pass have been

## Main results

* `Progress.made_run`: the calls of a pass are those of its lines, one after another
* `Progress.patched_eq_of_visits_eq`: what the calls before have taken and what a call offers
* `Progress.Advances.writesEnd`, `Progress.Stops.writesEnd`, `Progress.writesEnd_run`: calls end with the
  first answer that ends them
* `patchStream_write_calls`: the write calls of a pass over scripts
-/

namespace LinePatch

open Progress

/-- The write calls by which the line of a visit is written. -/
def Visit.offers (rule : Rule) (visit : Visit ScriptedSink) : List Offer :=
  visit.sink.offers (rule.apply visit.line).output

namespace Progress

variable {rule : Rule} {route : Route} {start : Progress ScriptedSink}

/-- The calls of a pass are those of its visits. -/
theorem made_run (rule : Rule) (route : Route) (start : Progress ScriptedSink) :
    start.sink.Made ((start.visits rule route).flatMap (Visit.offers rule))
      (start.run rule route).progress.sink := by
  fun_induction run rule route start with
  | case1 start next hstep ih =>
    obtain ⟨line, advances⟩ := advances_of_step hstep
    rw [advances.visits_eq route, List.flatMap_cons]
    exact (ScriptedSink.made_of_writeAll_ok advances.write).trans ih
  | case2 start result final hstep =>
    cases stops_of_step hstep with
    | finished read flush =>
      obtain ⟨-, rfl⟩ := ScriptedSink.flush_eq_ok_iff.mp flush
      rw [visits_of_ended read]
      exact ScriptedSink.made_flushed start.sink
    | flushFailed read flush =>
      obtain ⟨-, rfl⟩ := ScriptedSink.flush_eq_error_iff.mp flush
      rw [visits_of_ended read]
      exact ScriptedSink.made_flushed start.sink
    | readFailed read =>
      rw [visits_of_failed read]
      exact .refl start.sink
    | writeFailed read write =>
      rw [visits_of_writeAll_error read write, List.flatMap_singleton]
      exact ScriptedSink.made_of_writeAll_error write

/-- What has been written was passed and taken as a whole. -/
theorem allPassed_of_forall_writeAll {seen : List (Visit ScriptedSink)}
    (h : ∀ visit ∈ seen, ∃ sink, Sink.writeAll (rule.apply visit.line).output visit.sink = .ok () sink) :
    AllPassed (seen.flatMap (Visit.offers rule)) ∧
      acceptedBytes (seen.flatMap (Visit.offers rule)) = rule.patched (seen.map Visit.line) := by
  induction seen with
  | nil => exact ⟨List.forall_mem_nil _, rfl⟩
  | cons visit seen ih =>
    obtain ⟨⟨sink, hwrite⟩, hseen⟩ := List.forall_mem_cons.mp h
    obtain ⟨hpassed, haccepted⟩ := ScriptedSink.allPassed_of_writeAll_ok hwrite
    obtain ⟨hpassed', haccepted'⟩ := ih hseen
    rw [List.flatMap_cons, List.map_cons, rule.patched_cons, acceptedBytes_append]
    exact ⟨hpassed.append hpassed', congrArg₂ _ haccepted haccepted'⟩

/-- A call offers what is left of its line, and with what was taken before this makes up the lines so far. -/
theorem patched_eq_of_visits_eq {seen later : List (Visit ScriptedSink)} {visit : Visit ScriptedSink}
    {before after : List Offer} {offer : Offer}
    (hvisits : start.visits rule route = seen ++ visit :: later)
    (hoffers : visit.offers rule = before ++ offer :: after) :
    rule.patched ((seen ++ [visit]).map Visit.line) =
      acceptedBytes (seen.flatMap (Visit.offers rule) ++ before) ++ offer.bytes := by
  obtain ⟨-, haccepted⟩ := allPassed_of_forall_writeAll (exists_writeAll_of_visits_eq hvisits)
  obtain ⟨hline, -⟩ := ScriptedSink.rest_of_offers_eq hoffers
  rw [List.map_append, List.map_singleton, rule.patched_concat, acceptedBytes_append, haccepted,
    List.append_assoc, ← hline]

end Progress

/-- A write call has failed at `line`: had only the flush failed, it would have been counted. -/
def Outcome.FailedToWrite (outcome : Outcome ScriptedSink) (line : Nat) (cause : IoError) : Prop :=
  outcome.result = .error (.write Route.streams.output line cause) ∧ outcome.progress.sink.flushes = 0

namespace Progress

variable {rule : Rule} {start next : Progress ScriptedSink} {line : Bytes} {outcome : Outcome ScriptedSink}

/-- How the write calls of a pass have ended, and which lines they were to write. -/
inductive WritesEnd (rule : Rule) (start : Progress ScriptedSink) (outcome : Outcome ScriptedSink) : Prop
  | passed (offers : AllPassed ((start.visits rule .streams).flatMap (Visit.offers rule)))
      (lines : (start.visits rule .streams).map Visit.line = start.source.reading.lines)
      (result : ∀ line cause, ¬ outcome.FailedToWrite line cause)
  | failed (error : IoError)
      (offers : EndsWith ((start.visits rule .streams).flatMap (Visit.offers rule)) error)
      (lines : (start.visits rule .streams).map Visit.line <+: start.source.reading.lines)
      (result : ∀ line cause, outcome.FailedToWrite line cause ↔
        line = start.summary.lines + (start.visits rule .streams).length ∧ cause = error)

/-- The calls that write one more line in front do not change how the calls end. -/
theorem Advances.writesEnd (advances : Advances rule start line next)
    (h : WritesEnd rule next outcome) : WritesEnd rule start outcome := by
  have hpassed := (ScriptedSink.allPassed_of_writeAll_ok advances.write).1
  have hvisits := advances.visits_eq .streams
  have hreading := Source.reading_of_line advances.read
  cases h with
  | passed offers lines result =>
    refine .passed ?_ ?_ result
    · rw [hvisits, List.flatMap_cons]
      exact hpassed.append offers
    · rw [hvisits, List.map_cons, lines, hreading]
  | failed error offers lines result =>
    refine .failed error ?_ ?_ ?_
    · rw [hvisits, List.flatMap_cons]
      exact hpassed.endsWith_append offers
    · rw [hvisits, List.map_cons, hreading]
      exact (List.prefix_cons_inj line).mpr lines
    · intro number cause
      have hnumber : next.summary.lines = start.summary.lines + 1 := by rw [advances.summary]; rfl
      rw [result number cause, hvisits, hnumber, List.length_cons, Nat.add_right_comm, Nat.add_assoc]

/-- The step that ends a pass makes calls only if one of them fails. -/
theorem Stops.writesEnd {last final : Progress ScriptedSink} {result : Except PatchError Summary}
    (stops : Stops rule .streams last result final) (hflushes : last.sink.flushes = 0) :
    WritesEnd rule last { result, progress := final } := by
  cases stops with
  | finished read flush =>
    refine .passed ?_ ?_ ?_
    · simp [visits_of_ended read, AllPassed]
    · simp [visits_of_ended read, Source.reading_of_ended read]
    · simp [Outcome.FailedToWrite]
  | flushFailed read flush =>
    obtain ⟨-, rfl⟩ := ScriptedSink.flush_eq_error_iff.mp flush
    refine .passed ?_ ?_ ?_
    · simp [visits_of_ended read, AllPassed]
    · simp [visits_of_ended read, Source.reading_of_ended read]
    · simp [Outcome.FailedToWrite]
  | readFailed read =>
    refine .passed ?_ ?_ ?_
    · simp [visits_of_failed read, AllPassed]
    · simp [visits_of_failed read, Source.reading_of_failed read]
    · simp [Outcome.FailedToWrite]
  | @writeFailed line rest sink error read write =>
    obtain ⟨part, missing, -, -, hpart⟩ := ScriptedSink.wrote_of_writeAll_error write
    have hsink : sink.flushes = 0 := hpart.flushes_eq.trans hflushes
    refine .failed error ?_ ?_ ?_
    · rw [visits_of_writeAll_error read write, List.flatMap_singleton]
      exact ScriptedSink.endsWith_of_writeAll_error write
    · rw [visits_of_writeAll_error read write, Source.reading_of_line read]
      simp
    · simp [Outcome.FailedToWrite, visits_of_writeAll_error read write, hsink, eq_comm]

/-- The calls of a pass end with the first answer that ends them, if there is one. -/
theorem writesEnd_run (rule : Rule) (start : Progress ScriptedSink) (hflushes : start.sink.flushes = 0) :
    WritesEnd rule start (start.run rule .streams) := by
  fun_induction run rule .streams start with
  | case1 start next hstep ih =>
    obtain ⟨line, advances⟩ := advances_of_step hstep
    have hnext := (ScriptedSink.wrote_of_writeAll_ok advances.write).flushes_eq
    exact advances.writesEnd (ih (hnext.trans hflushes))
  | case2 start result final hstep => exact (stops_of_step hstep).writesEnd hflushes

theorem WritesEnd.passes_iff (h : WritesEnd rule start outcome) :
    (∀ line cause, ¬ outcome.FailedToWrite line cause) ↔
      AllPassed ((start.visits rule .streams).flatMap (Visit.offers rule)) := by
  cases h with
  | passed offers _ result => exact iff_of_true result offers
  | failed error offers _ result =>
    refine iff_of_false ?_ fun hpassed => hpassed.not_endsWith offers
    intro hresult
    exact hresult _ error ((result _ error).mpr ⟨rfl, rfl⟩)

theorem WritesEnd.prefix_lines (h : WritesEnd rule start outcome) :
    (start.visits rule .streams).map Visit.line <+: start.source.reading.lines := by
  cases h with
  | passed _ lines _ => rw [lines]
  | failed _ _ lines _ => exact lines

/-- With a sink that takes everything, a line is offered once, unless nothing is left of it. -/
theorem map_length_offers_of_everything {visits : List (Visit ScriptedSink)}
    (h : ∀ offer ∈ visits.flatMap (Visit.offers rule), offer.answer = .everything) :
    (visits.flatMap (Visit.offers rule)).map (fun offer => offer.bytes.length) =
      (((visits.map Visit.line).map fun line => (rule.apply line).output).filter (· ≠ [])).map
        List.length := by
  induction visits with
  | nil => rfl
  | cons visit visits ih =>
    rw [List.flatMap_cons] at h ⊢
    obtain ⟨hvisit, hvisits⟩ := List.forall_mem_append.mp h
    rw [List.map_append, ih hvisits, List.map_cons, List.map_cons]
    by_cases hne : (rule.apply visit.line).output = []
    · rw [List.filter_cons_of_neg (by simpa using hne), Visit.offers, hne, ScriptedSink.offers_nil]
      rfl
    · rw [List.filter_cons_of_pos (by simpa using hne), Visit.offers,
        ScriptedSink.offers_eq_of_everything hne hvisit]
      rfl

end Progress

/-- What the write calls of a pass have been: `visits` are the lines to which the rule was applied, `lines`
those that the source gives, and `answers` the script of the sink. -/
structure Outcome.WriteTrace (rule : Rule) (lines : List Bytes) (answers : List WriteAnswer)
    (visits : List (Visit ScriptedSink)) (outcome : Outcome ScriptedSink) : Prop where
  /-- The calls write the lines one after another. -/
  calls_eq : outcome.progress.sink.calls.toList = (visits.flatMap (Visit.offers rule)).map Offer.call
  /-- A call offers what the calls before have left of one line, and that is not nothing. -/
  rest : ∀ visit ∈ visits, ∀ before offer after, visit.offers rule = before ++ offer :: after →
    (rule.apply visit.line).output = acceptedBytes before ++ offer.bytes ∧ offer.bytes ≠ []
  /-- As many bytes are offered as the patched lines so far have, but for those taken so far. -/
  length_rest : ∀ seen visit later before offer after, visits = seen ++ visit :: later →
    visit.offers rule = before ++ offer :: after →
    (acceptedBytes (seen.flatMap (Visit.offers rule) ++ before)).length + offer.bytes.length =
      (rule.patched ((seen ++ [visit]).map Visit.line)).length
  /-- What the calls took is what the sink has. -/
  taken_eq : outcome.progress.sink.taken = acceptedBytes (visits.flatMap (Visit.offers rule))
  /-- Each call takes the next answer of the script, and behind its end everything is taken. -/
  answers_eq : outcome.progress.sink.calls.toList.map WriteCall.answer =
    answers.take outcome.progress.sink.calls.size ++
      List.replicate (outcome.progress.sink.calls.size - answers.length) .everything
  /-- The rest of the script is left. -/
  left_eq : outcome.progress.sink.answers = answers.drop outcome.progress.sink.calls.size
  /-- A line of which nothing is left makes no call. -/
  empty : ∀ visit ∈ visits, (rule.apply visit.line).output = [] → visit.offers rule = []
  /-- The lines come from the source, in order. -/
  lines_eq : visits.map Visit.line = lines.take visits.length
  /-- The pass gets past its writes if no answer taken is `0` or an error other than an interruption. -/
  passes_iff : (∀ line cause, ¬ outcome.FailedToWrite line cause) ↔
    ∀ answer ∈ answers.take outcome.progress.sink.calls.size, answer.Passes
  /-- Then all the lines of the source are written. -/
  passed : (∀ line cause, ¬ outcome.FailedToWrite line cause) → visits.map Visit.line = lines
  /-- The first such answer ends the pass, at the line that was to be written, with its error. -/
  failed : ∀ line cause, outcome.FailedToWrite line cause → line = visits.length ∧
    ∃ before answer, answers.take outcome.progress.sink.calls.size = before ++ [answer] ∧
      (∀ earlier ∈ before, earlier.Passes) ∧
      (answer = .upTo 0 ∧ cause.kind = .writeZero ∧ cause.text = "failed to write whole buffer" ∨
        answer = .failure cause ∧ cause.kind ≠ .interrupted)
  /-- A sink that takes everything is offered each line once, unless nothing is left of it. -/
  everything : (∀ answer ∈ answers, answer = .everything) →
    outcome.progress.sink.offered =
      ((lines.map fun line => (rule.apply line).output).filter (· ≠ [])).map List.length

/-- **The write calls.** Whatever the scripts, every write call of a pass offers just the rest of one patched
line, the calls are answered by the script in order, and the pass gets past its writes unless one of the
answers taken ends it. -/
theorem patchStream_write_calls (rule : Rule) (fills : List Fill) (answers : List WriteAnswer)
    (flushFailure? : Option IoError) :
    let start : Progress ScriptedSink :=
      { source := .ofFills fills, sink := { answers, flushFailure? } }
    let outcome := patchStream rule start.source start.sink
    outcome.WriteTrace rule start.source.reading.lines answers (start.visits rule .streams) := by
  intro start outcome
  let offers := (start.visits rule .streams).flatMap (Visit.offers rule)
  have hmade : start.sink.Made offers outcome.progress.sink := made_run rule .streams start
  have hends : WritesEnd rule start outcome := writesEnd_run rule start rfl
  have hsize : outcome.progress.sink.calls.size = offers.length := by
    rw [← Array.length_toList, hmade.calls_eq]
    exact List.length_map _
  have hpassed (h : ∀ line cause, ¬ outcome.FailedToWrite line cause) :
      (start.visits rule .streams).map Visit.line = start.source.reading.lines := by
    cases hends with
    | passed _ lines _ => exact lines
    | failed error _ _ result => exact absurd ((result _ error).mpr ⟨rfl, rfl⟩) (h _ error)
  refine
    { calls_eq := hmade.calls_eq
      rest := ?_
      length_rest := ?_
      taken_eq := hmade.taken_eq
      answers_eq := ?_
      left_eq := ?_
      empty := ?_
      lines_eq := ?_
      passes_iff := ?_
      passed := hpassed
      failed := ?_
      everything := ?_ }
  · intro visit _ before offer after hoffers
    exact ScriptedSink.rest_of_offers_eq hoffers
  · intro seen visit later before offer after hvisits hoffers
    rw [patched_eq_of_visits_eq hvisits hoffers, List.length_append]
  · rw [hmade.calls_eq, hsize, ← hmade.answer_eq]
    exact List.map_map
  · rw [hsize]
    exact hmade.answers_eq
  · intro visit _ hempty
    rw [Visit.offers, hempty, ScriptedSink.offers_nil]
  · have hprefix := List.prefix_iff_eq_take.mp hends.prefix_lines
    rwa [List.length_map] at hprefix
  · rw [hends.passes_iff, hsize, hmade.allPassed_iff]
    simp only [WriteAnswer.error?_eq_none_iff]
    rfl
  · intro line cause hfailed
    cases hends with
    | passed _ _ result => exact absurd hfailed (result line cause)
    | failed error hoffers _ result =>
      obtain ⟨rfl, rfl⟩ := (result line cause).mp hfailed
      obtain ⟨before, answer, htake, hbefore, hanswer⟩ := hmade.exists_of_endsWith hoffers
      refine ⟨Nat.zero_add _, before, answer, ?_, ?_, ?_⟩
      · rw [hsize]
        exact htake
      · intro earlier hearlier
        exact WriteAnswer.error?_eq_none_iff.mp (hbefore earlier hearlier)
      · rcases WriteAnswer.error?_eq_some_iff.mp hanswer with ⟨hzero, hcause⟩ | hfailure
        · rw [hcause]
          exact .inl ⟨hzero, rfl, rfl⟩
        · exact .inr hfailure
  · intro hanswers
    have heverything := hmade.answer_eq_everything hanswers
    have hall : AllPassed offers := by
      intro offer hoffer
      rw [heverything offer hoffer]
      rfl
    rw [← hpassed (hends.passes_iff.mpr hall), ← map_length_offers_of_everything heverything,
      ScriptedSink.offered, hmade.calls_eq]
    exact List.map_map

end LinePatch
