import LinePatch.Proofs.Pass.Trail
import LinePatch.Proofs.Turn

/-!
# A pass, turn by turn

The loops of a pass lie in one another: lines are taken from the source, and for each of them fills are taken
until it is there, its occurrences are replaced, and calls are made until it is written. Here they are one loop,
of which a turn belongs to the innermost of them that is not over: it looks once at what has arrived, replaces
one occurrence, makes one call, or flushes. As no turn changes how the pass goes on, the loop ends with the
outcome of the pass, if it ends.

## Main definitions

* `Moment`: a pass in the middle of its work
* `Moment.turn`: one turn of a pass
* `Moment.GoesOn`: everything that a turn does if it is not the last
* `Moment.outcome`: how a pass goes on from some moment

## Main results

* `Moment.goesOn_of_turn`: what is known of a turn
* `Moment.outcome_eq`: no turn changes how the pass goes on
-/

namespace LinePatch

/-- A pass in the middle of its work. -/
inductive Moment where
  /-- A line is being read; `taken`, last byte first, is what has been read of it. -/
  | reading (taken : Bytes) (progress : Progress ScriptedSink)
  /-- A line has been read, and `scan` replaces the occurrences in it. -/
  | patching (scan : Scan UInt8) (progress : Progress ScriptedSink)
  /-- A line is being written; `left` has not been taken yet. -/
  | writing (left : Bytes) (progress : Progress ScriptedSink)
  /-- The input has ended. -/
  | closing (progress : Progress ScriptedSink)

namespace Progress

variable {σ : Type} [Sink σ]

/-- A step, when its line has been read or could not be. -/
def stepBehind (rule : Rule) (route : Route) (progress : Progress σ) : LineRead → Step σ
  | .line line source =>
    ({ progress with source }.note (rule.apply line).count).writeLine route (rule.apply line).output
  | .ended source => { progress with source }.close route
  | .failed error source =>
    .stop (.error (.read route.input (progress.summary.lines + 1) error)) { progress with source }

/-- The reading has taken what it needs from the source, so what was left before does not matter. -/
theorem stepBehind_withSource (rule : Rule) (route : Route) (progress : Progress σ) (source : Source)
    (read : LineRead) :
    { progress with source }.stepBehind rule route read = progress.stepBehind rule route read := by
  cases read <;> rfl

theorem step_eq_stepBehind (rule : Rule) (route : Route) (progress : Progress σ) :
    progress.step rule route = progress.stepBehind rule route progress.source.readLine := by
  unfold step stepBehind
  split <;> simp_all

end Progress

/-- How a pass goes on behind a step. -/
def Step.outcome {σ : Type} [Sink σ] (rule : Rule) (route : Route) : Step σ → Outcome σ
  | .next progress => progress.run rule route
  | .stop result progress => { result, progress }

theorem Progress.run_eq_outcome {σ : Type} [Sink σ] (rule : Rule) (route : Route) (progress : Progress σ) :
    progress.run rule route = (progress.step rule route).outcome rule route := by
  cases h : progress.step rule route with
  | next next => exact run_of_step_next h
  | stop result last => exact run_of_step_stop h

namespace Moment

variable (rule : Rule) (route : Route)

/-- One turn of a pass. -/
def turn : Moment → Turn (Outcome ScriptedSink) Moment
  | reading taken progress =>
    match progress.source.look taken with
    | .again (taken, source) => .again (reading taken { progress with source })
    | .done (.line line source) => .again (patching (.start line) { progress with source })
    | .done (.ended source) => .again (closing { progress with source })
    | .done (.failed error source) =>
      .done
        { result := .error (.read route.input (progress.summary.lines + 1) error)
          progress := { progress with source } }
  | patching scan progress =>
    match rule.onBytes.advance? scan with
    | some next => .again (patching next progress)
    | none => .again (writing scan.patched.output (progress.note scan.patched.count))
  | writing left progress =>
    match progress.sink.attempt left with
    | .again (left, sink) => .again (writing left { progress with sink })
    | .done (.ok () sink) => .again (reading [] { progress with sink })
    | .done (.error error sink) =>
      .done
        { result := .error (.write route.output progress.summary.lines error)
          progress := { progress with sink } }
  | closing progress =>
    match progress.sink.flush with
    | .ok () sink => .done { result := .ok progress.summary, progress := { progress with sink } }
    | .error error sink =>
      .done
        { result := .error (.write route.output progress.summary.lines error)
          progress := { progress with sink } }

/-- How a pass goes on from some moment. -/
def outcome : Moment → Outcome ScriptedSink
  | reading taken progress =>
    (progress.stepBehind rule route
      (Source.readLineFrom taken progress.source.unread progress.source.fills)).outcome rule route
  | patching scan progress =>
    let patched := (rule.onBytes.finish scan).patched
    ((progress.note patched.count).writeLine route patched.output).outcome rule route
  | writing left progress => (progress.writeLine route left).outcome rule route
  | closing progress => (progress.close route).outcome rule route

/-- What a turn does that is not the last. -/
inductive GoesOn : Moment → Moment → Prop
  /-- What has arrived does not end the line. -/
  | look {taken progress taken' source} (h : progress.source.look taken = .again (taken', source)) :
      GoesOn (reading taken progress) (reading taken' { progress with source })
  | line {taken progress line source} (h : progress.source.look taken = .done (.line line source)) :
      GoesOn (reading taken progress) (patching (.start line) { progress with source })
  | ended {taken progress source} (h : progress.source.look taken = .done (.ended source)) :
      GoesOn (reading taken progress) (closing { progress with source })
  /-- The next occurrence is replaced. -/
  | replaced {scan next progress} (h : rule.onBytes.advance? scan = some next) :
      GoesOn (patching scan progress) (patching next progress)
  | patched {scan progress} (h : rule.onBytes.advance? scan = none) :
      GoesOn (patching scan progress) (writing scan.patched.output (progress.note scan.patched.count))
  /-- A call has not failed, or was interrupted. -/
  | called {left progress left' sink} (h : progress.sink.attempt left = .again (left', sink)) :
      GoesOn (writing left progress) (writing left' { progress with sink })
  | written {left progress sink} (h : progress.sink.attempt left = .done (.ok () sink)) :
      GoesOn (writing left progress) (reading [] { progress with sink })

variable {rule route}

theorem goesOn_of_turn {moment next : Moment} (h : moment.turn rule route = .again next) :
    GoesOn rule moment next := by
  cases moment with
  | reading taken progress =>
    simp only [turn] at h
    split at h
    next hlook =>
      cases h
      exact .look hlook
    next hlook =>
      cases h
      exact .line hlook
    next hlook =>
      cases h
      exact .ended hlook
    next => cases h
  | patching scan progress =>
    simp only [turn] at h
    split at h
    next hadvance =>
      cases h
      exact .replaced hadvance
    next hnone =>
      cases h
      exact .patched hnone
  | writing left progress =>
    simp only [turn] at h
    split at h
    next hattempt =>
      cases h
      exact .called hattempt
    next hattempt =>
      cases h
      exact .written hattempt
    next => cases h
  | closing progress =>
    simp only [turn] at h
    split at h <;> cases h

/-- No turn changes how the pass goes on. -/
theorem outcome_eq (moment : Moment) :
    moment.outcome rule route = (moment.turn rule route).result (outcome rule route) := by
  cases moment with
  | reading taken progress =>
    simp only [turn, outcome]
    cases hlook : progress.source.look taken with
    | again state =>
      obtain ⟨taken', source⟩ := state
      rw [Source.readLineFrom_of_look_again hlook]
      simp only [Turn.result, outcome, Progress.stepBehind_withSource]
    | done read =>
      rw [Source.readLineFrom_of_look_done hlook]
      cases read <;> rfl
  | patching scan progress =>
    simp only [turn, outcome]
    rw [Substitution.finish]
    split <;> simp_all [Turn.result, outcome]
  | writing left progress =>
    simp only [turn, outcome, Progress.writeLine, Sink.writeAll]
    cases hattempt : progress.sink.attempt left with
    | again state =>
      obtain ⟨left', sink⟩ := state
      rw [ScriptedSink.writeAll_of_attempt_again hattempt]
      rfl
    | done result =>
      rw [ScriptedSink.writeAll_of_attempt_done hattempt]
      cases result with
      | ok _ sink =>
        exact Progress.run_eq_outcome rule route { progress with sink }
      | error error sink => rfl
  | closing progress =>
    simp only [turn, outcome, Progress.close, Sink.flush]
    cases progress.sink.flush <;> rfl

end Moment

end LinePatch
