import LinePatch.PatchError
import LinePatch.Rule
import LinePatch.Sink
import LinePatch.Source

/-!
# A pass over a stream

A pass reads a source line by line, applies a rule to each line and writes the result before it reads
the next. It counts as it goes, and notes the lines in which something was replaced. It ends when the
source does, after a flush of the sink, or at the first failure.

## Main definitions

* `Route`: where a pass reads and where it writes
* `Summary`, `Change`: what a pass counts and what it notes
* `Progress`, `Progress.step`: a pass between two lines, and its work on one line
* `Progress.run`: the whole pass

## Main results

* `Progress.size_lt_of_step_next`: every step that is followed by another consumes something
-/

namespace LinePatch

/-- Where a pass reads and where it writes. -/
structure Route where
  /-- The path of the input. -/
  input : String
  /-- The path of the output. -/
  output : String
deriving DecidableEq, Repr

/-- The route of a pass over streams without paths. -/
def Route.streams : Route where
  input := "<input>"
  output := "<output>"

/-- What a pass counts. -/
structure Summary where
  lines : Nat := 0
  /-- The lines in which something was replaced. -/
  changedLines : Nat := 0
  /-- The occurrences replaced. -/
  replacements : Nat := 0
deriving DecidableEq, Repr

/-- Counts a line in which `count` occurrences were replaced. -/
def Summary.addLine (summary : Summary) (count : Nat) : Summary where
  lines := summary.lines + 1
  changedLines := if count = 0 then summary.changedLines else summary.changedLines + 1
  replacements := summary.replacements + count

/-- A line in which something was replaced. -/
structure Change where
  /-- The number of the line, counted from one. -/
  line : Nat
  /-- How many occurrences were replaced in it. -/
  count : Nat
deriving DecidableEq, Repr

/-- A pass between two lines. -/
structure Progress (σ : Type) where
  /-- The input that is left. -/
  source : Source
  /-- The sink, with what has been written to it. -/
  sink : σ
  /-- The counts so far. -/
  summary : Summary := {}
  /-- The changed lines so far. -/
  changes : Array Change := #[]

/-- What comes of a step of a pass. -/
inductive Step (σ : Type) where
  /-- A line has been read and written. -/
  | next (progress : Progress σ)
  | stop (result : Except PatchError Summary) (progress : Progress σ)

/-- The end of a pass. -/
structure Outcome (σ : Type) where
  /-- The counts of the pass, or why it failed. -/
  result : Except PatchError Summary
  /-- What the pass has read, written and noted. -/
  progress : Progress σ

namespace Progress

variable {σ : Type} [Sink σ]

/-- Takes note of a line in which `count` occurrences were replaced. -/
def note (progress : Progress σ) (count : Nat) : Progress σ :=
  let summary := progress.summary.addLine count
  { progress with
    summary
    changes :=
      if count = 0 then progress.changes
      else progress.changes.push { line := summary.lines, count } }

/-- Writes a line that has been patched. -/
def writeLine (route : Route) (line : Bytes) (progress : Progress σ) : Step σ :=
  match Sink.writeAll line progress.sink with
  | .ok () sink => .next { progress with sink }
  | .error error sink =>
    .stop (.error (.write route.output progress.summary.lines error)) { progress with sink }

/-- Flushes the sink at the end of the input. A failure counts as one of the last line. -/
def close (route : Route) (progress : Progress σ) : Step σ :=
  match Sink.flush progress.sink with
  | .ok () sink => .stop (.ok progress.summary) { progress with sink }
  | .error error sink =>
    .stop (.error (.write route.output progress.summary.lines error)) { progress with sink }

/-- Reads a line, patches it and writes it; at the end of the input, closes the pass. -/
def step (rule : Rule) (route : Route) (progress : Progress σ) : Step σ :=
  match progress.source.readLine with
  | .line line source =>
    let patched := rule.apply line
    -- The line is counted and its change noted before it is written.
    ({ progress with source }.note patched.count).writeLine route patched.output
  | .ended source => { progress with source }.close route
  | .failed error source =>
    .stop (.error (.read route.input (progress.summary.lines + 1) error)) { progress with source }

theorem source_of_writeLine_next {route : Route} {line : Bytes} {progress next : Progress σ}
    (h : progress.writeLine route line = .next next) : next.source = progress.source := by
  unfold writeLine at h
  split at h <;> cases h
  rfl

theorem close_ne_next {route : Route} {progress next : Progress σ} :
    progress.close route ≠ .next next := by
  unfold close
  split <;> exact nofun

/-- A step that does not end the pass has read a line. -/
theorem size_lt_of_step_next {rule : Rule} {route : Route} {progress next : Progress σ}
    (h : progress.step rule route = .next next) :
    next.source.size < progress.source.size := by
  unfold step at h
  split at h
  next line source hread =>
    rw [source_of_writeLine_next h]
    exact Source.size_lt_of_readLine_line hread
  next => exact absurd h close_ne_next
  next => cases h

/-- Takes steps until the pass is over. -/
def run (rule : Rule) (route : Route) (progress : Progress σ) : Outcome σ :=
  match _h : progress.step rule route with
  | .next next => next.run rule route
  | .stop result progress => { result, progress }
termination_by progress.source.size
decreasing_by exact size_lt_of_step_next _h

end Progress

/-- Patches a stream: a pass from a source to a sink. -/
def patchStream {σ : Type} [Sink σ] (rule : Rule) (source : Source) (sink : σ) : Outcome σ :=
  Progress.run rule .streams { source, sink }

end LinePatch
