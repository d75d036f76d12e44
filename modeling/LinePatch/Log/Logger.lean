import LinePatch.Log.Filter

/-!
# The log of a process

A process sets up its log once, with a filter that then stays. What is logged before is lost. A second
attempt to set it up fails and changes nothing.

## Main definitions

* `Filter.forProcess`: the filter that the surroundings and the user ask for
* `Logger`: the log of a process
* `Logger.log`, `Logger.logAll`: events that occur
* `Logger.setUp`: the attempt to set up the log

## Main results

* `Logger.filter?_log`: logging keeps the filter
* `Logger.setUp_of_filter?_eq_some`: a log that is set up stays as it is
-/

namespace LinePatch

/-- The filter of a process: the one that its environment asks for, if that can be read; else more or
less, as the user asks for it. -/
def Filter.forProcess (verbose : Bool) (asked? : Option String) : Filter :=
  (asked?.bind Filter.ofText?).getD (.upTo (some (if verbose then .debug else .warn)))

/-- The log of a process. -/
structure Logger where
  /-- What is logged, once the log is set up. -/
  filter? : Option Filter := none
  /-- What has been logged. -/
  text : String := ""
deriving DecidableEq, Repr

/-- Why a log cannot be set up. -/
inductive LoggerError where
  | alreadySetUp
deriving DecidableEq, Repr

/-- The text of the failure. -/
def LoggerError.message : LoggerError → String
  | .alreadySetUp =>
    "Failed to initialize logging: a global default trace dispatcher has already been set"

namespace Logger

/-- An event occurs. -/
def log (logger : Logger) (event : Event) : Logger :=
  match logger.filter? with
  | none => logger
  | some filter =>
    if filter.admits event then { logger with text := logger.text ++ event.line } else logger

theorem filter?_log (logger : Logger) (event : Event) :
    (logger.log event).filter? = logger.filter? := by
  unfold log
  split
  · rfl
  · split <;> rfl

/-- Events occur one after another. -/
def logAll (logger : Logger) (events : List Event) : Logger :=
  events.foldl log logger

/-- Sets up the log, and tells it so. -/
def setUp (logger : Logger) (verbose : Bool) (asked? : Option String) :
    Except LoggerError Unit × Logger :=
  match logger.filter? with
  | some _ => (.error .alreadySetUp, logger)
  | none =>
    (.ok (), { logger with filter? := some (.forProcess verbose asked?) }.log .logReady)

theorem setUp_of_filter?_eq_some {logger : Logger} {filter : Filter}
    (h : logger.filter? = some filter) (verbose : Bool) (asked? : Option String) :
    logger.setUp verbose asked? = (.error .alreadySetUp, logger) := by
  simp only [setUp, h]

/-- Sets up the log once for each of the given wishes. -/
def setUpAll (logger : Logger) (wishes : List Bool) (asked? : Option String) :
    List (Except LoggerError Unit) × Logger :=
  match wishes with
  | [] => ([], logger)
  | verbose :: wishes =>
    let (result, logger) := logger.setUp verbose asked?
    let (results, logger) := logger.setUpAll wishes asked?
    (result :: results, logger)

end Logger

end LinePatch
