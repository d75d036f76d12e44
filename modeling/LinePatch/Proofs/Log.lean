import LinePatch.Log.Logger

/-!
# What stands in the log

Once the log of a process is set up, its filter decides on each event alone: the log is made of the lines of
the events that the filter admits, in order.

## Main definitions

* `Filter.logged`: the lines of the events that a filter admits

## Main results

* `Logger.logAll_of_filter?_eq_some`: what events add to a log
* `Logger.setUpAll_of_filter?_eq_some`: attempts to set up a log that is set up
* `Logger.text_setUp_logAll`: the log of a process
-/

namespace LinePatch

/-- The lines of the events that the filter admits. -/
def Filter.logged (filter : Filter) (events : List Event) : String :=
  String.join ((events.filter filter.admits).map Event.line)

theorem Filter.logged_nil (filter : Filter) : filter.logged [] = "" := rfl

theorem Filter.logged_cons (filter : Filter) (event : Event) (events : List Event) :
    filter.logged (event :: events) =
      (if filter.admits event then event.line else "") ++ filter.logged events := by
  unfold logged
  by_cases hadmits : filter.admits event
  · rw [List.filter_cons_of_pos hadmits, List.map_cons, String.join_cons, if_pos hadmits]
  · rw [List.filter_cons_of_neg hadmits, if_neg hadmits, String.empty_append]

/-- A filter that the environment asks for is the filter of the process, if it can be read. -/
theorem Filter.forProcess_of_ofText? {text : String} {filter : Filter} (h : Filter.ofText? text = some filter)
    (verbose : Bool) : Filter.forProcess verbose (some text) = filter := by
  simp only [Filter.forProcess, Option.bind_some, h, Option.getD_some]

namespace Logger

variable {logger : Logger} {filter : Filter}

theorem log_of_filter?_eq_some (h : logger.filter? = some filter) (event : Event) :
    logger.log event =
      { logger with text := logger.text ++ if filter.admits event then event.line else "" } := by
  obtain ⟨filter?, text⟩ := logger
  obtain rfl : filter? = some filter := h
  unfold log
  simp only
  split
  · rfl
  · rw [String.append_empty]

/-- Events add their lines to a log that is set up, as far as its filter admits them. -/
theorem logAll_of_filter?_eq_some (h : logger.filter? = some filter) (events : List Event) :
    logger.logAll events = { logger with text := logger.text ++ filter.logged events } := by
  induction events generalizing logger with
  | nil => rw [Filter.logged_nil, String.append_empty]; rfl
  | cons event events ih =>
    change (logger.log event).logAll events = _
    rw [ih ((logger.filter?_log event).trans h), log_of_filter?_eq_some h, Filter.logged_cons,
      String.append_assoc]

theorem filter?_logAll (logger : Logger) (events : List Event) :
    (logger.logAll events).filter? = logger.filter? := by
  induction events generalizing logger with
  | nil => rfl
  | cons event events ih => exact (ih (logger.log event)).trans (logger.filter?_log event)

/-- No attempt changes a log that is set up. -/
theorem setUpAll_of_filter?_eq_some (h : logger.filter? = some filter) (wishes : List Bool)
    (asked? : Option String) :
    logger.setUpAll wishes asked? = (wishes.map fun _ => .error .alreadySetUp, logger) := by
  induction wishes with
  | nil => rfl
  | cons verbose wishes ih =>
    unfold setUpAll
    rw [setUp_of_filter?_eq_some h]
    simp only [ih, List.map_cons]

/-- A log that has been set up without telling so holds the lines of the events. -/
theorem text_logAll (filter : Filter) (events : List Event) :
    (({ filter? := some filter } : Logger).logAll events).text = filter.logged events := by
  rw [logAll_of_filter?_eq_some rfl]
  exact String.empty_append

/-- The log of a process tells first that it has been set up. -/
theorem text_setUp_logAll (verbose : Bool) (asked? : Option String) (events : List Event) :
    ((({} : Logger).setUp verbose asked?).2.logAll events).text =
      (Filter.forProcess verbose asked?).logged (.logReady :: events) := by
  have hlogger : (({} : Logger).setUp verbose asked?).2.logAll events =
      ({ filter? := some (.forProcess verbose asked?) } : Logger).logAll (.logReady :: events) := rfl
  rw [hlogger, text_logAll]

end Logger

end LinePatch
