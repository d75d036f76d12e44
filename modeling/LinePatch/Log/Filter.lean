import LinePatch.Log.Directive

/-!
# Log filters

A filter says how much is logged of what comes from where. It is written as directives between
commas. Of the directives that speak for an event the one with the longest target counts, and of two
with the same target the one that asks for a field; a limit for everything counts only if there is no
other. Of two directives that ask for the same, the last counts. Without any directive, only errors are
logged.

## Main definitions

* `Filter`, `Filter.ofText?`: a filter and its reading
* `Filter.limit`: how much is logged of a target
* `Filter.admits`: whether an event is logged

## Main results

* `Filter.admits_upTo`: a limit for everything speaks for all events
-/

namespace LinePatch

/-- How much is logged of which targets. -/
structure Filter where
  /-- The directives, in the order in which they were given. -/
  directives : List Directive
deriving DecidableEq, Repr

namespace Filter

/-- The same limit for all targets. -/
def upTo (limit : Limit) : Filter :=
  { directives := [{ limit }] }

/-- The reading of a filter. Empty directives are passed over, and without any other only errors are
logged. -/
def ofText? (text : String) : Option Filter :=
  match ((pieces ',' text).filter (· ≠ "")).mapM Directive.ofText? with
  | none => none
  | some [] => some (upTo (some .error))
  | some directives => some { directives }

/-- How much is logged of a target: what the weightiest directive for it says, or nothing. -/
def limit (filter : Filter) (target : String) : Limit :=
  let choose (best next : Directive) : Directive :=
    if next.fits target && best.weight ≤ next.weight then next else best
  (filter.directives.foldl choose { limit := none }).limit

/-- An event is logged. -/
def admits (filter : Filter) (event : Event) : Bool :=
  (filter.limit event.target).admits event.level

theorem limit_upTo (limit : Limit) (target : String) : (upTo limit).limit target = limit := by
  simp [Filter.limit, upTo, Directive.fits_of_limit, Directive.weight]

theorem admits_upTo (limit : Limit) (event : Event) :
    (upTo limit).admits event = limit.admits event.level := by
  simp only [admits, limit_upTo]

end Filter

end LinePatch
