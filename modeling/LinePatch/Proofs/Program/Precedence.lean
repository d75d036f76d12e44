import LinePatch.Proofs.CommandLine.Verbose
import LinePatch.Proofs.Program

/-!
# Who decides what is logged

The environment goes first. If it asks for a filter that can be read, then the flag for more messages changes
nothing in a run that patches, or prints the help text or the version; and if it does not, the flag chooses
between two filters that the environment might have asked for as well. The filter is chosen when the log is set
up for the first time, and it stays.

A run that refuses its arguments refuses them with the flag too, and leaves the files as they are. But it may do so
for another reason, as a flag completes the operand in front of it, and an empty one is then found first.

## Main definitions

* `Filter.asked`: what the environment may ask for in place of the flag
* `Logger.ready`: the log of a process once it is set up

## Main results

* `Program.run_of_parse_withVerbose`: command lines that ask for the same, with the flag or without
* `Program.run_flag`: a run with the flag and without it, if the environment asks for a filter
* `Program.run_of_bind_eq_none`: the environment can ask for what the flag asks for
* `Logger.setUpAll_cons`: the log is set up by the first attempt
* `run_filter_precedence`: all of it
-/

namespace LinePatch

namespace Filter

variable {asked? : Option String}

/-- What the environment may ask for in place of the flag. -/
def asked (verbose : Bool) : String :=
  if verbose then "debug" else "warn"

theorem ofText?_asked (verbose : Bool) :
    ofText? (asked verbose) = some (.upTo (some (if verbose then .debug else .warn))) := by
  cases verbose <;> decide +kernel

theorem forProcess_of_bind_eq_none (h : asked?.bind ofText? = none) (verbose : Bool) :
    forProcess verbose asked? = .upTo (some (if verbose then .debug else .warn)) := by
  rw [forProcess, h, Option.getD_none]

/-- If nothing can be read, the filter is one that the environment can ask for. -/
theorem forProcess_eq_asked (h : asked?.bind ofText? = none) (verbose : Bool) :
    forProcess verbose asked? = forProcess verbose (some (asked verbose)) := by
  rw [forProcess_of_ofText? (ofText?_asked verbose), forProcess_of_bind_eq_none h]

end Filter

/-! ## The log -/

namespace Logger

/-- The log of a process once it is set up. -/
def ready (filter : Filter) : Logger where
  filter? := some filter
  text := filter.logged [.logReady]

theorem filter?_ready (filter : Filter) : (ready filter).filter? = some filter := rfl

theorem setUp_first (verbose : Bool) (asked? : Option String) :
    ({} : Logger).setUp verbose asked? = (.ok (), ready (.forProcess verbose asked?)) := by
  have hlog (filter : Filter) : ({ filter? := some filter } : Logger).logAll [.logReady] = ready filter := by
    rw [logAll_of_filter?_eq_some rfl, String.empty_append, ready]
  exact Prod.ext rfl (hlog (.forProcess verbose asked?))

/-- The first attempt sets up the log, and tells it so; all others fail. -/
theorem setUpAll_cons (first : Bool) (later : List Bool) (asked? : Option String) :
    ({} : Logger).setUpAll (first :: later) asked? =
      (.ok () :: later.map fun _ => .error .alreadySetUp, ready (.forProcess first asked?)) := by
  unfold setUpAll
  rw [setUp_first]
  simp only [setUpAll_of_filter?_eq_some (filter?_ready _)]

theorem text_ready (filter : Filter) : (ready filter).text =
    if (filter.limit Event.programTarget).admits .debug then Event.logReady.line else "" := by
  rw [ready, Filter.logged_cons, Filter.logged_nil, String.append_empty]
  rfl

end Logger

/-! ## The program -/

namespace Program

open CommandLine

variable {arguments others before after : List String} {asked? : Option String} {text flag : String}
  {filter : Filter} {request : Request} {verbose : Bool}

/-- If the environment asks for a filter that can be read, command lines that ask for the same do the same, whether
they ask for more messages or not. -/
theorem run_of_parse_withVerbose (htext : Filter.ofText? text = some filter)
    (h : parse arguments = .ok request) (hothers : parse others = .ok (request.withVerbose verbose))
    (files : FileSystem) : run others (some text) files = run arguments (some text) files := by
  cases request with
  | help => simp only [run, h, hothers, Request.withVerbose]
  | version => simp only [run, h, hothers, Request.withVerbose]
  | patch route verbose' =>
    rw [run_of_parse_patch h, run_of_parse_patch hothers]
    simp only [Filter.forProcess_of_ofText? htext]

/-- If the environment asks for a filter that can be read, the flag in front of `--` changes nothing in a run whose
arguments make sense. Others make no sense with the flag either, and for the same reason unless an empty operand
stands in front of it. -/
theorem run_flag (htext : Filter.ofText? text = some filter) (hbefore : "--" ∉ before)
    (hflag : isVerboseFlag flag)
    (hgives : ∀ argument ∈ before ++ beforeDashes after, givesVerbose argument = false) (files : FileSystem) :
    match parse (before ++ after) with
    | .ok request =>
      parse (before ++ flag :: after) = .ok (request.withVerbose true) ∧
        run (before ++ flag :: after) (some text) files = run (before ++ after) (some text) files
    | .error error =>
      run (before ++ after) (some text) files = (refuse error, files) ∧
        ∃ error', parse (before ++ flag :: after) = .error error' ∧
          run (before ++ flag :: after) (some text) files = (refuse error', files) ∧
          (before.getLast? ≠ some "" → error' = error) := by
  have hparse := parse_flag hbefore hflag hgives
  split
  next request h =>
    rw [h] at hparse
    rcases hparse with hsame | ⟨-, -, error, herror⟩
    · exact ⟨hsame, run_of_parse_withVerbose htext h hsame files⟩
    · cases herror
  next error h =>
    refine ⟨run_of_parse_error h _ files, ?_⟩
    rw [h] at hparse
    rcases hparse with hsame | ⟨hlast, ⟨error', herror'⟩, -⟩
    · exact ⟨error, hsame, run_of_parse_error hsame _ files, fun _ => rfl⟩
    · exact ⟨error', herror', run_of_parse_error herror' _ files, absurd hlast⟩

/-- If the environment asks for nothing that can be read, it can ask for what the flag asks for. -/
theorem run_of_bind_eq_none (h : asked?.bind Filter.ofText? = none) (arguments : List String) (files : FileSystem) :
    run arguments asked? files =
      run arguments (some (Filter.asked ((beforeDashes arguments).any isVerboseFlag))) files := by
  cases hparse : parse arguments with
  | error error => rw [run_of_parse_error hparse, run_of_parse_error hparse]
  | ok request =>
    cases request with
    | help => simp only [run, hparse]
    | version => simp only [run, hparse]
    | patch route verbose =>
      have hverbose : (beforeDashes arguments).any isVerboseFlag = verbose := by
        rw [Bool.eq_iff_iff, (parse_eq_patch_iff.mp hparse).verbose_iff, List.any_eq_true]
      rw [run_of_parse_patch hparse, run_of_parse_patch hparse, hverbose, Filter.forProcess_eq_asked h]

end Program

open CommandLine

/-- **Who decides what is logged.** If the environment asks for a filter that can be read, it is the filter of the
log, and command lines that ask for the same patch, for the help text or for the version do the same, with the flag
for more messages and without it, wherever the flag is put in front of `--`. Arguments that make no sense are
refused with the flag and without it, and leave the files as they are; only the reason may be another, if an empty
operand stands in front of the flag. If the environment asks for nothing that can be read, the flag decides between
debug messages and warnings, and the run is the one in which the environment asks for these. Of all attempts to set
up the log of a process the first alone succeeds. It chooses the filter, and the log tells once that it has been set
up, if that filter admits it. -/
theorem run_filter_precedence (arguments : List String) (files : FileSystem) :
    (∀ text filter, Filter.ofText? text = some filter →
      (∀ route verbose, parse arguments = .ok (.patch route verbose) →
        Program.Patched route files filter (Program.run arguments (some text) files)) ∧
      (∀ others request verbose, parse arguments = .ok request →
        parse others = .ok (request.withVerbose verbose) →
        Program.run others (some text) files = Program.run arguments (some text) files) ∧
      ∀ before after flag, arguments = before ++ after → isVerboseFlag flag → "--" ∉ before →
        (∀ argument ∈ beforeDashes arguments, givesVerbose argument = false) →
        match parse arguments with
        | .ok request =>
          parse (before ++ flag :: after) = .ok (request.withVerbose true) ∧
            Program.run (before ++ flag :: after) (some text) files = Program.run arguments (some text) files
        | .error error =>
          Program.run arguments (some text) files = (Program.refuse error, files) ∧
            ∃ error', parse (before ++ flag :: after) = .error error' ∧
              Program.run (before ++ flag :: after) (some text) files = (Program.refuse error', files) ∧
              (before.getLast? ≠ some "" → error' = error)) ∧
    (∀ asked?, asked?.bind Filter.ofText? = none →
      (∀ route verbose, parse arguments = .ok (.patch route verbose) →
        Program.Patched route files (.upTo (some (if verbose then .debug else .warn)))
          (Program.run arguments asked? files)) ∧
      let asked := if (beforeDashes arguments).any isVerboseFlag then "debug" else "warn"
      Program.run arguments asked? files = Program.run arguments (some asked) files) ∧
    ∀ first later asked?,
      let (results, logger) := ({} : Logger).setUpAll (first :: later) asked?
      let filter := Filter.forProcess first asked?
      results = .ok () :: later.map (fun _ => .error .alreadySetUp) ∧
        logger.filter? = some filter ∧
        logger.text = (if (filter.limit Event.programTarget).admits .debug then Event.logReady.line else "") ∧
        ∀ events wishes other?, (logger.logAll events).setUpAll wishes other? =
          (wishes.map fun _ => .error .alreadySetUp, logger.logAll events) := by
  refine ⟨?_, ?_, ?_⟩
  · intro text filter htext
    refine ⟨?_, fun others request verbose h hothers =>
      Program.run_of_parse_withVerbose htext h hothers files, ?_⟩
    · intro route verbose hparse
      have hpatched := Program.patched_of_parse hparse (some text) files
      rwa [Filter.forProcess_of_ofText? htext] at hpatched
    · rintro before after flag rfl hflag hbefore hgives
      rw [beforeDashes_append hbefore] at hgives
      exact Program.run_flag htext hbefore hflag hgives files
  · intro asked? hasked
    refine ⟨?_, Program.run_of_bind_eq_none hasked arguments files⟩
    intro route verbose hparse
    have hpatched := Program.patched_of_parse hparse asked? files
    rwa [Filter.forProcess_of_bind_eq_none hasked] at hpatched
  · intro first later asked?
    rw [Logger.setUpAll_cons]
    refine ⟨rfl, rfl, Logger.text_ready _, ?_⟩
    intro events wishes other?
    exact Logger.setUpAll_of_filter?_eq_some (Logger.filter?_logAll _ events) wishes other?

/-- The flag between two operands, and a flag that is not known behind an empty operand. -/
theorem run_filter_precedence_between_operands :
    Filter.ofText? "info" = some (.upTo (some .info)) ∧
      parse ["in", "-v", "out"] = .ok (.patch ⟨"in", "out"⟩ true) ∧
      Program.run ["in", "-v", "out"] (some "info") .initial =
        Program.run ["in", "out"] (some "info") .initial ∧
      Program.run ["", "--nosuch"] (some "info") .initial =
        (Program.refuse (.unexpected "--nosuch"), .initial) ∧
      ∃ error, Program.run ["", "-v", "--nosuch"] (some "info") .initial = (Program.refuse error, .initial) := by
  have hfilter : Filter.ofText? "info" = some (.upTo (some .info)) := by decide +kernel
  have hplain : parse ["in", "out"] = .ok (.patch ⟨"in", "out"⟩ false) := rfl
  have hnosuch : parse ["", "--nosuch"] = .error (.unexpected "--nosuch") := rfl
  have hflag := ((run_filter_precedence ["in", "out"] .initial).1 _ _ hfilter).2.2 ["in"] ["out"] "-v" rfl
    (by decide) (by decide) (by decide +kernel)
  rw [hplain] at hflag
  have hrefused := ((run_filter_precedence ["", "--nosuch"] .initial).1 _ _ hfilter).2.2 [""] ["--nosuch"] "-v" rfl
    (by decide) (by decide) (by decide +kernel)
  rw [hnosuch] at hrefused
  obtain ⟨hrefuses, error, -, hrefuses', -⟩ := hrefused
  exact ⟨hfilter, hflag.1, hflag.2, hrefuses, error, hrefuses'⟩

/-- With a filter that can be read, the flag still changes what is said of arguments that make no sense: without it the
reading stops at the flag that is not known, with it at the empty operand, which it completes. -/
theorem run_flag_behind_empty_operand :
    let without := Program.run ["", "--nosuch"] (some "info") .initial
    let flagged := Program.run ["", "-v", "--nosuch"] (some "info") .initial
    Filter.ofText? "info" = some (.upTo (some .info)) ∧
      without.1.messages = "error: unexpected argument '--nosuch' found\n" ∧
      flagged.1.messages = "error: a value is required for '<INPUT>' but none was supplied\n" ∧
      flagged ≠ without := by
  decide +kernel

end LinePatch
