import LinePatch.Proofs.FilePatch.Pass
import LinePatch.Proofs.Log.Line
import LinePatch.Proofs.Pass.Changes
import LinePatch.Proofs.Program

/-!
# The log of a patch

A patch tells that it begins, then of each line in which it replaces something, and at last, if it has succeeded,
what it has counted. So the log shows how far a failed patch has come: up to the line that could not be written,
that line included, or before the line that could not be read. A log with a limit holds of these lines those
that the limit admits, and the patch does not depend on it.

## Main definitions

* `LogLine`, `patchLog`: the lines of the log of a patch
* `FileSystem.inputLines`: the lines that a patch finds when it begins to read

## Main results

* `exists_changes_patchFile`: the events of a patch agree with its result
* `patchFile_log`: the log of a patch agrees with its result, with any limit
-/

namespace LinePatch

/-- A line in a log. -/
structure LogLine where
  level : Level
  text : String

/-- What a patch logs that has noted `changes` and ends with `result`. -/
def patchLog (route : Route) (changes : List Change) (result : Except PatchError Summary) : List LogLine :=
  let started :=
    "DEBUG Rewriting " ++ Terminal.escaped route.input ++ " -> " ++ Terminal.escaped route.output ++ "\n"
  let changed (change : Change) :=
    "TRACE Line " ++ toString change.line ++ ": " ++ toString change.count ++ " replacement(s)\n"
  let finished (summary : Summary) :=
    " INFO Rewrote " ++ Terminal.escaped route.output ++ ": " ++ toString summary.lines ++ " lines, " ++
      toString summary.replacements ++ " replacements on " ++ toString summary.changedLines ++ " lines\n"
  { level := .debug, text := started } ::
    changes.map (fun change => { level := .trace, text := changed change }) ++
      match result with
      | .ok summary => [{ level := .info, text := finished summary }]
      | .error _ => []

/-- The text of a log with a limit: of some lines, those that the limit admits. -/
def LogLine.upTo (limit : Limit) (lines : List LogLine) : String :=
  String.join ((lines.filter fun line => limit.admits line.level).map LogLine.text)

/-- The lines that a patch finds in its input when it begins to read. There are none unless both files can be
opened and the input is a regular file; the output has been emptied by then, also if it is the input. -/
def FileSystem.inputLines (files : FileSystem) (route : Route) : List Bytes :=
  match files.openInput route.input, files.createOutput route.output with
  | .ok input, .ok (_, created) =>
    match created.node? input with
    | some (.file contents) => Bytes.lines contents
    | _ => []
  | _, _ => []

/-! ## From the events to the log -/

/-- The events of a patch that has noted `changes` and ends with `result`. -/
def Event.ofPatch (route : Route) (changes : List Change) (result : Except PatchError Summary) : List Event :=
  started route :: changes.map changed ++ ofResult route result

/-- The events of a patch have the lines of its log. -/
theorem patchLog_eq_map (route : Route) (changes : List Change) (result : Except PatchError Summary) :
    patchLog route changes result =
      (Event.ofPatch route changes result).map fun event => { level := event.level, text := event.line } := by
  cases result with
  | ok summary =>
    simp only [patchLog, Event.ofPatch, Event.ofResult, List.cons_append, List.map_cons, List.map_append,
      List.map_map, List.map_nil, Function.comp_def, Event.line_started, Event.line_changed,
      Event.line_finished, Event.level]
  | error error =>
    simp only [patchLog, Event.ofPatch, Event.ofResult, List.append_nil, List.map_cons, List.map_map,
      Function.comp_def, Event.line_started, Event.line_changed, Event.level]

theorem Filter.logged_upTo (limit : Limit) (route : Route) (changes : List Change)
    (result : Except PatchError Summary) :
    (Filter.upTo limit).logged (Event.ofPatch route changes result) =
      LogLine.upTo limit (patchLog route changes result) := by
  have hadmits : (Filter.upTo limit).admits = fun event => limit.admits event.level :=
    funext (Filter.admits_upTo limit)
  rw [logged, hadmits, LogLine.upTo, patchLog_eq_map, List.filter_map, List.map_map]
  rfl

theorem LogLine.upTo_trace (lines : List LogLine) :
    upTo (some .trace) lines = String.join (lines.map text) := by
  have hall : lines.filter (fun line => Limit.admits (some .trace) line.level) = lines := by
    refine List.filter_eq_self.mpr ?_
    rintro ⟨level, _⟩ -
    cases level <;> rfl
  rw [upTo, hall]

/-! ## From the pass to the events -/

/-- A file gives its lines, and what is no file gives none. -/
theorem FileSystem.lines_reading_source (files : FileSystem) (id : NodeId) :
    (files.source id).reading.lines =
      match files.node? id with
      | some (.file contents) => Bytes.lines contents
      | _ => [] := by
  have hfailed {error : IoError} (h : error.isInterrupted = false) :
      (Source.ofFills [.failure error]).reading.lines = [] := by
    have hread : (Source.ofFills [.failure error]).readLine = .failed error (.ofFills []) := by
      simp [Source.readLine, Source.readLineFrom, Source.ofFills, h]
    rw [Source.reading_of_failed hread]
  unfold source
  cases files.node? id with
  | none => exact hfailed rfl
  | some node =>
    cases node with
    | file contents => exact congrArg Reading.lines (Source.reading_ofBytes contents)
    | directory | link => exact hfailed rfl
    | device device =>
      cases device with
      | null => exact congrArg Reading.lines (Source.reading_of_ended rfl)
      | full => exact hfailed rfl

/-- The events of a patch are those of its notes, which agree with its result. -/
theorem exists_changes_patchFile (rule : Rule) (route : Route) (files : FileSystem) :
    ∃ changes,
      (patchFile rule route files).events =
        Event.ofPatch route changes (patchFile rule route files).result ∧
      Agree rule (files.inputLines route) changes (patchFile rule route files).result := by
  cases hinput : files.openInput route.input with
  | error cause =>
    rw [patchFile_of_openInput_error hinput]
    exact ⟨[], rfl, .unopened rfl⟩
  | ok input =>
    cases hcreate : files.createOutput route.output with
    | error cause =>
      rw [patchFile_of_createOutput_error hinput hcreate]
      exact ⟨[], rfl, .unopened rfl⟩
    | ok opened =>
      obtain ⟨output, created⟩ := opened
      have hlines : files.inputLines route = (created.source input).reading.lines := by
        rw [FileSystem.lines_reading_source, FileSystem.inputLines, hinput, hcreate]
      rw [patchFile_of_opened hinput hcreate, hlines]
      exact ⟨_, rfl, Progress.agree_run rule route (created.source input) _⟩

/-- **The log of a patch** agrees with its result. It holds the line of the beginning, a line for each change, and
the line of the end if the patch succeeded. The changes are the lines of the input in which the rule replaces
something: all of them if the patch succeeded, those up to the line that could not be written, those before the
line that could not be read, and none if a file could not be opened. This holds of what any pass notes, however
its source and its sink fail. A log with a limit holds the lines that the limit admits; and the program, with
such a limit in its environment, leaves the same files, exit code and report, whatever the limit is. -/
theorem patchFile_log (rule : Rule) (route : Route) (files : FileSystem) :
    let outcome := patchFile rule route files
    let log (limit : Limit) := (({ filter? := some (.upTo limit) } : Logger).logAll outcome.events).text
    (∃ changes,
      let lines := patchLog route changes outcome.result
      log (some .trace) = String.join (lines.map LogLine.text) ∧
        (∀ limit, log limit =
          String.join ((lines.filter fun line => limit.admits line.level).map LogLine.text)) ∧
        Agree rule (files.inputLines route) changes outcome.result) ∧
      (∀ {σ : Type} [Sink σ] (source : Source) (sink : σ),
        let pass := Progress.run rule route { source, sink }
        Agree rule source.reading.lines pass.progress.changes.toList pass.result) ∧
      (rule = .assertReturn → ∀ arguments verbose,
        CommandLine.parse arguments = .ok (.patch route verbose) →
        ∃ exitCode report, ∀ text limit, Filter.ofText? text = some (.upTo limit) →
          Program.run arguments (some text) files =
            ({ exitCode
               messages := (if limit.admits .debug then Event.logReady.line else "") ++ log limit ++ report },
              outcome.files)) := by
  intro outcome log
  obtain ⟨changes, hevents, hagree⟩ := exists_changes_patchFile rule route files
  have hlogged (limit : Limit) : log limit = (Filter.upTo limit).logged outcome.events :=
    Logger.text_logAll (.upTo limit) outcome.events
  have hlog (limit : Limit) : log limit = LogLine.upTo limit (patchLog route changes outcome.result) := by
    rw [hlogged, hevents, Filter.logged_upTo]
  refine ⟨⟨changes, ?_, hlog, hagree⟩, fun source sink => Progress.agree_run rule route source sink, ?_⟩
  · rw [hlog, LogLine.upTo_trace]
  · rintro rfl arguments verbose hparse
    refine ⟨Program.exitCode outcome.result, Program.printedBehind route outcome.result, ?_⟩
    intro text limit htext
    have hfilter := Filter.forProcess_of_ofText? htext verbose
    simp only [Program.run_of_parse_patch hparse, hfilter, hlogged, Filter.logged_cons, Filter.admits_upTo]
    rfl

end LinePatch
