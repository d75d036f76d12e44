import LinePatch.Program
import LinePatch.Proofs.CommandLine
import LinePatch.Proofs.Log
import LinePatch.Proofs.Report

/-!
# A run of the program

A run ends in one of four ways. It refuses its arguments, or prints a help text or its version, and then the
files stay as they are and there is no log. Or it patches the first operand into the second, and then the
files, the exit code and the report on a failure are those of the patch: the filter of the log decides on
the lines of the log alone.

## Main definitions

* `Program.failureReport`: the report on a failed patch
* `Program.Patched`: how a run ends that patches

## Main results

* `Program.text_causes`: the report of the program is the one of its parts
* `Program.run_of_parse_patch`, `Program.patched_of_parse`: a run that patches
* `Program.run_accounts`: all runs
-/

namespace LinePatch

namespace Program

/-- The report on a failed patch: a headline with both paths, the failure, and the error of the device. -/
def failureReport (route : Route) (error : PatchError) : String :=
  "Error: Failed to patch " ++ route.input ++ " into " ++ route.output ++ "\n\nCaused by:\n" ++
    "    0: " ++ Report.indented "       " error.message ++ "\n" ++
    "    1: " ++ Report.indented "       " error.cause.text ++ "\n"

/-- What is printed behind the log: a report if the patch failed, and nothing else. -/
def printedBehind (route : Route) : Except PatchError Summary → String
  | .ok _ => ""
  | .error error => failureReport route error

/-- The exit code of a patch. -/
def exitCode : Except PatchError Summary → Nat
  | .ok _ => 0
  | .error _ => 1

variable {arguments : List String} {route : Route} {verbose : Bool}

theorem text_causes (route : Route) (error : PatchError) :
    Report.text (headline route) error.causes = failureReport route error := by
  have hheadline : headline route = "Failed to patch " ++ route.input ++ " into " ++ route.output := rfl
  have hstart : "Error: Failed to patch " = "Error: " ++ "Failed to patch " := by decide
  unfold PatchError.causes failureReport
  rw [Report.text_pair, hheadline, hstart]
  simp only [String.append_assoc, -String.reduceAppend]

/-- The end of a run that patches: the log in front, and behind it nothing but a report on a failure. -/
theorem report_eq (route : Route) (verbose : Bool) (asked? : Option String)
    (result : Except PatchError Summary) (events : List Event) :
    report route verbose asked? result events =
      { exitCode := exitCode result
        messages :=
          (Filter.forProcess verbose asked?).logged (.logReady :: events) ++
            printedBehind route result } := by
  have hlog : (log verbose asked? events).text = _ := Logger.text_setUp_logAll verbose asked? events
  unfold report
  cases result with
  | ok summary => simp only [hlog, exitCode, printedBehind, String.append_empty]
  | error error => simp only [hlog, exitCode, printedBehind, text_causes]

/-- A run that patches, whatever its log. -/
theorem run_of_parse_patch (h : CommandLine.parse arguments = .ok (.patch route verbose))
    (asked? : Option String) (files : FileSystem) :
    run arguments asked? files =
      let outcome := patchFile .assertReturn route files
      ({ exitCode := exitCode outcome.result
         messages :=
          (Filter.forProcess verbose asked?).logged (.logReady :: outcome.events) ++
            printedBehind route outcome.result },
        outcome.files) := by
  simp only [run, h, report_eq]

/-- How a run ends that patches, and what it leaves; `filter` is the filter of its log. -/
structure Patched (route : Route) (files : FileSystem) (filter : Filter)
    (ending : Ending × FileSystem) : Prop where
  files_eq : ending.2 = (patchFile .assertReturn route files).files
  output_eq : ending.1.output = ""
  exitCode_eq_zero_iff : ending.1.exitCode = 0 ↔
    ∃ summary, (patchFile .assertReturn route files).result = .ok summary
  exitCode_eq_one_iff : ending.1.exitCode = 1 ↔
    ∃ error, (patchFile .assertReturn route files).result = .error error
  /-- If all went well, the log is all that is printed for the user. -/
  messages_of_ok : ∀ summary, (patchFile .assertReturn route files).result = .ok summary →
    ending.1.messages = filter.logged (.logReady :: (patchFile .assertReturn route files).events)
  /-- A failure is reported once, behind the log. -/
  messages_of_error : ∀ error, (patchFile .assertReturn route files).result = .error error →
    ending.1.messages =
      filter.logged (.logReady :: (patchFile .assertReturn route files).events) ++ failureReport route error

theorem patched_of_parse (h : CommandLine.parse arguments = .ok (.patch route verbose))
    (asked? : Option String) (files : FileSystem) :
    Patched route files (.forProcess verbose asked?) (run arguments asked? files) := by
  rw [run_of_parse_patch h]
  cases hresult : (patchFile .assertReturn route files).result with
  | ok summary =>
    refine ⟨rfl, rfl, ?_, ?_, ?_, ?_⟩
    · simp [hresult, exitCode]
    · simp [hresult, exitCode]
    · intro _ _
      simp only [hresult, printedBehind, String.append_empty]
    · intro error herror
      rw [hresult] at herror
      cases herror
  | error error =>
    refine ⟨rfl, rfl, ?_, ?_, ?_, ?_⟩
    · simp [hresult, exitCode]
    · simp [hresult, exitCode]
    · intro summary hsummary
      rw [hresult] at hsummary
      cases hsummary
    · intro other hother
      rw [hresult] at hother
      cases hother
      simp only [hresult, printedBehind]

/-- **The program as a whole.** Arguments that make no sense, or that ask for the help text or the version,
leave the files as they are, and nothing is logged. All others patch the first operand into the second, and
the exit code, the files and the report depend on nothing but the operands and the files. -/
theorem run_accounts (arguments : List String) (asked? : Option String) (files : FileSystem) :
    match CommandLine.parse arguments with
    | .error error =>
      run arguments asked? files =
        ({ exitCode := 2, output := "", messages := "error: " ++ error.message ++ "\n" }, files)
    | .ok .help => run arguments asked? files = ({ exitCode := 0, output := help, messages := "" }, files)
    | .ok .version =>
      run arguments asked? files = ({ exitCode := 0, output := versionText, messages := "" }, files)
    | .ok (.patch route verbose) =>
      CommandLine.operands arguments = [route.input, route.output] ∧
        Patched route files (.forProcess verbose asked?) (run arguments asked? files) ∧
        (∀ others other? route' verbose', CommandLine.parse others = .ok (.patch route' verbose') →
          CommandLine.operands others = CommandLine.operands arguments →
          ∃ exitCode report left,
            let events := .logReady :: (patchFile .assertReturn route files).events
            run arguments asked? files =
              ({ exitCode, messages := (Filter.forProcess verbose asked?).logged events ++ report }, left) ∧
            run others other? files =
              ({ exitCode, messages := (Filter.forProcess verbose' other?).logged events ++ report }, left)) ∧
        ∀ flag, flag = "-v" ∨ flag = "--verbose" → verbose = false →
          CommandLine.parse (flag :: arguments) = .ok (.patch route true) := by
  split
  next error hparse => exact run_of_parse_error hparse asked? files
  next hparse => simp only [run, hparse, print]
  next hparse => simp only [run, hparse, print]
  next route verbose hparse =>
    have hoperands := CommandLine.operands_of_parse hparse
    refine ⟨hoperands, patched_of_parse hparse asked? files, ?_, ?_⟩
    · intro others other? route' verbose' hothers hsame
      obtain rfl : route' = route := by
        obtain ⟨input, output⟩ := route
        obtain ⟨input', output'⟩ := route'
        rw [CommandLine.operands_of_parse hothers, hoperands] at hsame
        cases hsame
        rfl
      exact ⟨_, _, _, run_of_parse_patch hparse asked? files, run_of_parse_patch hothers other? files⟩
    · rintro flag hflag rfl
      exact CommandLine.parse_cons_verbose hparse hflag

end Program

end LinePatch
