import LinePatch.CommandLine
import LinePatch.FilePatch
import LinePatch.Log.Logger
import LinePatch.Report

/-!
# The program

The program reads its arguments, sets up its log, and patches a file by the rule of the build. It ends
with exit code 0 if it did what it was asked for, 1 if the patch failed, and 2 if the arguments made no
sense.

## Main definitions

* `Program.help`, `Program.versionText`: what it prints when it is asked for help or for its version
* `Ending`: how a run of the program ends
* `Program.refuse`, `Program.report`: the ends of a run
* `Program.run`: a run of the program

## Main results

* `Program.run_of_parse_error`: arguments that make no sense change nothing
-/

namespace LinePatch

/-- How a run of the program ends. -/
structure Ending where
  exitCode : Nat
  /-- What was printed. -/
  output : String := ""
  /-- What was printed for the user to take note of. -/
  messages : String := ""
deriving DecidableEq, Repr

namespace Program

/-- The help text. -/
def help : String :=
  "Build helper that patches generated VHDL parser sources so assert(false) branches also return\n" ++
  "\n" ++
  "Usage: vhdl-adj [OPTIONS] <INPUT> <OUTPUT>\n" ++
  "\n" ++
  "Arguments:\n" ++
  "  <INPUT>   Generated source file to read\n" ++
  "  <OUTPUT>  File to write the patched source to (created or truncated)\n" ++
  "\n" ++
  "Options:\n" ++
  "  -v, --verbose  Enable verbose logging\n" ++
  "  -h, --help     Print help\n" ++
  "  -V, --version  Print version\n"

/-- The name and the version on a line. -/
def versionText : String :=
  name ++ " " ++ version ++ "\n"

/-- The end of a run whose arguments make no sense. Of what is printed then only the first line is modelled.
Behind it stand the operands that are missing, and how the program is used; this names the flags that were
given, so two runs that are refused may differ there though their first lines do not. -/
def refuse (error : ArgumentError) : Ending :=
  { exitCode := 2, messages := "error: " ++ error.message ++ "\n" }

/-- The end of a run that only had to print something. -/
def print (text : String) : Ending :=
  { exitCode := 0, output := text }

/-- The headline of a report on a failed patch. -/
def headline (route : Route) : String :=
  s!"Failed to patch {route.input} into {route.output}"

/-- The log of a run that patches: it is set up, and then it is told the events of the patch. -/
def log (verbose : Bool) (asked? : Option String) (events : List Event) : Logger :=
  (({} : Logger).setUp verbose asked?).2.logAll events

/-- The end of a run that patched: the log, and behind it a report if the patch failed. -/
def report (route : Route) (verbose : Bool) (asked? : Option String)
    (result : Except PatchError Summary) (events : List Event) : Ending :=
  let logged := (log verbose asked? events).text
  match result with
  | .ok _ => { exitCode := 0, messages := logged }
  | .error error =>
    { exitCode := 1, messages := logged ++ Report.text (headline route) error.causes }

/-- A run of the program, with its arguments and the filter that its environment asks for. -/
def run (arguments : List String) (asked? : Option String) (files : FileSystem) :
    Ending × FileSystem :=
  match CommandLine.parse arguments with
  | .error error => (refuse error, files)
  | .ok .help => (print help, files)
  | .ok .version => (print versionText, files)
  | .ok (.patch route verbose) =>
    let outcome := patchFile .assertReturn route files
    (report route verbose asked? outcome.result outcome.events, outcome.files)

theorem run_of_parse_error {arguments : List String} {error : ArgumentError}
    (h : CommandLine.parse arguments = .error error) (asked? : Option String)
    (files : FileSystem) : run arguments asked? files = (refuse error, files) := by
  simp only [run, h]

end Program

end LinePatch
