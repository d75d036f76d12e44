import LinePatch.Program
import LinePatch.Sink.Scripted

/-!
# The program at work

Runs the program on the files of the system. The pass is the one of the library; its output is
gathered in memory and handed on, step by step, whenever the buffer in front of it is emptied.

## Main definitions

* `LinePatch.Files.patch`: patches a file of the system
* `main`: the program
-/

namespace LinePatch.Files

/-- The number of a failed system call. -/
def code : IO.Error → UInt32
  | .alreadyExists _ code _ | .otherError code _ | .resourceBusy code _ | .resourceVanished code _
  | .unsupportedOperation code _ | .hardwareFault code _ | .unsatisfiedConstraints code _
  | .illegalOperation code _ | .protocolError code _ | .timeExpired code _ | .interrupted _ code _
  | .noFileOrDirectory _ code _ | .invalidArgument _ code _ | .permissionDenied _ code _
  | .resourceExhausted _ code _ | .inappropriateType _ code _ | .noSuchThing _ code _ => code
  | .unexpectedEof | .userError _ => 0

/-- An error of the system, as the library sees it. -/
def ioError (error : IO.Error) : IoError :=
  let text := toString error
  match (code error).toNat with
  | 0 => .custom .other text
  | code => .system ((Errno.ofCode? code).getD { code, text, kind := .unnamed text })

/-- Does something that may fail. -/
def attempt {α : Type} (action : IO α) : IO (Except IoError α) := do
  return (← action.toBaseIO).mapError ioError

/-- Reads all that a file holds. -/
def sourceOf (input : IO.FS.Handle) : IO Source := do
  match ← attempt input.readBinToEnd with
  | .ok contents => return .ofBytes contents.toList
  | .error error => return .ofFills [.failure error]

/-- Writes bytes to a file at once. -/
def put (output : IO.FS.Handle) (bytes : Array UInt8) : IO (Except IoError Unit) :=
  if bytes.isEmpty then return .ok ()
  else attempt do
    output.write ⟨bytes⟩
    output.flush

/-- Runs a pass to its end. After each step, what has left the buffer is written to the file. -/
partial def run (rule : Rule) (route : Route) (output : IO.FS.Handle)
    (progress : Progress (Buffered ScriptedSink)) :
    IO (Except PatchError Summary × List Change) := do
  let (progress, result?) :=
    match progress.step rule route with
    | .next progress => (progress, none)
    | .stop result progress => (progress, some result)
  match ← put output progress.sink.sink.contents with
  | .error error =>
    return (.error (.write route.output progress.summary.lines error), progress.changes.toList)
  | .ok () =>
    match result? with
    | some result => return (result, progress.changes.toList)
    -- An empty sink gathers what leaves the buffer next.
    | none => run rule route output { progress with sink := { progress.sink with sink := {} } }

/-- Patches a file of the system. -/
def patch (rule : Rule) (route : Route) : IO (Except PatchError Summary × List Event) := do
  match ← attempt (IO.FS.Handle.mk route.input .read) with
  | .error cause => return (.error (.openInput route.input cause), [.started route])
  | .ok input =>
    match ← attempt (IO.FS.Handle.mk route.output .write) with
    | .error cause => return (.error (.createOutput route.output cause), [.started route])
    | .ok output =>
      let progress : Progress (Buffered ScriptedSink) :=
        { source := ← sourceOf input, sink := { sink := {} } }
      let (result, changes) ← run rule route output progress
      return (result, .started route :: changes.map .changed ++ Event.ofResult route result)

/-- Prints what a run leaves behind. -/
def finish (ending : Ending) : IO UInt32 := do
  (← IO.getStdout).putStr ending.output
  (← IO.getStderr).putStr ending.messages
  return ending.exitCode.toUInt32

end LinePatch.Files

open LinePatch in
/-- The program. -/
def main (arguments : List String) : IO UInt32 := do
  match CommandLine.parse arguments with
  | .error error => Files.finish (Program.refuse error)
  | .ok .help => Files.finish (Program.print Program.help)
  | .ok .version => Files.finish (Program.print Program.versionText)
  | .ok (.patch route verbose) =>
    let (result, events) ← Files.patch .assertReturn route
    Files.finish (Program.report route verbose (← IO.getEnv "RUST_LOG") result events)
