import LinePatch.FileSystem.Open
import LinePatch.Log.Event
import LinePatch.Sink

/-!
# Patching a file

A file is patched into another: the input is opened, then the output is created or emptied, and then
a pass runs from one to the other through a buffer. An input that cannot be opened therefore leaves no
trace. When the pass fails, what has been written stays.

## Main definitions

* `patchFile`: patches a file
* `FileOutcome`: the result, the file system behind it and the events on the way

## Main results

* `patchFile_of_openInput_error`, `patchFile_of_createOutput_error`: the failures that leave no trace
-/

namespace LinePatch

/-- The end of a patch. -/
structure FileOutcome where
  /-- The counts of the pass, or why the patch failed. -/
  result : Except PatchError Summary
  /-- The file system afterwards. -/
  files : FileSystem
  /-- What was worth telling, in order. -/
  events : List Event

/-- The pass from an open node to another. -/
def passFile (rule : Rule) (route : Route) (files : FileSystem) (input output : NodeId) :
    Outcome (Buffered OpenFile) :=
  Progress.run rule route
    { source := files.source input
      sink := { sink := { files, node := output } } }

/-- The event that ends a patch, which is told of only if it succeeds. -/
def Event.ofResult (route : Route) : Except PatchError Summary → List Event
  | .ok summary => [.finished route.output summary]
  | .error _ => []

/-- Patches the input of a route into its output. -/
def patchFile (rule : Rule) (route : Route) (files : FileSystem) : FileOutcome :=
  match files.openInput route.input with
  | .error cause =>
    { result := .error (.openInput route.input cause), files, events := [.started route] }
  | .ok input =>
    match files.createOutput route.output with
    | .error cause =>
      { result := .error (.createOutput route.output cause), files, events := [.started route] }
    | .ok (output, files) =>
      -- The input is read as it is now: a file patched into itself has been emptied.
      let outcome := passFile rule route files input output
      { result := outcome.result
        files := outcome.progress.sink.sink.files
        events :=
          .started route :: outcome.progress.changes.toList.map .changed
            ++ Event.ofResult route outcome.result }

section

variable {rule : Rule} {route : Route} {files : FileSystem} {input : NodeId} {cause : IoError}

theorem patchFile_of_openInput_error (h : files.openInput route.input = .error cause) :
    patchFile rule route files =
      { result := .error (.openInput route.input cause), files, events := [.started route] } := by
  simp only [patchFile, h]

theorem patchFile_of_createOutput_error (hin : files.openInput route.input = .ok input)
    (hout : files.createOutput route.output = .error cause) :
    patchFile rule route files =
      { result := .error (.createOutput route.output cause), files, events := [.started route] } := by
  simp only [patchFile, hin, hout]

end

end LinePatch
