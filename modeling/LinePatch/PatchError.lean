import LinePatch.IoError

/-!
# Why a patch fails

A patch reads one file or stream and writes another. It fails when either cannot be opened, or when
reading or writing fails at some line. Every failure names the path it concerns and keeps the error
of the device as its cause.

## Main definitions

* `PatchError`: the four failures
* `PatchError.path`, `PatchError.line?`, `PatchError.cause`: what a failure carries
* `PatchError.message`: the text of a failure
-/

namespace LinePatch

/-- Why a patch failed. -/
inductive PatchError where
  | openInput (path : String) (cause : IoError)
  | createOutput (path : String) (cause : IoError)
  /-- The line with this number cannot be read. -/
  | read (path : String) (line : Nat) (cause : IoError)
  /-- The output cannot take the line with this number, or not all up to it. -/
  | write (path : String) (line : Nat) (cause : IoError)
deriving DecidableEq, Repr

namespace PatchError

/-- The path of the file that could not be opened, created, read or written. -/
def path : PatchError → String
  | openInput path _ | createOutput path _ | read path _ _ | write path _ _ => path

/-- The line at which a running patch failed. -/
def line? : PatchError → Option Nat
  | openInput _ _ | createOutput _ _ => none
  | read _ line _ | write _ line _ => some line

/-- The error of the device. -/
def cause : PatchError → IoError
  | openInput _ cause | createOutput _ cause | read _ _ cause | write _ _ cause => cause

/-- The kind of the device's error. -/
def kind (error : PatchError) : IoError.Kind :=
  error.cause.kind

/-- The text of a failure; path and cause stand in it as they are. -/
def message : PatchError → String
  | openInput path cause => s!"Failed to open input file {path}: {cause.text}"
  | createOutput path cause => s!"Failed to create output file {path}: {cause.text}"
  | read path line cause => s!"Failed to read line {line} of {path}: {cause.text}"
  | write path line cause => s!"Failed to write line {line} to {path}: {cause.text}"

end PatchError

end LinePatch
