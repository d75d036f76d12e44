/-!
# Errors of reading and writing

The error of a device carries its kind, by which a program decides what to do next, and a text for
the user. There are three forms: the error number of a system call, a kind alone, and a kind with a
message of its own. A system may report errors and kinds that have no name here; they are handed on
as they are.

## Main definitions

* `IoError.Kind`: the kinds of error
* `Errno`: the error numbers of the system calls
* `IoError`: the three forms, with `IoError.kind` and `IoError.text`
* `IoError.isInterrupted`: the failed call is to be made again
-/

namespace LinePatch

/-- What went wrong, as far as a program has to tell it apart. -/
inductive IoError.Kind where
  | notFound
  | permissionDenied
  | alreadyExists
  | brokenPipe
  | invalidInput
  | invalidData
  | timedOut
  | wouldBlock
  | writeZero
  | storageFull
  | interrupted
  | unexpectedEof
  | outOfMemory
  | unsupported
  | other
  | inputOutput
  | notADirectory
  | isADirectory
  | invalidFilename
  | filesystemLoop
  /-- Any other kind, with its text. -/
  | unnamed (text : String)
deriving DecidableEq, Repr

/-- The text of an error that carries nothing but its kind. -/
def IoError.Kind.text : IoError.Kind → String
  | .notFound => "entity not found"
  | .permissionDenied => "permission denied"
  | .alreadyExists => "entity already exists"
  | .brokenPipe => "broken pipe"
  | .invalidInput => "invalid input parameter"
  | .invalidData => "invalid data"
  | .timedOut => "timed out"
  | .wouldBlock => "operation would block"
  | .writeZero => "write zero"
  | .storageFull => "no storage space"
  | .interrupted => "operation interrupted"
  | .unexpectedEof => "unexpected end of file"
  | .outOfMemory => "out of memory"
  | .unsupported => "unsupported"
  | .other => "other error"
  | .inputOutput => "input/output error"
  | .notADirectory => "not a directory"
  | .isADirectory => "is a directory"
  | .invalidFilename => "invalid filename"
  | .filesystemLoop => "filesystem loop or indirection limit (e.g. symlink loop)"
  | .unnamed text => text

/-- Why a system call failed. -/
structure Errno where
  /-- The number of the error. -/
  code : Nat
  /-- The system's text for the error. -/
  text : String
  kind : IoError.Kind
deriving DecidableEq, Repr

namespace Errno

def noSuchFile : Errno := ⟨2, "No such file or directory", .notFound⟩

def interruptedCall : Errno := ⟨4, "Interrupted system call", .interrupted⟩

def inputOutput : Errno := ⟨5, "Input/output error", .inputOutput⟩

def permissionDenied : Errno := ⟨13, "Permission denied", .permissionDenied⟩

def fileExists : Errno := ⟨17, "File exists", .alreadyExists⟩

def notADirectory : Errno := ⟨20, "Not a directory", .notADirectory⟩

def isADirectory : Errno := ⟨21, "Is a directory", .isADirectory⟩

def noSpace : Errno := ⟨28, "No space left on device", .storageFull⟩

def brokenPipe : Errno := ⟨32, "Broken pipe", .brokenPipe⟩

def nameTooLong : Errno := ⟨36, "File name too long", .invalidFilename⟩

def tooManyLinks : Errno := ⟨40, "Too many levels of symbolic links", .filesystemLoop⟩

/-- The errors that have a name. -/
def named : List Errno :=
  [noSuchFile, interruptedCall, inputOutput, permissionDenied, fileExists, notADirectory, isADirectory,
    noSpace, brokenPipe, nameTooLong, tooManyLinks]

/-- The error of a number, if it has a name. -/
def ofCode? (code : Nat) : Option Errno :=
  named.find? (·.code = code)

end Errno

/-- The error of a device. -/
inductive IoError where
  /-- A system call failed. -/
  | system (errno : Errno)
  /-- An error of which only the kind is known. -/
  | simple (kind : IoError.Kind)
  /-- An error with a message of its own. -/
  | custom (kind : IoError.Kind) (message : String)
deriving DecidableEq, Repr

namespace IoError

/-- The kind of an error. -/
def kind : IoError → Kind
  | system errno => errno.kind
  | simple kind => kind
  | custom kind _ => kind

/-- The text of an error. -/
def text : IoError → String
  | system errno => s!"{errno.text} (os error {errno.code})"
  | simple kind => kind.text
  | custom _ message => message

/-- A call that failed in this way is made again. -/
def isInterrupted (error : IoError) : Bool :=
  error.kind = .interrupted

/-- A device took nothing of what it was offered. -/
def wroteNothing : IoError :=
  custom .writeZero "failed to write whole buffer"

/-- A path holds the character that ends a path in a system call. -/
def nulInPath : IoError :=
  custom .invalidInput "file name contained an unexpected NUL byte"

end IoError

end LinePatch
