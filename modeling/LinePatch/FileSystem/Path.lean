import LinePatch.IoError
import LinePatch.Text

/-!
# Paths

A path is a row of names between slashes. It begins at the root when it begins with a slash. A slash
at its end asks for a directory. Several slashes in a row count as one.

## Main definitions

* `Path`, `Path.ofText`: a path and its reading
* `Path.followedBy`: a path and what is left to follow behind it
* `Path.ofArgument`: a path handed to the system, which refuses some texts without looking them up
-/

namespace LinePatch

/-- Where to go from some directory. -/
structure Path where
  /-- The path begins at the root and not at the directory at hand. -/
  absolute : Bool
  /-- The names to follow. -/
  names : List String
  /-- A slash stands at the end. -/
  trailingSlash : Bool
deriving DecidableEq, Repr

namespace Path

/-- The longest name that a directory can hold, in bytes. -/
def maxNameBytes : Nat := 255

/-- A path as long as this, in bytes, is too long for the system. -/
def tooManyBytes : Nat := 4096

/-- The reading of a path. -/
def ofText (text : String) : Path :=
  let chars := text.toList
  { absolute := chars.head? = some '/'
    names := (pieces '/' text).filter (· ≠ "")
    trailingSlash := chars.getLast? = some '/' }

/-- A path that goes on where another ends. -/
def followedBy (path : Path) (names : List String) (trailingSlash : Bool) : Path :=
  { path with
    names := path.names ++ names
    trailingSlash := trailingSlash || names.isEmpty && path.trailingSlash }

/-- A path as the system takes it. A text that holds NUL never gets to the system; the empty text and
one that is too long are refused there. -/
def ofArgument (text : String) : Except IoError Path :=
  if '\x00' ∈ text.toList then .error .nulInPath
  else if text = "" then .error (.system .noSuchFile)
  else if tooManyBytes ≤ text.utf8ByteSize then .error (.system .nameTooLong)
  else .ok (ofText text)

end Path

end LinePatch
