import LinePatch.FileSystem.Walk
import LinePatch.Sink
import LinePatch.Source

/-!
# Opening, reading and writing files

Opening a file for reading needs only that its path leads somewhere; a directory can be opened, but
not be read. The full device has no end, and reading it is not modelled. Creating a file empties the one
that is there, or the one a link leads to, and makes a new one where the path ends in a missing name.

## Main definitions

* `FileSystem.openInput`, `FileSystem.createOutput`: the two ways to open
* `FileSystem.source`: what an open node delivers
* `OpenFile`: a node that is written to

## Main results

* `FileSystem.openInput_eq_ok_iff`: what can be opened for reading
-/

namespace LinePatch

namespace FileSystem

/-- The node that a path leads to, to be read. -/
def openInput (files : FileSystem) (path : String) : Except IoError NodeId :=
  match files.follow .use path with
  | .error error => .error error
  | .ok (.node id) => .ok id
  -- Following a path tolerates that its last name is missing, opening it does not.
  | .ok (.vacant _ _) => .error (.system .noSuchFile)

theorem openInput_eq_ok_iff {files : FileSystem} {path : String} {id : NodeId} :
    files.openInput path = .ok id ↔ files.follow .use path = .ok (.node id) := by
  unfold openInput
  split <;> simp_all

/-- Empties a node that is to be written. Devices have nothing to lose, and directories refuse. -/
def truncate (files : FileSystem) (id : NodeId) : Except IoError FileSystem :=
  match files.node? id with
  | some (.file _) => .ok (files.setNode id (.file []))
  | some (.device _) => .ok files
  | _ => .error (.system .isADirectory)

/-- The node that a path leads to, to be written from its beginning. It is created where there is
none. -/
def createOutput (files : FileSystem) (path : String) : Except IoError (NodeId × FileSystem) :=
  match files.follow .create path with
  | .error error => .error error
  | .ok (.node id) => (files.truncate id).map fun files => (id, files)
  | .ok (.vacant directory name) => .ok (files.addNamed directory name (.file []))

/-- Stands for reading without an end, which no source does. -/
def readingWithoutEnd : IoError :=
  .custom .other "reading without an end is not modelled"

/-- What an open node delivers. The full device delivers zeros without end, so a pass that reads it never
ends. This is not modelled: the failure in its place is one that no system reports, and says nothing about
such a pass. -/
def source (files : FileSystem) (id : NodeId) : Source :=
  match files.node? id with
  | some (.file contents) => .ofBytes contents
  | some (.device .null) => .ofFills []
  | some (.device .full) => .ofFills [.failure readingWithoutEnd]
  | _ => .ofFills [.failure (.system .isADirectory)]

end FileSystem

/-- A node that is written to, with the file system around it. -/
structure OpenFile where
  files : FileSystem
  node : NodeId

namespace OpenFile

/-- Writes behind what the node holds. -/
def append (bytes : Bytes) (out : OpenFile) : EStateM.Result IoError OpenFile Unit :=
  match out.files.node? out.node with
  | some (.file contents) =>
    .ok () { out with files := out.files.setNode out.node (.file (contents ++ bytes)) }
  | some (.device .null) => .ok () out
  | some (.device .full) => .error (.system .noSpace) out
  | _ => .error (.system .isADirectory) out

/-- Writes all the bytes. None at all need no call. -/
def writeAll (bytes : Bytes) (out : OpenFile) : EStateM.Result IoError OpenFile Unit :=
  if bytes.isEmpty then .ok () out else out.append bytes

instance : Sink OpenFile where
  writeAll := writeAll
  flush := .ok ()

end OpenFile

end LinePatch
