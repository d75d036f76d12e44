import LinePatch.FileSystem.Open

/-!
# Editing and viewing a file system

## Main definitions

* `FileSystem.store`, `FileSystem.makeDirectory`, `FileSystem.makeLink`, `FileSystem.addLink`,
  `FileSystem.remove`: changes by path
* `FileSystem.read?`: the contents of a regular file
* `FileSystem.Item`, `FileSystem.tree`: all that a directory holds, in order
-/

namespace LinePatch

namespace FileSystem

/-- Creates or replaces the contents of a file. -/
def store (files : FileSystem) (path : String) (contents : Bytes) : Except IoError FileSystem :=
  match files.createOutput path with
  | .error error => .error error
  | .ok (id, files) =>
    match OpenFile.writeAll contents { files, node := id } with
    | .ok () out => .ok out.files
    | .error error _ => .error error

/-- The contents of the regular file that a path leads to. -/
def read? (files : FileSystem) (path : String) : Option Bytes :=
  match files.openInput path with
  | .error _ => none
  | .ok id =>
    match files.node? id with
    | some (.file contents) => some contents
    | _ => none

/-- The missing name that a path ends in. -/
def newName (files : FileSystem) (path : String) : Except IoError (NodeId × String) :=
  match files.follow .entry path with
  | .error error => .error error
  | .ok (.node _) => .error (.system .fileExists)
  | .ok (.vacant directory name) => .ok (directory, name)

/-- Makes an empty directory. -/
def makeDirectory (files : FileSystem) (path : String) : Except IoError FileSystem :=
  (files.newName path).map fun (directory, name) =>
    (files.addNamed directory name (.directory directory [])).2

/-- Makes a symbolic link. -/
def makeLink (files : FileSystem) (target path : String) : Except IoError FileSystem :=
  (files.newName path).map fun (directory, name) =>
    (files.addNamed directory name (.link target)).2

/-- Gives a node another name. -/
def addLink (files : FileSystem) (target path : String) : Except IoError FileSystem :=
  match files.follow .entry target with
  | .error error => .error error
  | .ok (.vacant _ _) => .error (.system .noSuchFile)
  | .ok (.node id) =>
    (files.newName path).map fun (directory, name) => files.setName directory name id

/-- The directory around the last name of a path, and that name. -/
def lastName? (files : FileSystem) (path : String) : Option (NodeId × String) :=
  let path := Path.ofText path
  match path.names.getLast? with
  | none => none
  | some name =>
    match files.walk .use maxLinks files.working
      { path with names := path.names.dropLast, trailingSlash := false } with
    | .ok (.node directory) => some (directory, name)
    | _ => none

/-- Takes a name away. -/
def remove (files : FileSystem) (path : String) : Except IoError FileSystem :=
  match files.lastName? path with
  | none => .error (.system .noSuchFile)
  | some (directory, name) => .ok (files.removeName directory name)

/-- What stands under a name. -/
inductive Item where
  /-- A file or device, with the number of bytes it holds. -/
  | file (size : Nat)
  | directory
  /-- A symbolic link, with its path. -/
  | link (target : String)
deriving DecidableEq, Repr

/-- The items below a directory, each with its path: names in order, and behind each directory what it
holds. No more than `depth` levels are visited. -/
def treeBelow (files : FileSystem) (depth : Nat) (above : String) (directory : NodeId) :
    List (String × Item) :=
  match depth with
  | 0 => []
  | depth + 1 =>
    match files.directory? directory with
    | none => []
    | some (_, entries) =>
      (entries.mergeSort fun a b => a.1 ≤ b.1).flatMap fun (name, id) =>
        let path := above ++ name
        match files.node? id with
        | some (.file contents) => [(path, .file contents.length)]
        | some (.link target) => [(path, .link target)]
        | some (.directory _ _) => (path, .directory) :: files.treeBelow depth (path ++ "/") id
        | _ => [(path, .file 0)]

/-- The items below the working directory. As no directory lies in itself, there are no more levels
than nodes. -/
def tree (files : FileSystem) : List (String × Item) :=
  files.treeBelow files.nodes.size "" files.working

end FileSystem

end LinePatch
