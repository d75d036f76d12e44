import LinePatch.Bytes

/-!
# File systems

A file system is a row of nodes that refer to each other by number. Directories give names to nodes,
and a node may have several names. Nodes are never given up, so a file that has lost its last name
keeps its contents.

## Main definitions

* `Node`, `FileSystem`: files, directories, links and devices
* `FileSystem.node?`, `FileSystem.setNode`, `FileSystem.addNode`: access by number
* `FileSystem.setName`, `FileSystem.removeName`: the entries of a directory
* `FileSystem.initial`: an empty directory to work in, and two devices

## Main results

* `FileSystem.node?_setNode`, `FileSystem.node?_addNode`: what a change leaves alone
-/

namespace LinePatch

/-- The number of a node. -/
abbrev NodeId := Nat

/-- Nodes that are not stored. -/
inductive Device where
  /-- Holds nothing and takes everything. -/
  | null
  /-- Takes nothing. What it delivers has no end, and is not modelled. -/
  | full
deriving DecidableEq, Repr

/-- What a name can stand for. -/
inductive Node where
  /-- A regular file. -/
  | file (contents : Bytes)
  /-- A directory: the one it lies in, and its names. -/
  | directory (parent : NodeId) (entries : List (String × NodeId))
  /-- A symbolic link: the path to follow in its place. -/
  | link (target : String)
  | device (device : Device)
deriving DecidableEq, Repr

/-- The nodes of a system, its root and the directory from which paths are followed. -/
structure FileSystem where
  nodes : Array Node
  root : NodeId
  working : NodeId
deriving DecidableEq, Repr

namespace FileSystem

/-- The node with a number. -/
def node? (files : FileSystem) (id : NodeId) : Option Node :=
  files.nodes[id]?

/-- Replaces a node. -/
def setNode (files : FileSystem) (id : NodeId) (node : Node) : FileSystem :=
  { files with nodes := files.nodes.setIfInBounds id node }

theorem node?_setNode (files : FileSystem) (id other : NodeId) (node : Node) :
    (files.setNode id node).node? other =
      if id = other then (files.node? id).map fun _ => node else files.node? other := by
  simp only [node?, setNode, Array.getElem?_setIfInBounds]
  split
  next h => subst h; split <;> simp_all
  next => rfl

/-- Adds a node under a number of its own. -/
def addNode (files : FileSystem) (node : Node) : NodeId × FileSystem :=
  (files.nodes.size, { files with nodes := files.nodes.push node })

theorem node?_addNode (files : FileSystem) (node : Node) (id : NodeId) :
    (files.addNode node).2.node? id =
      if id = files.nodes.size then some node else files.node? id := by
  simp only [node?, addNode, Array.getElem?_push]

/-- The directory in which a directory lies, and its names. -/
def directory? (files : FileSystem) (id : NodeId) : Option (NodeId × List (String × NodeId)) :=
  match files.node? id with
  | some (.directory parent entries) => some (parent, entries)
  | _ => none

/-- Changes the names of a directory. -/
def modifyEntries (files : FileSystem) (id : NodeId)
    (change : List (String × NodeId) → List (String × NodeId)) : FileSystem :=
  match files.node? id with
  | some (.directory parent entries) => files.setNode id (.directory parent (change entries))
  | _ => files

/-- Gives a node a name in a directory. -/
def setName (files : FileSystem) (directory : NodeId) (name : String) (id : NodeId) :
    FileSystem :=
  files.modifyEntries directory fun entries => entries ++ [(name, id)]

/-- Takes a name out of a directory. -/
def removeName (files : FileSystem) (directory : NodeId) (name : String) : FileSystem :=
  files.modifyEntries directory fun entries => entries.filter (·.1 ≠ name)

/-- Adds a node and gives it its first name. -/
def addNamed (files : FileSystem) (directory : NodeId) (name : String) (node : Node) :
    NodeId × FileSystem :=
  let (id, files) := files.addNode node
  (id, files.setName directory name id)

/-- An empty working directory somewhere below the root, which also holds the devices. -/
def initial : FileSystem where
  nodes := #[
    .directory 0 [("dev", 1)],
    .directory 0 [("null", 2), ("full", 3)],
    .device .null,
    .device .full,
    .directory 0 [],
    .directory 4 []]
  root := 0
  working := 5

end FileSystem

end LinePatch
