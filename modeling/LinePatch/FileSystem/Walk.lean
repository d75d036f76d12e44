import LinePatch.FileSystem.Basic
import LinePatch.FileSystem.Path

/-!
# Following a path

A path is followed name by name from a directory. `.` stays where it is and `..` leads to the
directory around. A symbolic link is followed from the directory in which it stands; at most forty
links are followed on one path. The last name may be missing, and a path may be meant for the link at
its end rather than for what that leads to.

## Main definitions

* `Purpose`: what a path is followed for
* `Place`: where a path leads
* `FileSystem.follow`: follows a path

## Main results

* `FileSystem.descend_dot`, `FileSystem.descend_dotdot`: the names that are not looked up
-/

namespace LinePatch

/-- What a path is followed for. -/
inductive Purpose where
  /-- To use what is there. -/
  | use
  /-- To create a file unless there is one. A slash behind its name is refused at once. -/
  | create
  /-- To change the entry of a directory. A link at the end of the path is not followed. -/
  | entry
deriving DecidableEq, Repr

/-- Where a path leads. -/
inductive Place where
  | node (id : NodeId)
  /-- To a name that is missing in a directory. -/
  | vacant (directory : NodeId) (name : String)
deriving DecidableEq, Repr

namespace FileSystem

/-- The most links that are followed on one path. -/
def maxLinks : Nat := 40

/-- Follows names down from a directory. A link is handed to `followLink`: the directory in which it
stands, and its path with what is left to follow behind it. -/
def descend (files : FileSystem) (purpose : Purpose)
    (followLink : NodeId → Path → Except Errno Place) (directory : NodeId) (names : List String)
    (trailingSlash : Bool) : Except Errno Place :=
  match names with
  | [] =>
    if trailingSlash && (files.directory? directory).isNone then .error .notADirectory
    else .ok (.node directory)
  | name :: rest =>
    match files.directory? directory with
    | none => .error .notADirectory
    | some (parent, entries) =>
      -- `.` and `..` are not looked up; any other name has to be one that a directory can hold.
      if name = "." then files.descend purpose followLink directory rest trailingSlash
      else if name = ".." then files.descend purpose followLink parent rest trailingSlash
      else if purpose = .create && rest.isEmpty && trailingSlash then .error .isADirectory
      else if Path.maxNameBytes < name.utf8ByteSize then .error .nameTooLong
      else
        match entries.lookup name with
        | none => if rest.isEmpty then .ok (.vacant directory name) else .error .noSuchFile
        | some id =>
          match files.node? id with
          | some (.link target) =>
            -- What is left to follow goes behind the path of the link.
            if purpose = .entry && rest.isEmpty then .ok (.node id)
            else followLink directory ((Path.ofText target).followedBy rest trailingSlash)
          | _ => files.descend purpose followLink id rest trailingSlash

/-- The directory from which a path is followed. -/
def origin (files : FileSystem) (directory : NodeId) (path : Path) : NodeId :=
  if path.absolute then files.root else directory

/-- Follows a path from a directory, and no more than `links` links on the way. -/
def walk (files : FileSystem) (purpose : Purpose) (links : Nat) (directory : NodeId) (path : Path) :
    Except Errno Place :=
  match links with
  | 0 =>
    files.descend purpose (fun _ _ => .error .tooManyLinks) (files.origin directory path) path.names
      path.trailingSlash
  | links + 1 =>
    files.descend purpose (files.walk purpose links) (files.origin directory path) path.names
      path.trailingSlash

/-- Follows a path from the working directory. -/
def follow (files : FileSystem) (purpose : Purpose) (path : String) : Except IoError Place :=
  match Path.ofArgument path with
  | .error error => .error error
  | .ok path => (files.walk purpose maxLinks files.working path).mapError .system

section

variable {files : FileSystem} {purpose : Purpose}
  {followLink : NodeId → Path → Except Errno Place} {directory parent : NodeId}
  {entries : List (String × NodeId)} {rest : List String} {trailingSlash : Bool}

theorem descend_dot (h : files.directory? directory = some (parent, entries)) :
    files.descend purpose followLink directory ("." :: rest) trailingSlash =
      files.descend purpose followLink directory rest trailingSlash := by
  rw [descend]
  simp [h]

theorem descend_dotdot (h : files.directory? directory = some (parent, entries)) :
    files.descend purpose followLink directory (".." :: rest) trailingSlash =
      files.descend purpose followLink parent rest trailingSlash := by
  rw [descend]
  simp [h]

end

end FileSystem

end LinePatch
