import LinePatch.Log.Pattern.Switches

/-!
# Nesting in regular expressions

An expression may not be nested too deeply, so a height is kept for what has been read. A single
character has the height zero; a repetition, a group and a set in brackets are one higher than what
they hold; and so are elements in a row, branches, members of a set and the two sides of an operator on
sets, of which the highest counts. One element or branch or member alone adds nothing.

## Main definitions

* `Pattern.rowHeight`: the height of things side by side
* `Pattern.Element`: an element that has been read
* `Pattern.Group`, `Pattern.Brackets`: a group and a set that are being read
-/

namespace LinePatch.Pattern

/-- The height of things side by side. -/
def rowHeight : List Nat → Nat
  | [] => 0
  | [height] => height
  | heights => heights.max?.getD 0 + 1

/-- The greatest height of an expression. -/
def heightLimit : Nat := 250

/-- An element of an expression that has been read. -/
structure Element where
  /-- How deep it is nested. -/
  height : Nat
  repeatable : Bool
deriving DecidableEq, Repr

/-- A group that is being read, or the whole expression. -/
structure Group where
  /-- The switches to come back to behind the group. -/
  around : Switches := {}
  /-- The heights of the branches that are complete. -/
  branches : List Nat := []
  /-- The elements of the last branch, the latest first. -/
  elements : List Element := []
deriving DecidableEq, Repr

namespace Group

/-- An element has been read. -/
def push (group : Group) (element : Element) : Group :=
  { group with elements := element :: group.elements }

/-- A branch ends, and another one begins. -/
def branch (group : Group) : Group :=
  { group with
    branches := rowHeight (group.elements.map Element.height) :: group.branches
    elements := [] }

/-- The last element is repeated, if there is one and it can be. -/
def repeatLast? (group : Group) : Option Group :=
  match group.elements with
  | [] => none
  | last :: elements =>
    if last.repeatable then
      some { group with elements := { last with height := last.height + 1 } :: elements }
    else none

/-- The height of what the group holds. -/
def height (group : Group) : Nat :=
  rowHeight group.branch.branches

end Group

/-- A set in brackets that is being read. -/
structure Brackets where
  /-- The height of what stands before the last operator. -/
  left? : Option Nat := none
  /-- The heights of the members behind it. -/
  members : List Nat := []
  /-- Nothing but minus signs has been read. -/
  fresh : Bool := true
deriving DecidableEq, Repr

namespace Brackets

/-- A member has been read. -/
def push (set : Brackets) (height : Nat) : Brackets :=
  { set with members := height :: set.members, fresh := false }

/-- A minus sign has been read at the beginning. -/
def pushSign (set : Brackets) : Brackets :=
  { set with members := 0 :: set.members }

/-- The height of what the set holds. Operators stand between all that comes before them and the
members up to the next one. -/
def innerHeight (set : Brackets) : Nat :=
  match set.left? with
  | none => rowHeight set.members
  | some left => rowHeight [left, rowHeight set.members]

/-- An operator has been read. -/
def operate (set : Brackets) : Brackets :=
  { left? := some set.innerHeight, fresh := false }

/-- The height of the set. -/
def height (set : Brackets) : Nat :=
  set.innerHeight + 1

end Brackets

end LinePatch.Pattern
