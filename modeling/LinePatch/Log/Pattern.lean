import LinePatch.Log.Pattern.Escape
import LinePatch.Log.Pattern.Nesting

/-!
# Regular expressions

A log filter may hold a regular expression, and cannot be read if that is not well formed. Characters
stand for themselves, except for the operators `. ^ $ | ? * + ( ) [` and for what follows a backslash.
A group may have a name or switches; switches hold to the end of the group around them. Brackets hold
characters, ranges, named classes and further brackets, between operators on sets. Nothing may be nested
too deeply.

Repetition counts and names in braces are refused: the text that a filter cuts out for an expression
ends before its first closing brace. So are classes that need more than ASCII: the shorthands for
digits, blanks and words, the boundaries of words and the comparison of letters without their case, as
long as they are not switched to bytes. Where bytes are meant, nothing may match a part of a character:
neither a single byte beyond ASCII nor a set that is negated.

## Main definitions

* `Pattern.State`, `Pattern.State.take`: a part of an expression, and its next element
* `Pattern.isWellFormed`: the check

## Main results

* `Pattern.State.take_suffix`: what follows an element is an end of the text
-/

namespace LinePatch.Pattern

/-- The elements of an expression that have been read. -/
structure State where
  /-- The switches at this point. -/
  switches : Switches := {}
  /-- The names of groups so far. -/
  names : List (List Char) := []
  /-- The innermost open group, or else the whole expression. -/
  group : Group := {}
  /-- What stands around it, the innermost first. -/
  groups : List Group := []
  /-- The open sets, the innermost first. -/
  sets : List Brackets := []
deriving DecidableEq, Repr

namespace State

/-- An element has been read that can be repeated. -/
def push (state : State) (height : Nat) : State :=
  { state with group := state.group.push { height, repeatable := true } }

/-- Switches have been set, which is no element to repeat. -/
def setSwitches (state : State) (switches : Switches) : State :=
  { state with switches, group := state.group.push { height := 0, repeatable := false } }

/-! ## Groups -/

/-- A group begins. -/
def openGroup (state : State) (switches : Switches) : State :=
  { state with switches, group := { around := state.switches }, groups := state.group :: state.groups }

/-- The innermost group ends. -/
def closeGroup? (state : State) : Option State :=
  match state.groups with
  | [] => none
  | group :: groups =>
    some ({ state with switches := state.group.around, group, groups }.push (state.group.height + 1))

/-- The name of a group: a letter or a low line, and then also digits, points and brackets. -/
def isGroupName (name : List Char) : Bool :=
  match name with
  | [] => false
  | c :: rest =>
    (c = '_' || isAlphabetic c) && rest.all fun c => c ∈ ['_', '.', '[', ']'] || isAlphanumeric c

/-- A group with a name begins. -/
def takeNamed (state : State) (chars : List Char) : Option (State × List Char) :=
  let name := chars.takeWhile (· ≠ '>')
  match chars.drop name.length with
  | [] => none
  | _ :: rest =>
    if isGroupName name && name ∉ state.names then
      some ({ state with names := name :: state.names }.openGroup state.switches, rest)
    else none

/-- Switches are set for a group, or for the rest of the group around them. -/
def takeSwitches (state : State) (chars : List Char) : Option (State × List Char) :=
  let letters := chars.takeWhile fun c => c ≠ ':' && c ≠ ')'
  match state.switches.change true [] letters, chars.drop letters.length with
  | some switches, ':' :: rest => some (state.openGroup switches, rest)
  | some switches, ')' :: rest =>
    if letters.isEmpty then none else some (state.setSwitches switches, rest)
  | _, _ => none

/-- Reads what follows an opening bracket: a name, switches, or nothing of the kind. -/
def takeGroup (state : State) (chars : List Char) : Option (State × List Char) :=
  match state.switches.skip chars with
  | '?' :: 'P' :: '<' :: rest => state.takeNamed rest
  | '?' :: '<' :: rest => state.takeNamed rest
  | '?' :: rest => state.takeSwitches rest
  | rest => some (state.openGroup state.switches, rest)

/-! ## Sets -/

/-- A set begins, perhaps the one of all other characters. -/
def takeSet (state : State) (chars : List Char) : Option (State × List Char) :=
  let opened := { state with sets := {} :: state.sets }
  match state.switches.skip chars with
  | '^' :: rest => if state.switches.unicode then some (opened, rest) else none
  | rest => some (opened, rest)

/-- The innermost set, which is given, ends; the others are around it. -/
def closeSet (state : State) (set : Brackets) (others : List Brackets) : State :=
  match others with
  | [] => { state with sets := [] }.push set.height
  | outer :: others => { state with sets := outer.push set.height :: others }

/-- The names of the classes of ASCII characters. -/
def classNames : List String :=
  ["alnum", "alpha", "ascii", "blank", "cntrl", "digit", "graph", "lower", "print", "punct", "space",
   "upper", "word", "xdigit"]

/-- What follows the name of a class with its colon and bracket. -/
def readClassName (chars : List Char) : Option (List Char) :=
  let name := chars.takeWhile (· ≠ ':')
  match chars.drop name.length with
  | ':' :: ']' :: rest => if String.ofList name ∈ classNames then some rest else none
  | _ => none

/-- The named class behind an opening bracket: whether it is negated, and what follows. -/
def namedClass? (chars : List Char) : Option (Bool × List Char) :=
  match chars with
  | ':' :: '^' :: rest => (readClassName rest).map fun rest => (true, rest)
  | ':' :: rest => (readClassName rest).map fun rest => (false, rest)
  | _ => none

/-- What a set can hold besides further sets. -/
inductive Member where
  /-- A character, which can be an end of a range. -/
  | char (c : Char)
  /-- A class of characters. -/
  | shorthand
deriving DecidableEq, Repr

/-- The member that a character stands for. -/
def Member.ofChar? (switches : Switches) (c : Char) : Option Member :=
  if switches.allowsInSet c then some (.char c) else none

/-- The member that an escape stands for. -/
def Member.ofEscape? (switches : Switches) : Escape → Option Member
  | .literal c | .byte c => Member.ofChar? switches c
  | .shorthand negated => if switches.unicode || negated then none else some .shorthand
  | .textEnd | .boundary => none

/-- Reads the member of a set that begins with `c`, and tells what follows. -/
def readMember (switches : Switches) (c : Char) (rest : List Char) : Option (Member × List Char) :=
  if c = '\\' then
    match rest with
    | [] => none
    | e :: rest =>
      match readEscape switches e rest with
      | none => none
      | some (escape, rest) => (Member.ofEscape? switches escape).map fun member => (member, rest)
  else (Member.ofChar? switches c).map fun member => (member, rest)

/-- Reads a range from `low` behind its minus sign, and tells what follows. -/
def readRangeEnd (switches : Switches) (low : Char) (chars : List Char) : Option (List Char) :=
  match switches.skip chars with
  | [] => none
  | c :: rest =>
    match readMember switches c rest with
    | some (.char high, after) => if low ≤ high then some after else none
    | _ => none

/-- Reads the member or the range that begins with `c`, and tells what follows. -/
def readRange (switches : Switches) (c : Char) (rest : List Char) : Option (List Char) :=
  match readMember switches c rest with
  | none => none
  | some (member, rest) =>
    match switches.skip rest with
    | '-' :: behind =>
      if switches.endsMember behind then some ('-' :: behind)
      else
        match member with
        | .char low => readRangeEnd switches low behind
        | .shorthand => none
    | rest => some rest

/-- Reads an element of the innermost set, which is given. Minus signs at its beginning stand for
themselves, and so does a closing bracket if it comes first. -/
def takeInSet (state : State) (set : Brackets) (others : List Brackets) (c : Char)
    (rest : List Char) : Option (State × List Char) :=
  let setTo (set : Brackets) := { state with sets := set :: others }
  if set.fresh && c = '-' then
    if state.switches.allowsInSet c then some (setTo set.pushSign, rest) else none
  else if set.fresh && set.members.isEmpty && c = ']' then
    if state.switches.allowsInSet c then some (setTo (set.push 0), rest) else none
  else if c = ']' then some (state.closeSet set others, rest)
  else if c = '[' then
    match namedClass? rest with
    | none => state.takeSet rest
    | some (negated, rest) =>
      if state.switches.allowsInSet 'a' && (state.switches.unicode || !negated) then
        some (setTo (set.push 0), rest)
      else none
  else if c ∈ ['&', '-', '~'] && rest.head? = some c then some (setTo set.operate, rest.tail)
  else (readRange state.switches c rest).map fun rest => (setTo (set.push 0), rest)

/-! ## Elements -/

/-- Reads what follows a backslash outside of sets. -/
def takeEscape (state : State) (chars : List Char) : Option (State × List Char) :=
  match chars with
  | [] => none
  | c :: rest =>
    match readEscape state.switches c rest with
    | none => none
    | some (escape, rest) =>
      if state.switches.allowsEscape escape then some (state.push 0, rest) else none

/-- Reads an operator of repetition. A question mark behind it makes it prefer fewer repetitions. -/
def takeRepetition (state : State) (chars : List Char) : Option (State × List Char) :=
  state.group.repeatLast?.map fun group =>
    ({ state with group }, if chars.head? = some '?' then chars.tail else chars)

/-- Reads the element that begins with `c` outside of sets. -/
def takeOutside (state : State) (c : Char) (rest : List Char) : Option (State × List Char) :=
  let single (allowed : Bool) := if allowed then some (state.push 0, rest) else none
  match c with
  | '(' => state.takeGroup rest
  | ')' => state.closeGroup?.map fun state => (state, rest)
  | '|' => some ({ state with group := state.group.branch }, rest)
  | '[' => state.takeSet rest
  | '?' | '*' | '+' => state.takeRepetition rest
  | '{' => none
  | '\\' => state.takeEscape rest
  | '.' => single state.switches.unicode
  | '^' | '$' => single true
  | _ => single state.switches.allows

/-- Reads the element that begins with `c`, and tells what follows. -/
def take (state : State) (c : Char) (rest : List Char) : Option (State × List Char) :=
  match state.sets with
  | [] => state.takeOutside c rest
  | set :: others => state.takeInSet set others c rest

/-- The expression can end here. -/
def isComplete (state : State) : Bool :=
  state.sets.isEmpty && state.groups.isEmpty && state.group.height ≤ heightLimit

/-! ## What follows an element -/

theorem suffix_of_drop_eq {chars rest : List Char} {count : Nat} (h : chars.drop count = rest) :
    rest <:+ chars :=
  h ▸ List.drop_suffix count chars

theorem takeNamed_suffix {state next : State} {chars rest : List Char}
    (h : state.takeNamed chars = some (next, rest)) : rest <:+ chars := by
  simp only [takeNamed] at h
  split at h
  · cases h
  · rename_i hdrop
    split at h <;> cases h
    exact (List.suffix_cons _ rest).trans (suffix_of_drop_eq hdrop)

theorem takeSwitches_suffix {state next : State} {chars rest : List Char}
    (h : state.takeSwitches chars = some (next, rest)) : rest <:+ chars := by
  simp only [takeSwitches] at h
  split at h
  · rename_i hdrop
    cases h
    exact (List.suffix_cons ':' rest).trans (suffix_of_drop_eq hdrop)
  · rename_i hdrop
    split at h <;> cases h
    exact (List.suffix_cons ')' rest).trans (suffix_of_drop_eq hdrop)
  · cases h

theorem takeGroup_suffix {state next : State} {chars rest : List Char}
    (h : state.takeGroup chars = some (next, rest)) : rest <:+ chars := by
  refine List.IsSuffix.trans ?_ (state.switches.skip_suffix chars)
  unfold takeGroup at h
  split at h
  · rename_i heq
    exact heq ▸ (takeNamed_suffix h).trans (List.suffix_append ['?', 'P', '<'] _)
  · rename_i heq
    exact heq ▸ (takeNamed_suffix h).trans (List.suffix_append ['?', '<'] _)
  · rename_i heq
    exact heq ▸ (takeSwitches_suffix h).trans (List.suffix_cons '?' _)
  · cases h
    exact List.suffix_rfl

theorem takeSet_suffix {state next : State} {chars rest : List Char}
    (h : state.takeSet chars = some (next, rest)) : rest <:+ chars := by
  refine List.IsSuffix.trans ?_ (state.switches.skip_suffix chars)
  unfold takeSet at h
  split at h
  · rename_i heq
    split at h <;> cases h
    exact heq ▸ List.suffix_cons '^' rest
  · cases h
    exact List.suffix_rfl

theorem readClassName_suffix {chars rest : List Char} (h : readClassName chars = some rest) :
    rest <:+ chars := by
  simp only [readClassName] at h
  split at h
  · rename_i hdrop
    split at h <;> cases h
    exact (List.suffix_append [':', ']'] rest).trans (suffix_of_drop_eq hdrop)
  · cases h

theorem namedClass?_suffix {chars rest : List Char} {negated : Bool}
    (h : namedClass? chars = some (negated, rest)) : rest <:+ chars := by
  unfold namedClass? at h
  split at h
  · obtain ⟨_, hname, heq⟩ := Option.map_eq_some_iff.1 h
    cases heq
    exact (readClassName_suffix hname).trans (List.suffix_append [':', '^'] _)
  · obtain ⟨_, hname, heq⟩ := Option.map_eq_some_iff.1 h
    cases heq
    exact (readClassName_suffix hname).trans (List.suffix_cons ':' _)
  · cases h

theorem readMember_suffix {switches : Switches} {c : Char} {rest after : List Char}
    {member : Member} (h : readMember switches c rest = some (member, after)) : after <:+ rest := by
  unfold readMember at h
  split at h
  · split at h
    · cases h
    · rename_i e behind
      split at h
      · cases h
      · rename_i hread
        obtain ⟨_, _, heq⟩ := Option.map_eq_some_iff.1 h
        cases heq
        exact (readEscape_suffix hread).trans (List.suffix_cons e behind)
  · obtain ⟨_, _, heq⟩ := Option.map_eq_some_iff.1 h
    cases heq
    exact List.suffix_rfl

theorem readRangeEnd_suffix {switches : Switches} {low : Char} {chars rest : List Char}
    (h : readRangeEnd switches low chars = some rest) : rest <:+ chars := by
  refine List.IsSuffix.trans ?_ (switches.skip_suffix chars)
  unfold readRangeEnd at h
  split at h
  · cases h
  · rename_i c behind heq
    split at h
    · rename_i hread
      split at h <;> cases h
      exact heq ▸ (readMember_suffix hread).trans (List.suffix_cons c behind)
    · cases h

theorem readRange_suffix {switches : Switches} {c : Char} {rest after : List Char}
    (h : readRange switches c rest = some after) : after <:+ rest := by
  unfold readRange at h
  split at h
  · cases h
  · rename_i member behind hread
    refine List.IsSuffix.trans ?_ ((switches.skip_suffix behind).trans (readMember_suffix hread))
    split at h
    · rename_i heq
      rw [heq]
      split at h
      · cases h
        exact List.suffix_rfl
      · split at h
        · exact (readRangeEnd_suffix h).trans (List.suffix_cons '-' _)
        · cases h
    · cases h
      exact List.suffix_rfl

theorem takeInSet_suffix {state next : State} {set : Brackets} {others : List Brackets} {c : Char}
    {rest after : List Char} (h : state.takeInSet set others c rest = some (next, after)) :
    after <:+ rest := by
  simp only [takeInSet] at h
  split at h
  · split at h <;> cases h
    exact List.suffix_rfl
  · split at h
    · split at h <;> cases h
      exact List.suffix_rfl
    · split at h
      · cases h
        exact List.suffix_rfl
      · split at h
        · split at h
          · exact takeSet_suffix h
          · rename_i hclass
            split at h <;> cases h
            exact namedClass?_suffix hclass
        · split at h
          · cases h
            exact List.tail_suffix rest
          · obtain ⟨_, hrange, heq⟩ := Option.map_eq_some_iff.1 h
            cases heq
            exact readRange_suffix hrange

theorem takeEscape_suffix {state next : State} {chars rest : List Char}
    (h : state.takeEscape chars = some (next, rest)) : rest <:+ chars := by
  simp only [takeEscape] at h
  split at h
  · cases h
  · rename_i c behind
    split at h
    · cases h
    · rename_i hread
      split at h <;> cases h
      exact (readEscape_suffix hread).trans (List.suffix_cons c behind)

theorem takeRepetition_suffix {state next : State} {chars rest : List Char}
    (h : state.takeRepetition chars = some (next, rest)) : rest <:+ chars := by
  obtain ⟨_, _, heq⟩ := Option.map_eq_some_iff.1 h
  cases heq
  split
  · exact List.tail_suffix chars
  · exact List.suffix_rfl

theorem takeOutside_suffix {state next : State} {c : Char} {rest after : List Char}
    (h : state.takeOutside c rest = some (next, after)) : after <:+ rest := by
  simp only [takeOutside] at h
  split at h
  · exact takeGroup_suffix h
  · obtain ⟨_, _, heq⟩ := Option.map_eq_some_iff.1 h
    cases heq
    exact List.suffix_rfl
  · cases h
    exact List.suffix_rfl
  · exact takeSet_suffix h
  · exact takeRepetition_suffix h
  · exact takeRepetition_suffix h
  · exact takeRepetition_suffix h
  · cases h
  · exact takeEscape_suffix h
  · split at h <;> cases h
    exact List.suffix_rfl
  · split at h <;> cases h
    exact List.suffix_rfl
  · split at h <;> cases h
    exact List.suffix_rfl
  · split at h <;> cases h
    exact List.suffix_rfl

theorem take_suffix {state next : State} {c : Char} {rest after : List Char}
    (h : state.take c rest = some (next, after)) : after <:+ rest := by
  unfold take at h
  split at h
  · exact takeOutside_suffix h
  · exact takeInSet_suffix h

end State

/-! ## The whole expression -/

/-- The rest of an expression is well formed. -/
def reads (state : State) (chars : List Char) : Bool :=
  match _hskip : state.switches.skip chars with
  | [] => state.isComplete
  | c :: rest =>
    match _htake : state.take c rest with
    | none => false
    | some (next, after) => reads next after
termination_by chars.length
decreasing_by
  have hle := (State.take_suffix _htake).length_le
  have hlt := (state.switches.skip_suffix chars).length_le
  rw [_hskip, List.length_cons] at hlt
  omega

/-- A text is a well-formed regular expression. -/
def isWellFormed (text : String) : Bool :=
  reads {} text.toList

end LinePatch.Pattern
