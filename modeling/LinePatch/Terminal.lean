/-!
# Texts for a terminal

Control characters that a terminal might obey are written out, so that a text can be shown without harm.
Line breaks and tabs stay as they are.

A terminal does not show every character that it is sent. An escape character begins a control
sequence, which the terminal obeys: some sequences end with their first letter, others go on to a bell
or to the character that ends a string. Other control characters move the cursor or do nothing.
Only line breaks, tabs and form feeds show as space; in the middle of a sequence they suspend it, and it
goes on at the next control character.

## Main definitions

* `Terminal.spelling?`: how a control character is written out
* `Terminal.escaped`: a text with its control characters written out
* `Terminal.isShown`: the characters that are shown outside of a sequence
* `Terminal.Mode`, `Terminal.Mode.next`: the sequences, and how they go on
* `Terminal.step`: what a terminal makes of a character
* `Terminal.visible`: the part of a text that is shown

## Main results

* `Terminal.escaped_eq_self`: a text without control characters stays as it is
-/

namespace LinePatch.Terminal

/-! ## Text that a terminal does not obey -/

/-- How a control character is written out. The characters that move on by a line or a tab are not. -/
def spelling? (c : Char) : Option String :=
  match c with
  | '\x07' => some "\\x07"
  | '\x08' => some "\\x08"
  | '\x0c' => some "\\x0c"
  | '\x1b' => some "\\x1b"
  | '\x7f' => some "\\x7f"
  | _ =>
    if 0x80 ≤ c.toNat && c.toNat ≤ 0x9F then
      some ("\\u\x7b" ++ String.ofList (Nat.toDigits 16 c.toNat) ++ "\x7d")
    else none

/-- A text with its control characters written out. -/
def escaped (text : String) : String :=
  String.join (text.toList.map fun c => (spelling? c).getD (String.singleton c))

theorem escaped_eq_self {text : String} (h : ∀ c ∈ text.toList, spelling? c = none) :
    escaped text = text := by
  have hmap : text.toList.map (fun c => (spelling? c).getD (String.singleton c)) =
      text.toList.map String.singleton :=
    List.map_congr_left fun c hc => by rw [h c hc]; rfl
  rw [escaped, hmap, ← String.toList_inj, String.toList_join, List.flatMap_map]
  simp

/-! ## What a terminal shows -/

/-- The character that begins a control sequence. -/
def escape : Char := '\x1b'

/-- The character that ends a command to the system. -/
def bell : Char := '\x07'

/-- The character breaks a line or moves on to a tab or a page. -/
def isSpacing (c : Char) : Bool :=
  c ∈ ['\t', '\n', '\x0c', '\x0d']

/-- The character is shown outside of a control sequence. All characters beyond ASCII are. -/
def isShown (c : Char) : Bool :=
  isSpacing c || (' ' ≤ c && c ≠ '\x7f')

/-- What a terminal takes the next character for. -/
inductive Mode where
  | text
  /-- The character behind an escape character, which says what sequence it begins. -/
  | escape
  /-- The end of a sequence of signs. -/
  | signs
  /-- A control sequence, which ends with a letter. -/
  | control
  /-- A string for a device, of which nothing has come yet. -/
  | device
  /-- The parameters of a string for a device. -/
  | deviceParameters
  /-- Signs behind the parameters of a string for a device. -/
  | deviceSigns
  /-- A command to the system, which ends with a bell. -/
  | command
  | string
deriving DecidableEq, Repr

/-- The character ends a string: the terminal looks for the byte of the string terminator, also
inside the encoding of another character. -/
def endsString (c : Char) : Bool :=
  0x9C ∈ (String.singleton c).toUTF8.data.toList

/-- What the character behind `c` is taken for. -/
def Mode.next (mode : Mode) (c : Char) : Mode :=
  if c = Terminal.escape then escape
  else if c = '\x18' || c = '\x1a' then text
  else
    match mode with
    | text => text
    | escape =>
      if ' ' ≤ c && c ≤ '/' then signs
      else if c = '[' then control
      else if c = 'P' then device
      else if c = ']' then command
      else if c ∈ ['X', '^', '_'] then string
      else if '0' ≤ c && c ≤ '~' then text
      else escape
    | signs => if '0' ≤ c && c ≤ '~' then text else signs
    | control => if '@' ≤ c && c ≤ '~' then text else control
    | device =>
      if ' ' ≤ c && c ≤ '/' then deviceSigns
      else if '0' ≤ c && c ≤ '?' then deviceParameters
      else if '@' ≤ c && c ≤ '~' then string
      else device
    | deviceParameters =>
      if ' ' ≤ c && c ≤ '/' then deviceSigns
      else if '<' ≤ c && c ≤ '~' then string
      else deviceParameters
    | deviceSigns => if '0' ≤ c && c ≤ '~' then string else deviceSigns
    | command => if c = bell then text else command
    | string => if endsString c then text else string

/-- The character shows. Some sequences let spacing through. -/
def Mode.shows (mode : Mode) (c : Char) : Bool :=
  match mode with
  | text => isShown c
  | escape | signs | control => isSpacing c
  | device | deviceParameters | deviceSigns | command | string => false

/-- A terminal between two characters. -/
structure State where
  /-- What the next character is taken for, unless the terminal is showing text. -/
  mode : Mode := .text
  /-- Text is shown; a sequence that has begun waits for the next control character. -/
  showing : Bool := true
deriving DecidableEq, Repr

/-- What a terminal makes of a character: its next state, and whether the character shows. -/
def step (state : State) (c : Char) : State × Bool :=
  if state.showing && isShown c then
    -- A character beyond ASCII makes the terminal forget the sequence that waits.
    ({ state with mode := if c < '\x80' then state.mode else .text }, true)
  else
    ({ mode := state.mode.next c, showing := state.mode.shows c }, state.mode.shows c)

/-- The characters that a terminal shows. -/
def visibleChars (state : State) : List Char → List Char
  | [] => []
  | c :: rest =>
    let (next, shown) := step state c
    if shown then c :: visibleChars next rest else visibleChars next rest

/-- The part of a text that a terminal shows. -/
def visible (text : String) : String :=
  String.ofList (visibleChars {} text.toList)

end LinePatch.Terminal
