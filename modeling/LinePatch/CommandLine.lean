import LinePatch.Pass
import LinePatch.Terminal

/-!
# The command line

The program takes two operands, the input and the output, and a few flags, in any order. Arguments are
looked at from left to right, and the first flag that asks for something else, or the first argument
that cannot be right, decides. `--` makes operands of all that follows it.

An operand may not be empty. As an operand is complete only when something else follows it, this is
found when the next flag or operand is taken up, or at the end.

## Main definitions

* `Flag`, `Operand`: what an argument can stand for
* `Request`: what the command line asks for
* `ArgumentError`, `ArgumentError.message`: why it asks for nothing
* `CommandLine.parse`: the reading of the arguments
-/

namespace LinePatch

/-- The flags. -/
inductive Flag where
  | verbose
  | help
  | version
deriving DecidableEq, Repr

/-- The long spelling of a flag, without the dashes. -/
def Flag.name : Flag → String
  | .verbose => "verbose"
  | .help => "help"
  | .version => "version"

/-- The flag with a long spelling. -/
def Flag.ofName? : String → Option Flag
  | "verbose" => some .verbose
  | "help" => some .help
  | "version" => some .version
  | _ => none

/-- The flag with a short spelling. -/
def Flag.ofLetter? : Char → Option Flag
  | 'v' => some .verbose
  | 'h' => some .help
  | 'V' => some .version
  | _ => none

/-- The operands. -/
inductive Operand where
  | input
  | output
deriving DecidableEq, Repr

/-- How an operand is called in messages. -/
def Operand.name : Operand → String
  | .input => "INPUT"
  | .output => "OUTPUT"

/-- What the command line asks for. -/
inductive Request where
  | patch (route : Route) (verbose : Bool)
  | help
  | version
deriving DecidableEq, Repr

/-- Why a command line asks for nothing. -/
inductive ArgumentError where
  /-- A flag that is not known, or an operand too many. -/
  | unexpected (argument : String)
  /-- A value is attached to a flag. -/
  | unexpectedValue (value : String) (flag : Flag)
  /-- A flag is given again. -/
  | repeated (flag : Flag)
  | emptyOperand (operand : Operand)
  | missingOperands
deriving DecidableEq, Repr

/-- The text of the error, up to its first line break. Of an argument it holds what a terminal shows. The lines
behind it are not modelled: they name the operands that are missing, and show how the program is used. -/
def ArgumentError.message : ArgumentError → String
  | .unexpected argument => s!"unexpected argument '{Terminal.visible argument}' found"
  | .unexpectedValue value flag =>
    s!"unexpected value '{Terminal.visible value}' for '--{flag.name}' found; no more were expected"
  | .repeated flag => s!"the argument '--{flag.name}' cannot be used multiple times"
  | .emptyOperand operand => s!"a value is required for '<{operand.name}>' but none was supplied"
  | .missingOperands => "the following required arguments were not provided:"

/-- What has been taken up from the command line. -/
structure CommandLine where
  /-- The flag for more messages was given. -/
  verbose : Bool := false
  /-- The first operand. -/
  input? : Option String := none
  /-- The second operand. -/
  output? : Option String := none
  /-- Flags are not looked for any more. -/
  operandsOnly : Bool := false
deriving DecidableEq, Repr

namespace CommandLine

/-- Completes the operand taken up last, which may not be empty. -/
def settle (line : CommandLine) : Except ArgumentError CommandLine :=
  if line.output? = some "" then .error (.emptyOperand .output)
  else if line.output? = none && line.input? = some "" then .error (.emptyOperand .input)
  else .ok line

/-- Takes up an operand. -/
def addOperand (line : CommandLine) (argument : String) : Except ArgumentError CommandLine :=
  match line.input?, line.output? with
  | none, _ => .ok { line with input? := some argument }
  -- The second operand completes the first.
  | some _, none => line.settle.map fun line => { line with output? := some argument }
  | some _, some _ => .error (.unexpected argument)

/-- What is known after an argument: more of the line, or all that is asked for. -/
abbrev Taken := CommandLine ⊕ Request

/-- Takes up a flag. -/
def addFlag (line : CommandLine) (flag : Flag) : Except ArgumentError Taken :=
  match line.settle with
  | .error error => .error error
  | .ok line =>
    -- Help and version end the reading, whatever follows.
    match flag with
    | .help => .ok (.inr .help)
    | .version => .ok (.inr .version)
    | .verbose =>
      if line.verbose then .error (.repeated .verbose)
      else .ok (.inl { line with verbose := true })

/-- Takes up joined short flags. -/
def addLetters (line : CommandLine) : List Char → Except ArgumentError Taken
  | [] => .ok (.inl line)
  | letter :: letters =>
    match Flag.ofLetter? letter with
    | none => .error (.unexpected (String.ofList ['-', letter]))
    | some flag =>
      match line.addFlag flag with
      | .ok (.inl line) => line.addLetters letters
      | done => done

/-- Takes up a long flag, given without its dashes. -/
def addLong (line : CommandLine) (chars : List Char) : Except ArgumentError Taken :=
  let name := String.ofList (chars.takeWhile (· ≠ '='))
  match Flag.ofName? name, chars.dropWhile (· ≠ '=') with
  | none, _ => .error (.unexpected ("--" ++ name))
  | some flag, [] => line.addFlag flag
  | some flag, _ :: value => .error (.unexpectedValue (String.ofList value) flag)

/-- Takes up an argument. A dash alone is an operand. -/
def addArgument (line : CommandLine) (argument : String) : Except ArgumentError Taken :=
  if line.operandsOnly then (line.addOperand argument).map .inl
  else
    -- The longer dashes come first, so that a dash alone is left for the last case.
    match argument.toList with
    | ['-', '-'] => .ok (.inl { line with operandsOnly := true })
    | '-' :: '-' :: chars => line.addLong chars
    | '-' :: letter :: letters => line.addLetters (letter :: letters)
    | _ => (line.addOperand argument).map .inl

/-- What is asked for at the end of the line. -/
def finish (line : CommandLine) : Except ArgumentError Request :=
  match line.settle with
  | .error error => .error error
  | .ok line =>
    match line.input?, line.output? with
    | some input, some output => .ok (.patch { input, output } line.verbose)
    | _, _ => .error .missingOperands

/-- Reads the arguments that are left. -/
def readOn (line : CommandLine) : List String → Except ArgumentError Request
  | [] => line.finish
  | argument :: arguments =>
    match line.addArgument argument with
    | .error error => .error error
    | .ok (.inr request) => .ok request
    | .ok (.inl line) => line.readOn arguments

/-- The reading of the arguments of the program. -/
def parse (arguments : List String) : Except ArgumentError Request :=
  readOn {} arguments

end CommandLine

end LinePatch
