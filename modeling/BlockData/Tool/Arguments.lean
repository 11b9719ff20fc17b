import BlockData.Tool.Command

/-!
# Arguments

The command line of the tool: a command, a path, and options before or behind
it, with the value of an option in the same argument behind `=` or in the next
one. The arguments are read from left to right, and the first one that does not
fit ends the reading. The reader is part of the outer layer: it stands for a
library that reads command lines, and no theorem is about it.
-/

namespace BlockData.Tool

/-- How an argument looks. -/
inductive Shape where
  /-- Two hyphens alone: all that follows is a path. -/
  | escape
  /-- Two hyphens and a name, perhaps with a value. -/
  | long (name : String) (value : Option String)
  /-- A hyphen and letters. -/
  | short (letters : List Char)
  /-- Anything else. -/
  | word (text : String)
deriving DecidableEq, Repr

/-- Splits the name of an option from the value behind the first `=`. -/
def splitValue (text : List Char) : Shape :=
  let name := text.takeWhile (· != '=')
  match text.drop name.length with
  | [] => .long (String.ofList name) none
  | _ :: value => .long (String.ofList name) (some (String.ofList value))

/-- How an argument looks. A hyphen alone is a word. -/
def Shape.of (argument : String) : Shape :=
  match argument.toList with
  | ['-', '-'] => .escape
  | '-' :: '-' :: text => splitValue text
  | '-' :: letter :: letters => .short (letter :: letters)
  | _ => .word argument

/-- Why arguments are refused. -/
inductive UsageError where
  | noCommand
  | unknownCommand (name : String)
  | unexpectedArgument (argument : String)
  | missingValue (option : String)
  | unexpectedValue (option : String)
  | invalidValue (option value : String)
  | repeatedOption (option : String)
  | noPath
deriving DecidableEq, Repr

/-- The message of an error. -/
def UsageError.message : UsageError → String
  | .noCommand => "a subcommand is required"
  | .unknownCommand name => s!"unrecognized subcommand '{name}'"
  | .unexpectedArgument argument => s!"unexpected argument '{argument}' found"
  | .missingValue option => s!"a value is required for '--{option}' but none was supplied"
  | .unexpectedValue option => s!"unexpected value for '--{option}' found"
  | .invalidValue option value => s!"invalid value '{value}' for '--{option}'"
  | .repeatedOption option => s!"the argument '--{option}' cannot be used multiple times"
  | .noPath => "the required argument <PATH> was not provided"

/-- Why no command is run. -/
inductive Refusal where
  /-- The arguments do not fit. -/
  | usage (error : UsageError)
  /-- Help is asked for. -/
  | help
  /-- The version is asked for. -/
  | version
deriving DecidableEq, Repr

/-- The commands by what they do. -/
inductive Verb where
  | parse
  | check
  | tokens
  | reformat
deriving DecidableEq, Repr

/-- The command with a name. -/
def Verb.ofName? : String → Option Verb
  | "parse" => some .parse
  | "check" => some .check
  | "tokens" => some .tokens
  | "fmt" => some .reformat
  | _ => none

/-- The tree format with a name. -/
def Format.ofName? : String → Option Format
  | "sexpr" => some .outline
  | "json" => some .json
  | "source" => some .source
  | _ => none

/-- A width of 64 bits. A plus sign before the digits is allowed. -/
def widthOf? (text : String) : Option Nat :=
  let digits := match text.toList with
    | '+' :: digits => digits
    | digits => digits
  if digits ≠ [] ∧ digits.all Char.isDigit then
    let width := digitsValue 10 digits
    if width < UInt64.size then some width else none
  else none

/-- What was read of the arguments of a command. -/
structure Gathered where
  path : Option String := none
  format : Option Format := none
  indent : Option Nat := none
  all : Bool := false
  write : Bool := false

namespace Gathered

/-- A command has one path. -/
def addPath (gathered : Gathered) (path : String) : Except Refusal Gathered :=
  if gathered.path.isSome then .error (.usage (.unexpectedArgument path))
  else .ok { gathered with path := some path }

/-- Letters behind one hyphen: each `v` asks for more log lines, which leaves the command as it
is, and `h` asks for help. -/
def addLetters (gathered : Gathered) : List Char → Except Refusal Gathered
  | [] => .ok gathered
  | 'v' :: letters => addLetters gathered letters
  | 'h' :: _ => .error .help
  | letter :: _ => .error (.usage (.unexpectedArgument (String.ofList ['-', letter])))

/-- Sets the option of a command that takes a value. -/
def addValue (gathered : Gathered) (verb : Verb) (option value : String) :
    Except Refusal Gathered :=
  match verb, option with
  | .parse, "format" =>
      if gathered.format.isSome then .error (.usage (.repeatedOption option))
      else match Format.ofName? value with
        | some format => .ok { gathered with format := some format }
        | none => .error (.usage (.invalidValue option value))
  | .reformat, "indent" =>
      if gathered.indent.isSome then .error (.usage (.repeatedOption option))
      else match widthOf? value with
        | some width => .ok { gathered with indent := some width }
        | none => .error (.usage (.invalidValue option value))
  | _, _ => .error (.usage (.unexpectedArgument ("--" ++ option)))

/-- Sets an option that takes no value. -/
def addFlag (gathered : Gathered) (verb : Verb) (option : String) : Except Refusal Gathered :=
  match verb, option with
  | _, "verbose" => .ok gathered
  | _, "help" => .error .help
  | .tokens, "all" =>
      if gathered.all then .error (.usage (.repeatedOption option))
      else .ok { gathered with all := true }
  | .reformat, "write" =>
      if gathered.write then .error (.usage (.repeatedOption option))
      else .ok { gathered with write := true }
  | _, _ => .error (.usage (.unexpectedArgument ("--" ++ option)))

/-- The command that the arguments describe. -/
def command (gathered : Gathered) (verb : Verb) : Except Refusal Command :=
  match gathered.path with
  | none => .error (.usage .noPath)
  | some path => .ok <| match verb with
      | .parse => .parse path (gathered.format.getD .outline)
      | .check => .check path
      | .tokens => .tokens path gathered.all
      | .reformat => .reformat path (gathered.indent.getD defaultIndent) gathered.write

end Gathered

/-- Whether an option of a command takes a value. -/
def takesValue (verb : Verb) (option : String) : Bool :=
  match verb, option with
  | .parse, "format" => true
  | .reformat, "indent" => true
  | _, _ => false

/-- What the next argument is taken for. -/
inductive Expecting where
  /-- An option or the path. -/
  | anything
  /-- The value of an option. -/
  | valueOf (option : String)
  /-- The path, however it looks. -/
  | path
deriving DecidableEq, Repr

/-- Reads one argument behind the name of a command. -/
def readArgument (verb : Verb) (reading : Expecting × Gathered) (argument : String) :
    Except Refusal (Expecting × Gathered) :=
  match reading, Shape.of argument with
  | (.path, gathered), _ => return (.path, ← gathered.addPath argument)
  | (.valueOf option, gathered), .word text =>
      return (.anything, ← gathered.addValue verb option text)
  | (.valueOf option, _), _ => .error (.usage (.missingValue option))
  | (.anything, gathered), .escape => return (.path, gathered)
  | (.anything, gathered), .word text => return (.anything, ← gathered.addPath text)
  | (.anything, gathered), .short letters => return (.anything, ← gathered.addLetters letters)
  | (.anything, gathered), .long option (some value) =>
      if takesValue verb option then return (.anything, ← gathered.addValue verb option value)
      else .error (.usage (.unexpectedValue option))
  | (.anything, gathered), .long option none =>
      if takesValue verb option then return (.valueOf option, gathered)
      else return (.anything, ← gathered.addFlag verb option)

/-- Reads the arguments behind the name of a command. -/
def gather (verb : Verb) (arguments : List String) : Except Refusal Gathered := do
  match ← arguments.foldlM (readArgument verb) (.anything, {}) with
  | (.valueOf option, _) => .error (.usage (.missingValue option))
  | (_, gathered) => return gathered

/-- Letters behind one hyphen before the command. -/
def leadingLetters : List Char → Except Refusal Unit
  | [] => .ok ()
  | 'v' :: letters => leadingLetters letters
  | 'h' :: _ => .error .help
  | 'V' :: _ => .error .version
  | letter :: _ => .error (.usage (.unexpectedArgument (String.ofList ['-', letter])))

/-- The topics of a request for help. -/
def helpTopics : List String → Refusal
  | [] => .help
  | [topic] =>
      if topic = "help" ∨ (Verb.ofName? topic).isSome then .help
      else .usage (.unknownCommand topic)
  | topic :: next :: _ =>
      if topic = "help" ∨ (Verb.ofName? topic).isSome then .usage (.unknownCommand next)
      else .usage (.unknownCommand topic)

/-- Reads the arguments of the tool. -/
def readArguments : List String → Except Refusal Command
  | [] => .error (.usage .noCommand)
  | argument :: rest =>
      match Shape.of argument with
      | .escape => .error (.usage (rest.head?.elim .noCommand .unexpectedArgument))
      | .long "verbose" none => readArguments rest
      | .long "help" none => .error .help
      | .long "version" none => .error .version
      | .long option _ => .error (.usage (.unexpectedArgument ("--" ++ option)))
      | .short letters => do
          leadingLetters letters
          readArguments rest
      | .word "help" => .error (helpTopics rest)
      | .word name =>
          match Verb.ofName? name with
          | none => .error (.usage (.unknownCommand name))
          | some verb => do (← gather verb rest).command verb

end BlockData.Tool
