import BlockData.Node.Canonical
import BlockData.Node.Outline
import BlockData.Node.View
import BlockData.Tool.FileSystem
import BlockData.Value.Inspection

/-!
# Commands

What the tool does with a text: print its tree, check it, list its tokens, or
put it into canonical form. A command is a function of what was read; it answers
with an exit code, what goes to the two output streams, and perhaps the text
that is to be stored in place of the one read. A run reads the file of a command
and stores that text. How a JSON value is printed is left to the printer in use,
which is a parameter.
-/

namespace BlockData.Tool

/-- How a tree is printed. -/
inductive Format where
  | outline
  | json
  | source
deriving DecidableEq, Repr

/-- What the tool is asked to do with the file at a path. How much it logs is no part of it. -/
inductive Command where
  /-- Print the tree of the text. -/
  | parse (path : String) (format : Format)
  /-- Find the first error of the text. -/
  | check (path : String)
  /-- List the tokens of the text, with those that have no meaning if `all`. -/
  | tokens (path : String) (all : Bool)
  /-- Print the canonical text, or store it if `write`. -/
  | reformat (path : String) (indent : Nat) (write : Bool)
deriving DecidableEq, Repr

/-- What a run of the tool leaves. -/
structure Outcome where
  code : Nat := 0
  stdout : String := ""
  /-- What the tool writes to the error stream itself. The lines of the log, which go to the same
  stream when they are asked for, are not part of it. -/
  stderr : String := ""
  /-- The text to be stored in place of the one that was read. -/
  written : Option String := none
deriving DecidableEq

/-- The outcome of a run that fails. -/
def Outcome.failure (message : String) : Outcome :=
  { code := 1, stderr := "Error: " ++ message ++ "\n" }

/-- A token on a line of its own: where it is, its kind, and its value. -/
def tokenLine (token : Token) : String :=
  let place := toString token.span.line ++ ":" ++ toString token.span.column
  let column := String.ofList (List.leftpad 8 ' ' place.toList)
  match token.value with
  | none => column ++ "  " ++ token.kind.name ++ "\n"
  | some value =>
      let kind := String.ofList (List.rightpad 10 ' ' token.kind.name.toList)
      column ++ "  " ++ kind ++ " " ++ value.inspect ++ "\n"

/-- The tokens up to and including the first one that ends a listing. -/
def throughEnd : List Token → List Token
  | [] => []
  | token :: rest =>
      if token.kind = .eof ∨ token.kind = .fail then [token] else token :: throughEnd rest

/-- The listing of the tokens of a text. It ends at the first malformed one, and
the run then fails. -/
def listTokens (all : Bool) (source : String) : Outcome :=
  let tokens := (Cursor.ofString source).tokens.filter fun token =>
    all || !token.kind.isTrivia
  let listed := throughEnd tokens
  { code := if listed.any Token.isFail then 1 else 0
    stdout := listed.foldl (fun written token => written ++ tokenLine token) "" }

variable (printJson : Json → Except String String)

/-- The text of a tree in a format, or the message of a printer that fails. -/
def Format.render (format : Format) (tree : Node) : Except String String :=
  match format with
  | .outline => .ok tree.outline
  | .json => (printJson (View.ofNode tree).toJson).map (· ++ "\n")
  | .source => (tree.canonical defaultIndent).mapError PrintError.display

namespace Command

/-- The path of the file that a command works on. -/
def path : Command → String
  | .parse path _ => path
  | .check path => path
  | .tokens path _ => path
  | .reformat path _ _ => path

/-- A text as a tree, for a command that needs one. -/
def withTree (path source : String) (use : Node → Outcome) : Outcome :=
  match BlockData.parse source with
  | .error error => .failure (path ++ ": " ++ error.display)
  | .ok tree => use tree

/-- A printed tree, for a command that needs one. -/
def withText (printed : Except String String) (use : String → Outcome) : Outcome :=
  match printed with
  | .error message => .failure message
  | .ok text => use text

/-- What a command does with a text. -/
def apply (command : Command) (source : String) : Outcome :=
  match command with
  | .parse path format =>
      withTree path source fun tree =>
        withText (format.render printJson tree) fun text => { stdout := text }
  | .check path => withTree path source fun _ => { stderr := "OK: " ++ path ++ "\n" }
  | .tokens _ all => listTokens all source
  | .reformat path indent write =>
      withTree path source fun tree =>
        withText ((tree.canonical indent).mapError PrintError.display) fun text =>
          if write then { stderr := "Formatted: " ++ path ++ "\n", written := some text }
          else { stdout := text }

/-- What a command does with what was read. -/
def execute (command : Command) (source : Source) : Outcome :=
  match source with
  | .missing => .failure ("file not found: " ++ command.path)
  | .unreadable reason => .failure ("reading " ++ command.path ++ ": " ++ reason)
  | .text content => command.apply printJson content

/-- A run of the tool: it reads the file of a command, and stores the text that the command
leaves in place of the one read, if it leaves one. -/
def run {m : Type → Type} [Monad m] (storage : Storage m) (command : Command) : m Outcome := do
  let outcome := command.execute printJson (← storage.read command.path)
  match outcome.written with
  | none => return outcome
  | some text =>
      match ← storage.write command.path text with
      | .ok () => return outcome
      | .error reason => return .failure ("writing " ++ command.path ++ ": " ++ reason)

/-- A run over some files: its outcome, and the files behind it. -/
def runOn {File : Type} [DecidableEq File] (system : FileSystem File) (command : Command) :
    Outcome × FileSystem File :=
  Id.run <| (command.run printJson FileSystem.storage).run system

end Command

end BlockData.Tool
