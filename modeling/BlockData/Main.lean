import BlockData.Tool.Run

/-!
# The command line program

Executes the command that the arguments name on the files of the machine, and reports the
outcome. All decisions are made by `BlockData.Tool`.
-/

namespace BlockData.Tool

/-- What an error of the file system says. -/
def systemReason (error : IO.Error) : String :=
  match error with
  | .permissionDenied _ code details => s!"{details} (os error {code})"
  | .inappropriateType _ code details => s!"{details} (os error {code})"
  | other => toString other

/-- Reads a file. -/
def readSource (path : String) : IO Source := do
  try
    return .ofBytes (← IO.FS.readBinFile path)
  catch error =>
    match error with
    | .noFileOrDirectory .. => return .missing
    | other => return .unreadable (systemReason other)

/-- Stores a text in a file. -/
def writeText (path text : String) : IO (Except String Unit) := do
  try
    IO.FS.writeFile path text
    return .ok ()
  catch error => return .error (systemReason error)

/-- The files of the machine. -/
def machine : Storage IO where
  read := readSource
  write := writeText

/-- Reports an outcome. -/
def report (outcome : Outcome) : IO UInt32 := do
  (← IO.getStdout).putStr outcome.stdout
  (← IO.getStderr).putStr outcome.stderr
  return outcome.code.toUInt32

end BlockData.Tool

open BlockData.Tool in
/-- Runs the tool. -/
def main (arguments : List String) : IO UInt32 := do
  match readArguments arguments with
  | .error refusal => report refusal.outcome
  | .ok command => report (← command.run prettyJson machine)
