/-!
# The file system

The tool reads the file at a path and may write it again. What a path leads to is the affair of
the file system: working directory, links and permissions are all in `FileSystem.locate`, of
which nothing is asked. A run changes what files hold, and never what a path leads to.
-/

namespace BlockData.Tool

/-- What reading a path gives. -/
inductive Source where
  | missing
  | unreadable (reason : String)
  | text (content : String)
deriving DecidableEq

/-- The text of some bytes, which must be UTF-8. -/
def Source.ofBytes (content : ByteArray) : Source :=
  match String.fromUTF8? content with
  | some decoded => .text decoded
  | none => .unreadable "stream did not contain valid UTF-8"

/-- What a run asks of the place where files are stored: to read a path, and to store a text at
one, which may fail for a reason. -/
structure Storage (m : Type → Type) where
  read (path : String) : m Source
  write (path text : String) : m (Except String Unit)

/-- What a path leads to. -/
inductive Target (File : Type) where
  /-- To nothing, as far as can be seen. -/
  | nothing
  /-- To something that is not read, such as a directory. -/
  | unreadable (reason : String)
  /-- To a file. Other paths may lead to the same one. -/
  | file (file : File)

/-- Files and the paths to them. -/
structure FileSystem (File : Type) where
  /-- What a path leads to. -/
  locate : String → Target File
  /-- The bytes of a file. -/
  content : File → ByteArray
  /-- Why a file cannot be written, if it cannot. -/
  refusal : File → Option String

namespace FileSystem

variable {File : Type}

/-- Reads a path. -/
def read (system : FileSystem File) (path : String) : Source :=
  match system.locate path with
  | .nothing => .missing
  | .unreadable reason => .unreadable reason
  | .file file => .ofBytes (system.content file)

variable [DecidableEq File]

/-- The files with a text stored in one of them. -/
def store (system : FileSystem File) (file : File) (text : String) : FileSystem File :=
  { system with
    content := fun other => if other = file then text.toUTF8 else system.content other }

/-- Stores a text at a path. A file takes all of it or nothing. Only what leads to a file matters:
the tool stores a text where it has read one, so this is never asked of a path without a file,
at which a file would have to be made. -/
def write (system : FileSystem File) (path text : String) : Except String (FileSystem File) :=
  match system.locate path with
  | .nothing => .error "No such file or directory (os error 2)"
  | .unreadable reason => .error reason
  | .file file =>
      match system.refusal file with
      | some reason => .error reason
      | none => .ok (system.store file text)

/-- The files as what a run works on. -/
def storage : Storage (StateM (FileSystem File)) where
  read path := return (← get).read path
  write path text := do
    match (← get).write path text with
    | .error reason => return .error reason
    | .ok after =>
        set after
        return .ok ()

end FileSystem

end BlockData.Tool
