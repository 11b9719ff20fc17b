import BlockData.Tool.FileSystem

/-!
# Files in a directory

A file system that is given by names: a directory that stands alone, with the files and
directories below it. A path is followed from it segment by segment. Around it there are only
directories, and no path leads back from them.
-/

namespace BlockData.Tool

/-- What is stored under a name. -/
inductive Stored where
  | file (content : ByteArray)
  | directory

/-- Named files and directories. -/
structure Files where
  entries : List (String × Stored)

/-- Where a path leads. -/
inductive Place where
  /-- To the directory of the files, or to a name below it. -/
  | inside (segments : List String)
  /-- To a directory around it, where nothing else is stored. -/
  | outside
deriving DecidableEq, Repr

namespace Files

/-- What is stored under a name. -/
def stored? (files : Files) (name : String) : Option Stored :=
  (files.entries.find? fun entry => entry.1 == name).map Prod.snd

/-- The name that some segments make up. -/
def nameOf (segments : List String) : String :=
  "/".intercalate segments

/-- A directory, which is not read. -/
def directory : Target String :=
  .unreadable "Is a directory (os error 21)"

/-- What is at a place. A name with others below it is a directory. -/
def target (files : Files) : Place → Target String
  | .outside => directory
  | .inside [] => directory
  | .inside segments =>
      let name := nameOf segments
      match files.stored? name with
      | some (.file _) => .file name
      | some .directory => directory
      | none =>
          if files.entries.any fun entry => entry.1.startsWith (name ++ "/") then directory
          else .nothing

/-- Whether a directory is at a place. -/
def isDirectory (files : Files) (place : Place) : Bool :=
  match files.target place with
  | .unreadable _ => true
  | _ => false

/-- The place that a segment of a path leads to. Every segment, an empty one too,
leads on from a directory only. -/
def follow (files : Files) (place : Place) (segment : String) : Option Place :=
  if files.isDirectory place then
    match segment, place with
    | "", _ => some place
    | ".", _ => some place
    | "..", .inside (first :: rest) => some (.inside (first :: rest).dropLast)
    | "..", _ => some .outside
    | _, .inside segments => some (.inside (segments ++ [segment]))
    | _, .outside => none
  else none

/-- The place that a path leads to. The empty path leads nowhere. -/
def resolve (files : Files) (path : String) : Option Place :=
  if path = "" then none
  else (path.splitOn "/").foldlM files.follow <|
    if path.startsWith "/" then .outside else .inside []

/-- The files as a file system. All of them can be written. -/
def system (files : Files) : FileSystem String where
  locate path := (files.resolve path).elim .nothing files.target
  content name :=
    match files.stored? name with
    | some (.file content) => content
    | _ => .empty
  refusal _ := none

/-- The files with other contents. -/
def withContent (files : Files) (content : String → ByteArray) : Files :=
  ⟨files.entries.map fun entry =>
    match entry with
    | (name, .file _) => (name, .file (content name))
    | (name, .directory) => (name, .directory)⟩

end Files

end BlockData.Tool
