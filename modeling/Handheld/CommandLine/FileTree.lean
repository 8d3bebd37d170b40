import Handheld.Text.Split
import Handheld.Word

/-!
# A tree of files

The files that a command can reach, by their paths.  A path is a sequence of names with
slashes between them.  It is walked name by name, from the root if it starts with a
slash, and otherwise from the directory that the command is run in.  A single dot and an
empty name stay where they are, two dots lead to the directory above, and the root is
above itself.  Whatever is walked on from has to be a directory.
-/

namespace Handheld.CommandLine

/-- Why a file cannot be read or created. -/
inductive FileError where
  | notFound
  | notADirectory
  | isADirectory
  | nameTooLong
  deriving DecidableEq

def FileError.message : FileError → String
  | notFound => "No such file or directory (os error 2)"
  | notADirectory => "Not a directory (os error 20)"
  | isADirectory => "Is a directory (os error 21)"
  | nameTooLong => "File name too long (os error 36)"

abbrev Name := List Char

/-- The names that lead from the root to something. -/
abbrev Place := List Name

/-- Where a device leaves what is written to it. -/
inductive Device where
  /-- Nowhere. -/
  | null
  | output
  | diagnostics
  deriving DecidableEq

inductive Entry where
  | directory
  | file (content : Array Byte)
  | device (d : Device)
  deriving DecidableEq

structure FileTree where
  /-- What there is, but for the root. -/
  entries : List (Place × Entry)
  /-- The directory that the command is run in. -/
  home : Place
  deriving DecidableEq

/-- What a text can be written to. -/
inductive Sink where
  | file (place : Place)
  | device (d : Device)
  deriving DecidableEq

namespace FileTree

/-! ## What there is -/

/-- What is at a place, if anything is. -/
def at? (tree : FileTree) (place : Place) : Option Entry :=
  if place = [] then some .directory
  else (tree.entries.find? (·.1 = place)).map (·.2)

/-- Puts something in a place, also of what is there already. -/
def put (tree : FileTree) (place : Place) (entry : Entry) : FileTree :=
  { tree with entries := (place, entry) :: tree.entries.filter (·.1 ≠ place) }

/-! ## Walking -/

/-- Whether a name is longer than names can be. -/
def isTooLong (name : Name) : Bool :=
  255 < (String.ofList name).utf8ByteSize

/-- Whether a path is longer than paths can be. -/
def isPathTooLong (path : String) : Bool :=
  4096 ≤ path.utf8ByteSize

/-- Goes from a place to the next name.  Nothing has to be there yet. -/
def walk (tree : FileTree) (place : Place) (name : Name) : Except FileError Place :=
  match tree.at? place with
  | none => .error .notFound
  | some .directory =>
    if name = [] || name = ['.'] then .ok place
    else if name = ['.', '.'] then .ok place.dropLast
    else if isTooLong name then .error .nameTooLong
    else .ok (place ++ [name])
  | some _ => .error .notADirectory

/-- Where a path starts. -/
def origin (tree : FileTree) (path : String) : Place :=
  if path.toList.head? = some '/' then [] else tree.home

def names (path : String) : List Name :=
  Text.splitAll '/' path.toList

/-! ## Reading and writing -/

/-- The content of a file.  A device has none. -/
def read (tree : FileTree) (path : String) : Except FileError (Array Byte) := do
  if isPathTooLong path then throw .nameTooLong
  if path = "" then throw .notFound
  let place ← (names path).foldlM tree.walk (tree.origin path)
  match tree.at? place with
  | none => throw .notFound
  | some .directory => throw .isADirectory
  | some (.file content) => return content
  | some (.device _) => return #[]

/-- Creates an empty file, or empties the one that is there, and opens it for writing.
A path with a slash at its end is one of a directory, whether there is one or not. -/
def create (tree : FileTree) (path : String) : Except FileError (FileTree × Sink) := do
  if isPathTooLong path then throw .nameTooLong
  if path = "" then throw .notFound
  match (names path).reverse.dropWhile (· = []) with
  | [] => throw .isADirectory
  | last :: above =>
    let place ← (above.reverse ++ [[]]).foldlM tree.walk (tree.origin path)
    if last = ['.'] || last = ['.', '.'] || (names path).getLast? = some [] then
      throw .isADirectory
    let place ← tree.walk place last
    match tree.at? place with
    | some .directory => throw .isADirectory
    | some (.device d) => return (tree, .device d)
    | _ => return (tree.put place (.file #[]), .file place)

/-- Writes a text to an opened file.  Devices leave it elsewhere. -/
def write (tree : FileTree) (text : String) : Sink → FileTree
  | .file place => tree.put place (.file text.toUTF8.data)
  | .device _ => tree

end FileTree

end Handheld.CommandLine
