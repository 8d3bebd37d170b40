import Handheld.Cartridge.Basic
import Handheld.Text.Split
import Handheld.Text.Utf8

/-!
# Names of cartridge files

A path is a sequence of bytes, not necessarily text.  Its last component, empty
ones and single dots aside, names the file; what follows the last dot of that name
is the extension, unless nothing precedes the dot.  A cartridge file has the
extension `gb` or `gbc`, in letters of either case.
-/

namespace Handheld.FileName

abbrev Path := List Byte

def slash : Byte := 0x2F

def dot : Byte := 0x2E

/-- The components of a path: the parts that lead anywhere. -/
def components (path : Path) : List (List Byte) :=
  (Text.splitAll slash path).filter fun part => part != [] && part != [dot]

/-- The name of the file, if the path does not end in a parent directory. -/
def fileName? (path : Path) : Option (List Byte) :=
  match (components path).getLast? with
  | some name => if name = [dot, dot] then none else some name
  | none => none

/-- What precedes and what follows the last dot of a name. -/
def splitLastDot? (name : List Byte) : Option (List Byte × List Byte) :=
  let reversed := name.reverse
  match reversed.dropWhile (· != dot) with
  | [] => none
  | _ :: stem => some (stem.reverse, (reversed.takeWhile (· != dot)).reverse)

def extension? (path : Path) : Option (List Byte) :=
  match (fileName? path).bind splitLastDot? with
  | some ([], _) => none
  | some (_, extension) => some extension
  | none => none

/-- Accepts the names of cartridge files. -/
def validate (path : Path) : Except LoadError Unit :=
  match (extension? path).bind Utf8.decode? with
  | none => .error .missingExtension
  | some extension =>
    let lowered := extension.map Char.toLower
    if lowered = ['g', 'b'] ∨ lowered = ['g', 'b', 'c'] then .ok ()
    else .error (.invalidExtension ".gb or .gbc" (String.ofList extension))

end Handheld.FileName
