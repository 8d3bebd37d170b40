import Handheld.Cartridge.Header
import Handheld.Text.Hex

/-!
# Cartridges

A cartridge is an image that fills the fixed window of the address space.  No banks
are switched, so the machine sees the window and nothing beyond it.  A file that is no
cartridge, or cannot be read, is refused for a reason that has a message.
-/

namespace Handheld

/-! ## Why a cartridge cannot be loaded -/

inductive LoadError where
  /-- The file could not be read, for the reason given. -/
  | unreadable (reason : String)
  | missingExtension
  | invalidExtension (expected found : String)
  /-- The image does not fill the fixed window. -/
  | tooShort (expected found : Nat)
  deriving DecidableEq

namespace LoadError

def message : LoadError → String
  | unreadable reason => "I/O error: " ++ reason
  | missingExtension => "ROM file has no extension"
  | invalidExtension expected found =>
    "Invalid ROM file extension: expected '" ++ expected ++ "', found '" ++ found ++ "'"
  | tooShort expected found =>
    "ROM image too short: expected at least 0x" ++ Hex.numberText expected ++
      " bytes, found 0x" ++ Hex.numberText found

/-- The message of what caused the error. -/
def cause? : LoadError → Option String
  | unreadable reason => some reason
  | _ => none

end LoadError

/-! ## What fills the window -/

structure Cartridge where
  image : Array Byte
  fills : 0x8000 ≤ image.size

namespace Cartridge

/-- Size of the part of the address space that a cartridge fills. -/
def windowSize : Nat := 0x8000

def ofImage (image : Array Byte) : Except LoadError Cartridge :=
  if h : 0x8000 ≤ image.size then .ok ⟨image, h⟩
  else .error (.tooShort windowSize image.size)

theorem ofImage_of_le {image : Array Byte} (h : 0x8000 ≤ image.size) :
    ofImage image = .ok ⟨image, h⟩ :=
  dif_pos h

def header (cartridge : Cartridge) : Header :=
  .ofImage cartridge.image

/-- The bytes that the machine sees. -/
def window (cartridge : Cartridge) : Array Byte :=
  cartridge.image.extract 0 windowSize

theorem size_window (cartridge : Cartridge) : cartridge.window.size = windowSize := by
  have := cartridge.fills
  simp only [window, Array.size_extract, windowSize]
  omega

end Cartridge

end Handheld
