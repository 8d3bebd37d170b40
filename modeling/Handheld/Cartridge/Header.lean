import Handheld.Text.Utf8

/-!
# Cartridge headers

A cartridge image describes itself in the bytes from 0x0104 to 0x014F: a logo, a
title, codes for its hardware and sizes, and a checksum over the bytes from the
title to the version.  An image that is too small to hold a header has the blank
one.
-/

namespace Handheld

structure Header where
  title? : Option String
  newLicensee : Word
  sgbFlag : Byte
  kind : Byte
  romSizeCode : Byte
  ramSizeCode : Byte
  destination : Byte
  oldLicensee : Byte
  version : Byte
  checksum : Byte
  globalChecksum : Word
  hasLogo : Bool
  hasChecksum : Bool
  deriving DecidableEq

namespace Header

def blank : Header :=
  ⟨none, 0, 0, 0, 0, 0, 0, 0, 0, 0, 0, false, false⟩

/-- Where the header ends. -/
def endOffset : Nat := 0x150

/-- The bitmap that a valid header shows at 0x0104. -/
def logo : List Byte :=
  [0xCE, 0xED, 0x66, 0x66, 0xCC, 0x0D, 0x00, 0x0B, 0x03, 0x73, 0x00, 0x83,
    0x00, 0x0C, 0x00, 0x0D, 0x00, 0x08, 0x11, 0x1F, 0x88, 0x89, 0x00, 0x0E,
    0xDC, 0xCC, 0x6E, 0xE6, 0xDD, 0xDD, 0xD9, 0x99, 0xBB, 0xBB, 0x67, 0x63,
    0x6E, 0x0E, 0xEC, 0xCC, 0xDD, 0xDC, 0x99, 0x9F, 0xBB, 0xB9, 0x33, 0x3E]

/-! ## Reading an image -/

/-- The bytes of an image from one offset up to another. -/
def slice (image : Array Byte) (first stop : Nat) : List Byte :=
  (image.extract first stop).toList

/-- The checksum that belongs to the image. -/
def computeChecksum (image : Array Byte) : Byte :=
  (slice image 0x134 0x14D).foldl (fun sum b => sum - b - 1) 0

/-- The title up to the first zero byte.  An empty one counts as none. -/
def readTitle? (image : Array Byte) : Option String :=
  match (slice image 0x134 0x144).takeWhile (· != 0) with
  | [] => none
  | bytes => some (String.ofList (Utf8.decodeLossy bytes))

def ofImage (image : Array Byte) : Header :=
  let byteAt (offset : Nat) : Byte := image.getD offset 0
  if image.size < endOffset then blank
  else
    { title? := readTitle? image
      newLicensee := Word.ofBytes (byteAt 0x144) (byteAt 0x145)
      sgbFlag := byteAt 0x146
      kind := byteAt 0x147
      romSizeCode := byteAt 0x148
      ramSizeCode := byteAt 0x149
      destination := byteAt 0x14A
      oldLicensee := byteAt 0x14B
      version := byteAt 0x14C
      checksum := byteAt 0x14D
      globalChecksum := Word.ofBytes (byteAt 0x14E) (byteAt 0x14F)
      hasLogo := slice image 0x104 0x134 == logo
      hasChecksum := computeChecksum image == byteAt 0x14D }

/-! ## What the codes mean -/

/-- Whether the machine would start the cartridge. -/
def isValid (header : Header) : Bool :=
  header.hasLogo && header.hasChecksum

/-- The size of a memory bank that the cartridge can switch. -/
def bankSize : Nat := 0x4000

def romSize (header : Header) : Nat :=
  match header.romSizeCode.toNat with
  | 0x52 => 72 * bankSize
  | 0x53 => 80 * bankSize
  | 0x54 => 96 * bankSize
  | code => 0x8000 <<< min code 8

def romBanks (header : Header) : Nat :=
  header.romSize / bankSize

def ramSize (header : Header) : Nat :=
  match header.ramSizeCode.toNat with
  | 1 => 2 * 1024
  | 2 => 8 * 1024
  | 3 => 32 * 1024
  | 4 => 128 * 1024
  | 5 => 64 * 1024
  | _ => 0

/-- Whether the cartridge switches banks, and so does not fit the fixed window. -/
def isBanked (header : Header) : Bool :=
  !(header.kind == 0x00 || header.kind == 0x08 || header.kind == 0x09)

/-- The hardware that a cartridge type stands for. -/
def kindName (kind : Byte) : String :=
  match kind.toNat with
  | 0x00 => "ROM ONLY"
  | 0x01 => "MBC1"
  | 0x02 => "MBC1+RAM"
  | 0x03 => "MBC1+RAM+BATTERY"
  | 0x05 => "MBC2"
  | 0x06 => "MBC2+BATTERY"
  | 0x08 => "ROM+RAM"
  | 0x09 => "ROM+RAM+BATTERY"
  | 0x0B => "MMM01"
  | 0x0C => "MMM01+RAM"
  | 0x0D => "MMM01+RAM+BATTERY"
  | 0x0F => "MBC3+TIMER+BATTERY"
  | 0x10 => "MBC3+TIMER+RAM+BATTERY"
  | 0x11 => "MBC3"
  | 0x12 => "MBC3+RAM"
  | 0x13 => "MBC3+RAM+BATTERY"
  | 0x19 => "MBC5"
  | 0x1A => "MBC5+RAM"
  | 0x1B => "MBC5+RAM+BATTERY"
  | 0x1C => "MBC5+RUMBLE"
  | 0x1D => "MBC5+RUMBLE+RAM"
  | 0x1E => "MBC5+RUMBLE+RAM+BATTERY"
  | 0xFC => "POCKET CAMERA"
  | 0xFD => "BANDAI TAMA5"
  | 0xFE => "HuC3"
  | 0xFF => "HuC1+RAM+BATTERY"
  | _ => "UNKNOWN"

end Header

end Handheld
