import Handheld.Flags

/-!
# The arithmetic and logic unit

Each operation yields a value and a proposal for the four flags.  Which proposals
take effect is the instruction's affair.  Carries and borrows are stated on natural
numbers, where nothing wraps around: an addition satisfies
`a + b + carry = value + 256 * c` and a subtraction
`a + 256 * c = value + b + carry` (`toNat_add`, `toNat_sub`).
-/

namespace Handheld

/-- A byte and the flags that its computation proposes. -/
structure AluResult where
  value : Byte
  flags : Flags
  deriving DecidableEq

/-- A word and the two carries of its computation. -/
structure AluWordResult where
  value : Word
  h : Bool
  c : Bool
  deriving DecidableEq

namespace Alu

/-! ## Addition and subtraction -/

def add (a b : Byte) (carry : Bool) : AluResult :=
  let sum := a.toNat + b.toNat + carry.toNat
  let value := UInt8.ofNat sum
  { value
    flags :=
      { z := value == 0
        n := false
        h := decide (15 < a.toNat % 16 + b.toNat % 16 + carry.toNat)
        c := decide (255 < sum) } }

def sub (a b : Byte) (carry : Bool) : AluResult :=
  let taken := b.toNat + carry.toNat
  let value := UInt8.ofNat (a.toNat + 512 - taken)
  { value
    flags :=
      { z := value == 0
        n := true
        h := decide (a.toNat % 16 < b.toNat % 16 + carry.toNat)
        c := decide (a.toNat < taken) } }

/-- Adds one.  The carry is proposed clear. -/
def inc (a : Byte) : AluResult :=
  let value := a + 1
  { value
    flags := { z := value == 0, n := false, h := a.toNat % 16 == 15, c := false } }

/-- Subtracts one.  The carry is proposed clear. -/
def dec (a : Byte) : AluResult :=
  let value := a - 1
  { value
    flags := { z := value == 0, n := true, h := a.toNat % 16 == 0, c := false } }

/-! ## Logic -/

/-- A value whose proposed flags are all clear. -/
def unflagged (value : Byte) : AluResult :=
  ⟨value, .clear⟩

/-- A value that proposes Z and H, and clears the other flags. -/
def logic (value : Byte) (h : Bool) : AluResult :=
  { value, flags := { z := value == 0, n := false, h, c := false } }

def and (a b : Byte) : AluResult :=
  logic (a &&& b) true

def or (a b : Byte) : AluResult :=
  logic (a ||| b) false

def xor (a b : Byte) : AluResult :=
  logic (a ^^^ b) false

/-- Proposes Z where the given bit is clear.  The value stays as it is. -/
def bit (a : Byte) (index : Nat) : AluResult :=
  { value := a
    flags := { z := !a.toNat.testBit index, n := false, h := true, c := false } }

/-! ## Rotations and shifts -/

/-- A value that proposes Z and C, and clears the other flags. -/
def shifted (value : Nat) (c : Bool) : AluResult :=
  let value := UInt8.ofNat value
  { value, flags := { z := value == 0, n := false, h := false, c } }

def topBit (a : Byte) : Bool :=
  decide (128 ≤ a.toNat)

def bottomBit (a : Byte) : Bool :=
  a.toNat % 2 == 1

/-- Rotates left, the top bit going to the bottom and to the carry. -/
def rlc (a : Byte) : AluResult :=
  shifted (a.toNat * 2 + a.toNat / 128) (topBit a)

/-- Rotates right, the bottom bit going to the top and to the carry. -/
def rrc (a : Byte) : AluResult :=
  shifted (a.toNat / 2 + a.toNat % 2 * 128) (bottomBit a)

/-- Rotates left through the carry. -/
def rl (a : Byte) (carry : Bool) : AluResult :=
  shifted (a.toNat * 2 + carry.toNat) (topBit a)

/-- Rotates right through the carry. -/
def rr (a : Byte) (carry : Bool) : AluResult :=
  shifted (a.toNat / 2 + carry.toNat * 128) (bottomBit a)

/-- Shifts left, a clear bit coming in. -/
def sla (a : Byte) : AluResult :=
  shifted (a.toNat * 2) (topBit a)

/-- Shifts right and keeps the top bit. -/
def sra (a : Byte) : AluResult :=
  shifted (a.toNat / 2 + a.toNat / 128 * 128) (bottomBit a)

/-- Shifts right, a clear bit coming in. -/
def srl (a : Byte) : AluResult :=
  shifted (a.toNat / 2) (bottomBit a)

/-- Exchanges the two halves of the byte. -/
def swap (a : Byte) : AluResult :=
  shifted (a.toNat % 16 * 16 + a.toNat / 16) false

/-! ## Decimal adjustment -/

/-- Brings a sum (`n` clear) or a difference (`n` set) of two packed decimal bytes
back into packed decimal form, given the carries of that operation. -/
def daa (a : Byte) (n h c : Bool) : AluResult :=
  let c' := c || (!n && decide (0x99 < a.toNat))
  let h' := h || (!n && decide (9 < a.toNat % 16))
  let adjust : Byte := (if c' then 0x60 else 0) + (if h' then 0x06 else 0)
  let value := if n then a - adjust else a + adjust
  { value, flags := { z := value == 0, n, h := false, c := c' } }

/-! ## Words -/

/-- Adds two words, with the carries out of bits 11 and 15. -/
def addWord (a b : Word) : AluWordResult :=
  { value := a + b
    h := decide (0xFFF < a.toNat % 0x1000 + b.toNat % 0x1000)
    c := decide (0xFFFF < a.toNat + b.toNat) }

/-- Moves a word by a signed byte.  The carries are those of the unsigned addition
of the byte to the low byte of the word. -/
def addSigned (a : Word) (offset : Byte) : AluWordResult :=
  { value := a.displace offset
    h := decide (15 < a.toNat % 16 + offset.toNat % 16)
    c := decide (255 < a.toNat % 256 + offset.toNat) }

/-! ## The value of a sum and of a difference -/

theorem toNat_add (a b : Byte) (carry : Bool) :
    a.toNat + b.toNat + carry.toNat =
      (add a b carry).value.toNat + 256 * (add a b carry).flags.c.toNat := by
  have ha := a.toNat_lt
  have hb := b.toNat_lt
  have hc := carry.toNat_le
  simp only [add, UInt8.toNat_ofNat']
  by_cases h : 255 < a.toNat + b.toNat + carry.toNat
  · simp only [h, decide_true, Bool.toNat_true]
    omega
  · simp only [h, decide_false, Bool.toNat_false]
    omega

theorem toNat_sub (a b : Byte) (carry : Bool) :
    a.toNat + 256 * (sub a b carry).flags.c.toNat =
      (sub a b carry).value.toNat + b.toNat + carry.toNat := by
  have ha := a.toNat_lt
  have hb := b.toNat_lt
  have hc := carry.toNat_le
  simp only [sub, UInt8.toNat_ofNat']
  by_cases h : a.toNat < b.toNat + carry.toNat
  · simp only [h, decide_true, Bool.toNat_true]
    omega
  · simp only [h, decide_false, Bool.toNat_false]
    omega

end Alu

end Handheld
