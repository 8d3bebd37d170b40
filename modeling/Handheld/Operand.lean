import Handheld.Text.Hex

/-!
# Operands

What an instruction names as the source or the target of its work, in the two
written forms that listings and messages use.  There are seven byte registers, and the
word registers, of which `af`, `bc`, `de` and `hl` are pairs whose first letter is the
high byte.
-/

namespace Handheld

/-! ## Registers -/

inductive Register8 where
  | a
  | b
  | c
  | d
  | e
  | h
  | l
  deriving DecidableEq

def Register8.name : Register8 → String
  | a => "A"
  | b => "B"
  | c => "C"
  | d => "D"
  | e => "E"
  | h => "H"
  | l => "L"

inductive Register16 where
  | af
  | bc
  | de
  | hl
  | sp
  deriving DecidableEq

def Register16.name : Register16 → String
  | af => "AF"
  | bc => "BC"
  | de => "DE"
  | hl => "HL"
  | sp => "SP"

/-! ## Conditions and operands -/

/-- When a branch is taken. -/
inductive Condition where
  | notZero
  | zero
  | notCarry
  | carry
  deriving DecidableEq

namespace Condition

def text : Condition → String
  | notZero => "NZ"
  | zero => "Z"
  | notCarry => "NC"
  | carry => "C"

def description : Condition → String
  | notZero => "NotZero"
  | zero => "Zero"
  | notCarry => "NotCarry"
  | carry => "Carry"

end Condition

inductive Operand where
  | register8 (r : Register8)
  | register16 (r : Register16)
  /-- The byte that follows the opcode. -/
  | immediate8
  /-- The word that follows the opcode. -/
  | immediate16
  /-- The cell whose address follows the opcode. -/
  | absolute
  /-- The cell in the last page whose low address byte follows the opcode. -/
  | highPage
  /-- The cell in the last page whose low address byte is in a register. -/
  | highPageRegister (r : Register8)
  /-- The cell whose address is in a register. -/
  | indirect (r : Register16)
  /-- As `indirect`, and the register is then decremented. -/
  | indirectDecrement (r : Register16)
  /-- As `indirect`, and the register is then incremented. -/
  | indirectIncrement (r : Register16)
  /-- The stack pointer moved by the signed byte that follows the opcode. -/
  | stackPointerOffset
  | bit (index : Fin 8)
  | condition (c : Condition)
  /-- The signed byte that follows the opcode. -/
  | relative8
  /-- A fixed address in the first page. -/
  | vector (v : Byte)
  deriving DecidableEq

namespace Operand

/-- The operand as it stands in a listing. -/
def text : Operand → String
  | register8 r => r.name
  | register16 r => r.name
  | immediate8 => "n8"
  | immediate16 => "n16"
  | absolute => "[a16]"
  | highPage => "[a8]"
  | highPageRegister r => "[" ++ r.name ++ "]"
  | indirect r => "[" ++ r.name ++ "]"
  | indirectDecrement r => "[" ++ r.name ++ "-]"
  | indirectIncrement r => "[" ++ r.name ++ "+]"
  | stackPointerOffset => "SP+e8"
  | bit index => toString index.val
  | condition c => c.text
  | relative8 => "e8"
  | vector v => "$" ++ Hex.byteText v

/-- The operand as it stands in an error message. -/
def description : Operand → String
  | register8 r => "Register8(" ++ r.name ++ ")"
  | register16 r => "Register16(" ++ r.name ++ ")"
  | immediate8 => "Immediate8"
  | immediate16 => "Immediate16"
  | absolute => "AddrImmediate16"
  | highPage => "AddrImmediate8"
  | highPageRegister r => "AddrRegister8(" ++ r.name ++ ")"
  | indirect r => "AddrRegister16(" ++ r.name ++ ")"
  | indirectDecrement r => "AddrRegister16Decrement(" ++ r.name ++ ")"
  | indirectIncrement r => "AddrRegister16Increment(" ++ r.name ++ ")"
  | stackPointerOffset => "StackPointerOffset"
  | bit index => "Bit(" ++ toString index.val ++ ")"
  | condition c => "Condition(" ++ c.description ++ ")"
  | relative8 => "Relative8"
  | vector v => "Vector(" ++ toString v.toNat ++ ")"

/-- Whether the operand is a value of its own, and not a cell that it points to. -/
def isImmediate : Operand → Bool
  | absolute | highPage | highPageRegister _ => false
  | indirect _ | indirectDecrement _ | indirectIncrement _ => false
  | _ => true

end Operand

/-- What reading an operand yields. -/
inductive OperandValue where
  | byte (v : Byte)
  | word (v : Word)
  deriving DecidableEq

namespace OperandValue

/-- The value as a word.  A byte is extended with zeros. -/
def toWord : OperandValue → Word
  | byte v => UInt16.ofNat v.toNat
  | word v => v

def description : OperandValue → String
  | byte v => "U8(" ++ toString v.toNat ++ ")"
  | word v => "U16(" ++ toString v.toNat ++ ")"

end OperandValue

end Handheld
