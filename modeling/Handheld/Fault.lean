import Handheld.Instruction

/-!
# Faults

A handler and the operand list that it is given have to fit each other; where they
do not, the handler stops with a fault that names the misfit.  The opcode tables
give every handler a list that fits.
-/

namespace Handheld

inductive Fault where
  /-- A word where a byte is needed. -/
  | notAByte (v : Word)
  /-- An operand that cannot be read. -/
  | valueless (operand : Operand)
  /-- An operand that cannot take the value. -/
  | unwritable (operand : Operand) (v : OperandValue)
  /-- A bit operation whose first operand is no bit index. -/
  | notABit (mnemonic : Mnemonic) (operand : Operand)
  /-- No first operand, for there is none at all. -/
  | noFirstOperand
  /-- No last operand, for there is none at all. -/
  | noLastOperand
  /-- An address at which the timer has no register. -/
  | notATimerRegister (address : Word)
  /-- More ticks than the tick counter can hold. -/
  | tickCounterFull
  deriving DecidableEq

def Fault.message : Fault → String
  | notAByte v => "Expected U8, got U16(0x" ++ Hex.wordText v ++ ")"
  | valueless operand => operand.description ++ " has no value of its own"
  | unwritable operand v =>
    "Invalid write target " ++ operand.description ++ " for " ++ v.description
  | notABit mnemonic operand =>
    mnemonic.name ++ " expects a bit index, got " ++ operand.description
  | noFirstOperand => "index out of bounds: the len is 0 but the index is 0"
  | noLastOperand => "attempt to subtract with overflow"
  | notATimerRegister address =>
    "Timer has a restrictive addr space: 0x" ++ Hex.wordText address
  | tickCounterFull => "attempt to add with overflow"

/-- Why a machine stops. -/
inductive Stop where
  | undefinedOpcode (e : UndefinedOpcode)
  | fault (e : Fault)
  deriving DecidableEq

def Stop.message : Stop → String
  | undefinedOpcode e => e.message
  | fault e => e.message

/-! ## Operands of the expected shape -/

/-- The value, if it is a byte. -/
def OperandValue.toByte : OperandValue → Except Fault Byte
  | byte v => .ok v
  | word v => .error (.notAByte v)

def Opcode.firstOperand (op : Opcode) : Except Fault Operand :=
  match op.operands with
  | [] => .error .noFirstOperand
  | operand :: _ => .ok operand

def Opcode.lastOperand (op : Opcode) : Except Fault Operand :=
  match op.operands.getLast? with
  | none => .error .noLastOperand
  | some operand => .ok operand

end Handheld
