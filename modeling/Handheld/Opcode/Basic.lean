import Handheld.Flags
import Handheld.Opcode.Mnemonic
import Handheld.Operand

/-!
# Opcodes

The static description of an operation: what it is called, how long its encoding
is, how long it takes, what it works on and what it does to the flags.  An opcode
byte belongs to the base page, or to the extended page if the byte 0xCB precedes it.
-/

namespace Handheld

inductive OpcodePage where
  | base
  | extended
  deriving DecidableEq

namespace OpcodePage

/-- The byte that announces an opcode of the extended page. -/
def marker : Byte := 0xCB

/-- How many bytes the opcode takes without its operands. -/
def codeLength : OpcodePage → Nat
  | base => 1
  | extended => 2

end OpcodePage

/-- Clock ticks of an operation.  A conditional branch states both outcomes, any
other operation takes the same time always. -/
structure Timing where
  taken : Nat
  untaken? : Option Nat
  deriving DecidableEq

namespace Timing

def ticks (timing : Timing) (taken : Bool) : Nat :=
  if taken then timing.taken else timing.untaken?.getD timing.taken

def toList (timing : Timing) : List Nat :=
  timing.taken :: timing.untaken?.toList

end Timing

structure Opcode where
  mnemonic : Mnemonic
  page : OpcodePage
  /-- Length of the encoding, with the marker of the extended page and the operands. -/
  bytes : Nat
  timing : Timing
  operands : List Operand
  flags : FlagSpec
  deriving DecidableEq

namespace Opcode

/-- How many operand bytes follow the opcode. -/
def operandLength (op : Opcode) : Nat :=
  op.bytes - op.page.codeLength

/-- The condition of a conditional branch. -/
def condition? (op : Opcode) : Option Condition :=
  match op.operands with
  | .condition c :: _ => some c
  | _ => none

/-- Fills a text up with blanks on the right. -/
def padRight (width : Nat) (text : String) : String :=
  String.ofList (text.toList ++ List.replicate (width - text.length) ' ')

/-- The opcode as it stands in a listing. -/
def text (op : Opcode) : String :=
  let operands := match op.operands with
    | [] => ""
    | operands => " " ++ padRight 14 (", ".intercalate (operands.map Operand.text))
  padRight 5 op.mnemonic.name ++ operands ++ " " ++ op.flags.text

/-! ## Building the tables -/

/-- No flag changes. -/
def untouched : FlagSpec :=
  ⟨.keep, .keep, .keep, .keep⟩

/-- An operation of the base page that takes the same time always. -/
def fixed (mnemonic : Mnemonic) (bytes ticks : Nat) (operands : List Operand)
    (flags : FlagSpec) : Option Opcode :=
  some ⟨mnemonic, .base, bytes, ⟨ticks, none⟩, operands, flags⟩

/-- A conditional branch. -/
def branch (mnemonic : Mnemonic) (bytes taken untaken : Nat)
    (operands : List Operand) : Option Opcode :=
  some ⟨mnemonic, .base, bytes, ⟨taken, some untaken⟩, operands, untouched⟩

/-- An operation of the extended page. -/
def extended (mnemonic : Mnemonic) (ticks : Nat) (operands : List Operand)
    (flags : FlagSpec) : Option Opcode :=
  some ⟨mnemonic, .extended, 2, ⟨ticks, none⟩, operands, flags⟩

end Opcode

end Handheld
