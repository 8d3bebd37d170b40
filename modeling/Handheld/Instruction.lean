import Handheld.Opcode.BasePage
import Handheld.Opcode.ExtendedPage

/-!
# Instructions

An instruction is an opcode together with the operand bytes that followed it and the
address at which it stood.  `Opcode.lookup?` finds the operation that a code describes on
its page.  Eleven codes of the base page, and the marker of the extended page among its own
codes, describe none (`Opcode.lookup?_base_eq_none_iff`); the extended page is complete
(`Opcode.lookup?_extended`).
-/

namespace Handheld

/-! ## Looking up opcodes -/

namespace Opcode

def lookup? (page : OpcodePage) (code : Byte) : Option Opcode :=
  let rows := match page with
    | .base => basePage
    | .extended => extendedPage
  (rows.getD (code.toNat / 16) #[]).getD (code.toNat % 16) none

/-- The codes of the base page that neither describe an operation nor announce the
extended page. -/
def undefinedCodes : List Byte :=
  [0xD3, 0xDB, 0xDD, 0xE3, 0xE4, 0xEB, 0xEC, 0xED, 0xF4, 0xFC, 0xFD]

theorem lookup?_base_eq_none_iff (code : Byte) :
    lookup? .base code = none ↔ code ∈ undefinedCodes ∨ code = OpcodePage.marker := by
  revert code
  exact Byte.forall_of_fin (by decide +kernel)

theorem lookup?_extended (code : Byte) : (lookup? .extended code).isSome := by
  revert code
  exact Byte.forall_of_fin (by decide +kernel)

end Opcode

/-! ## Instructions -/

structure Instruction where
  opcode : Opcode
  /-- The operand bytes, the first one lowest.  Zero where there is none. -/
  operand : Word
  address : Word
  deriving DecidableEq

namespace Instruction

def immediate8 (i : Instruction) : Byte :=
  Word.low i.operand

def immediate16 (i : Instruction) : Word :=
  i.operand

/-- The instruction as it stands in a listing, with its address and operand. -/
def text (i : Instruction) : String :=
  let operand := match i.opcode.operandLength with
    | 1 => " (" ++ Hex.byteText i.immediate8 ++ ")"
    | 2 => " (" ++ Hex.wordText i.immediate16 ++ ")"
    | _ => ""
  Hex.wordText i.address ++ ": " ++ i.opcode.text ++ operand

end Instruction

/-- A code that describes no operation, met at an address.  On the extended page the
address is that of the marker. -/
structure UndefinedOpcode where
  code : Byte
  page : OpcodePage
  address : Word
  deriving DecidableEq

def UndefinedOpcode.message (e : UndefinedOpcode) : String :=
  let marker := match e.page with
    | .base => ""
    | .extended => "CB "
  "Undefined opcode " ++ marker ++ Hex.byteText e.code ++ " at 0x" ++ Hex.wordText e.address

end Handheld
