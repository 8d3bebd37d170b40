import Handheld.Cpu.Basic
import Handheld.Proofs.Opcode.Fit

/-!
# What opcodes write to

Few operations write to the bus, and each of them does so in one of a few ways: to the cell a
register points to, to an address that follows the code, or to the stack.  `Footprint.ofCode`
reads off a code which way is its own, without the tables.  It agrees with what the operation
and its operands in the tables say (`footprint_of_lookup?`).
-/

namespace Handheld

/-- The ways in which an operation writes to the bus. -/
inductive Footprint where
  | nowhere
  /-- The cell that the register points to. -/
  | pointer (r : Register16)
  /-- The cell in the last page that the byte after the code names. -/
  | highPage
  /-- The cell in the last page that the register names. -/
  | highPageRegister (r : Register8)
  /-- The cell at the address after the code. -/
  | absolute
  /-- The cell at the address after the code, and the next one. -/
  | absoluteWord
  /-- The two cells below the stack pointer, if the condition is met. -/
  | stack (condition? : Option Condition)
  deriving DecidableEq

namespace Footprint

/-- The addresses that are written to, from the state before the instruction and the word
after its code. -/
def addresses (operand : Word) (cpu : Cpu) : Footprint → List Word
  | nowhere => []
  | pointer r => [cpu.get16 r]
  | highPage => [0xFF00 + UInt16.ofNat (Word.low operand).toNat]
  | highPageRegister r => [0xFF00 + UInt16.ofNat (cpu.get8 r).toNat]
  | absolute => [operand]
  | absoluteWord => [operand, operand + 1]
  | stack condition? => if cpu.meets condition? then [cpu.sp - 1, cpu.sp - 2] else []

/-- The codes that store to the cell under HL, or read it and write it back. -/
def hlCodes : List Byte :=
  [0x22, 0x32, 0x34, 0x35, 0x36, 0x70, 0x71, 0x72, 0x73, 0x74, 0x75, 0x77]

/-- The codes of PUSH, of RST and of CALL without a condition. -/
def stackCodes : List Byte :=
  [0xC5, 0xD5, 0xE5, 0xF5, 0xC7, 0xCF, 0xD7, 0xDF, 0xE7, 0xEF, 0xF7, 0xFF, 0xCD]

/-- What a code writes to.  Of the extended page it is every operation on the cell under HL but
the test of a bit. -/
def ofCode : OpcodePage → Byte → Footprint
  | .base, code =>
    if code = 0x02 then pointer .bc
    else if code = 0x12 then pointer .de
    else if code ∈ hlCodes then pointer .hl
    else if code = 0xE0 then highPage
    else if code = 0xE2 then highPageRegister .c
    else if code = 0xEA then absolute
    else if code = 0x08 then absoluteWord
    else if code ∈ stackCodes then stack none
    else if code = 0xC4 then stack (some .notZero)
    else if code = 0xCC then stack (some .zero)
    else if code = 0xD4 then stack (some .notCarry)
    else if code = 0xDC then stack (some .carry)
    else nowhere
  | .extended, code =>
    if code.toNat % 8 = 6 ∧ code.toNat / 64 ≠ 1 then pointer .hl else nowhere

/-- No address is written to twice. -/
theorem nodup_addresses (operand : Word) (cpu : Cpu) (footprint : Footprint) :
    (footprint.addresses operand cpu).Nodup := by
  cases footprint with
  | nowhere => exact List.nodup_nil
  | pointer | highPage | highPageRegister | absolute | absoluteWord => simp [addresses]
  | stack condition? =>
      simp only [addresses]
      split
      · simp
      · exact List.nodup_nil

end Footprint

/-! ## From the operation and its operands -/

namespace Operand

/-- What a write of a value of the size to the operand writes to. -/
def footprint : Operand → Width → Footprint
  | indirect r, _ | indirectIncrement r, _ | indirectDecrement r, _ => .pointer r
  | highPage, _ => .highPage
  | highPageRegister r, _ => .highPageRegister r
  | absolute, .byte => .absolute
  | absolute, .word => .absoluteWord
  | _, _ => .nowhere

/-- Whether every register stays as it is when the operand is read. -/
def stays : Operand → Bool
  | indirectIncrement _ | indirectDecrement _ => false
  | _ => true

end Operand

namespace Opcode

/-- What a write of a byte to an operand writes to, if the operand is there. -/
def byteFootprint (operand : Except Fault Operand) : Footprint :=
  match operand with
  | .ok operand => operand.footprint .byte
  | .error _ => .nowhere

/-- What copying the last operand to the first one writes to. -/
def loadFootprint (op : Opcode) : Footprint :=
  match op.firstOperand, op.lastOperand with
  | .ok target, .ok source => target.footprint (source.width?.getD .byte)
  | _, _ => .nowhere

/-- What the operation writes to. -/
def footprint (op : Opcode) : Footprint :=
  match op.mnemonic with
  | .ld | .ldh => if op.operands.length = 3 then .nowhere else op.loadFootprint
  | .inc | .dec | .rlc | .rrc | .rl | .rr | .sla | .sra | .swap | .srl =>
    byteFootprint op.firstOperand
  | .res | .set => byteFootprint op.lastOperand
  | .push | .rst => .stack none
  | .call => .stack op.condition?
  | _ => .nowhere

/-- Whether an operand is read before any register moves, and a word that is popped goes to a
register. -/
def readsInPlace (op : Opcode) : Bool :=
  match op.mnemonic with
  | .ld | .ldh => op.loadFootprint == .nowhere || op.lastIs Operand.stays
  | .inc | .dec | .rlc | .rrc | .rl | .rr | .sla | .sra | .swap | .srl | .push | .rst =>
    op.firstIs Operand.stays
  | .res | .set => op.lastIs Operand.stays
  | .pop => op.firstIs fun target => target.footprint .word == .nowhere
  | _ => true

/-- Whether the operation has as many operand bytes as the way in which it writes needs. -/
def bringsOperand (op : Opcode) : Bool :=
  match op.footprint with
  | .highPage => op.page == .base && op.bytes == 2
  | .absolute | .absoluteWord => op.page == .base && op.bytes == 3
  | _ => true

/-! ## Operands of two kinds at once -/

theorem firstOperand_of_both {op : Opcode} {p q : Operand → Bool} (hp : op.firstIs p = true)
    (hq : op.firstIs q = true) :
    ∃ operand, op.firstOperand = .ok operand ∧ p operand = true ∧ q operand = true := by
  obtain ⟨operand, hoperand, hpoperand⟩ := firstOperand_of_firstIs hp
  obtain ⟨operand', hoperand', hqoperand⟩ := firstOperand_of_firstIs hq
  obtain rfl : operand = operand' := Except.ok.inj (hoperand.symm.trans hoperand')
  exact ⟨operand, hoperand, hpoperand, hqoperand⟩

theorem lastOperand_of_both {op : Opcode} {p q : Operand → Bool} (hp : op.lastIs p = true)
    (hq : op.lastIs q = true) :
    ∃ operand, op.lastOperand = .ok operand ∧ p operand = true ∧ q operand = true := by
  obtain ⟨operand, hoperand, hpoperand⟩ := lastOperand_of_lastIs hp
  obtain ⟨operand', hoperand', hqoperand⟩ := lastOperand_of_lastIs hq
  obtain rfl : operand = operand' := Except.ok.inj (hoperand.symm.trans hoperand')
  exact ⟨operand, hoperand, hpoperand, hqoperand⟩

/-! ## The tables -/

variable {page : OpcodePage} {code : Byte} {op : Opcode}

/-- A code writes where the operation that it describes writes, and brings what is needed. -/
theorem footprint_of_lookup? (h : lookup? page code = some op) :
    op.footprint = .ofCode page code ∧ op.readsInPlace = true ∧ op.bringsOperand = true := by
  have hchecks := of_lookup?
    (p := fun page code op =>
      decide (op.footprint = .ofCode page code) && (op.readsInPlace && op.bringsOperand))
    (by decide +kernel) (by decide +kernel) h
  simpa only [Bool.and_eq_true, decide_eq_true_eq] using hchecks

end Opcode

end Handheld
