import Handheld.Instruction
import Handheld.Proofs.Alu.Operations

/-!
# The tables by bit fields

Most codes are made of fields.  Three bits select one of eight places, seven registers and
the cell that HL points to; three bits select an operation, a bit or a fixed address; two
bits select a word register, a cell that one points to, or a condition.  For every family of
such codes there is one statement of what the table holds for all its members.
-/

namespace Handheld

/-! ## What fields select -/

/-- The places, in the order of their fields. -/
def Operand.ofField : Fin 8 → Operand
  | 0 => .register8 .b
  | 1 => .register8 .c
  | 2 => .register8 .d
  | 3 => .register8 .e
  | 4 => .register8 .h
  | 5 => .register8 .l
  | 6 => .indirect .hl
  | 7 => .register8 .a

/-- Every place holds a byte. -/
theorem Operand.ofField_ne_register16 (n : Fin 8) (r : Register16) :
    ofField n ≠ .register16 r := by
  unfold ofField
  split <;> exact nofun

/-- The word registers, in the order of their fields. -/
def Register16.ofField : Fin 4 → Register16
  | 0 => bc
  | 1 => de
  | 2 => hl
  | 3 => sp

/-- The words that go onto the stack.  AF takes the place of SP. -/
def Register16.ofStackField : Fin 4 → Register16
  | 0 => bc
  | 1 => de
  | 2 => hl
  | 3 => af

/-- The cells that word registers point to.  In the last two fields HL moves on. -/
def Operand.ofPointerField : Fin 4 → Operand
  | 0 => .indirect .bc
  | 1 => .indirect .de
  | 2 => .indirectIncrement .hl
  | 3 => .indirectDecrement .hl

def Condition.ofField : Fin 4 → Condition
  | 0 => notZero
  | 1 => zero
  | 2 => notCarry
  | 3 => carry

namespace Alu

def Combination.ofField : Fin 8 → Combination
  | 0 => add
  | 1 => adc
  | 2 => sub
  | 3 => sbc
  | 4 => and
  | 5 => xor
  | 6 => or
  | 7 => cp

def Combination.mnemonic : Combination → Mnemonic
  | add => .add
  | adc => .adc
  | sub => .sub
  | sbc => .sbc
  | and => .and
  | xor => .xor
  | or => .or
  | cp => .cp

def Combination.flagSpec : Combination → FlagSpec
  | add | adc => ⟨.compute, .reset, .compute, .compute⟩
  | sub | sbc | cp => ⟨.compute, .set, .compute, .compute⟩
  | and => ⟨.compute, .reset, .set, .reset⟩
  | xor | or => ⟨.compute, .reset, .reset, .reset⟩

def Shift.ofField : Fin 8 → Shift
  | 0 => rlc
  | 1 => rrc
  | 2 => rl
  | 3 => rr
  | 4 => sla
  | 5 => sra
  | 6 => swap
  | 7 => srl

def Shift.mnemonic : Shift → Mnemonic
  | rlc => .rlc
  | rrc => .rrc
  | rl => .rl
  | rr => .rr
  | sla => .sla
  | sra => .sra
  | swap => .swap
  | srl => .srl

def Shift.flagSpec : Shift → FlagSpec
  | swap => ⟨.compute, .reset, .reset, .reset⟩
  | _ => ⟨.compute, .reset, .reset, .compute⟩

end Alu

/-- The flags of a byte are its upper half. -/
theorem Flags.toByte_ofByte (f : Byte) : (Flags.ofByte f).toByte = f &&& 0xF0 := by
  revert f
  exact Byte.forall_of_fin (by decide +kernel)

namespace Opcode

open Alu

/-- An opcode that keeps all flags drops the lower half of the flag byte. -/
theorem resolve_untouched (f : Byte) (proposed : Flags) :
    untouched.resolve f proposed = f &&& 0xF0 :=
  Flags.toByte_ofByte f

/-! ## The base page -/

theorem lookup?_load (y z : Fin 8) (h : 0x40 + 8 * y.val + z.val ≠ 0x76) :
    lookup? .base (UInt8.ofNat (0x40 + 8 * y.val + z.val)) =
      fixed .ld 1 (if y = 6 ∨ z = 6 then 8 else 4) [.ofField y, .ofField z] untouched := by
  revert y z
  decide

theorem lookup?_loadImmediate (y : Fin 8) :
    lookup? .base (UInt8.ofNat (0x06 + 8 * y.val)) =
      fixed .ld 2 (if y = 6 then 12 else 8) [.ofField y, .immediate8] untouched := by
  revert y
  decide

theorem lookup?_increment (y : Fin 8) :
    lookup? .base (UInt8.ofNat (0x04 + 8 * y.val)) =
      fixed .inc 1 (if y = 6 then 12 else 4) [.ofField y]
        ⟨.compute, .reset, .compute, .keep⟩ := by
  revert y
  decide

theorem lookup?_decrement (y : Fin 8) :
    lookup? .base (UInt8.ofNat (0x05 + 8 * y.val)) =
      fixed .dec 1 (if y = 6 then 12 else 4) [.ofField y]
        ⟨.compute, .set, .compute, .keep⟩ := by
  revert y
  decide

theorem lookup?_combine (y z : Fin 8) :
    lookup? .base (UInt8.ofNat (0x80 + 8 * y.val + z.val)) =
      fixed (Combination.ofField y).mnemonic 1 (if z = 6 then 8 else 4)
        [.register8 .a, .ofField z] (Combination.ofField y).flagSpec := by
  revert y z
  decide

theorem lookup?_combineImmediate (y : Fin 8) :
    lookup? .base (UInt8.ofNat (0xC6 + 8 * y.val)) =
      fixed (Combination.ofField y).mnemonic 2 8 [.register8 .a, .immediate8]
        (Combination.ofField y).flagSpec := by
  revert y
  decide

/-- The mnemonic and the flag specification of the codes that work on the accumulator and
the flags alone. -/
def adjustment : Fin 8 → Mnemonic × FlagSpec
  | 0 => (.rlca, ⟨.reset, .reset, .reset, .compute⟩)
  | 1 => (.rrca, ⟨.reset, .reset, .reset, .compute⟩)
  | 2 => (.rla, ⟨.reset, .reset, .reset, .compute⟩)
  | 3 => (.rra, ⟨.reset, .reset, .reset, .compute⟩)
  | 4 => (.daa, ⟨.compute, .keep, .reset, .compute⟩)
  | 5 => (.cpl, ⟨.keep, .set, .set, .keep⟩)
  | 6 => (.scf, ⟨.keep, .reset, .reset, .set⟩)
  | 7 => (.ccf, ⟨.keep, .reset, .reset, .invert⟩)

theorem lookup?_adjust (y : Fin 8) :
    lookup? .base (UInt8.ofNat (0x07 + 8 * y.val)) =
      fixed (adjustment y).1 1 4 [] (adjustment y).2 := by
  revert y
  decide

/-! ## Words, the stack and pointers -/

theorem lookup?_loadWord (p : Fin 4) :
    lookup? .base (UInt8.ofNat (0x01 + 16 * p.val)) =
      fixed .ld 3 12 [.register16 (.ofField p), .immediate16] untouched := by
  revert p
  decide

theorem lookup?_incrementWord (p : Fin 4) :
    lookup? .base (UInt8.ofNat (0x03 + 16 * p.val)) =
      fixed .inc 1 8 [.register16 (.ofField p)] untouched := by
  revert p
  decide

theorem lookup?_decrementWord (p : Fin 4) :
    lookup? .base (UInt8.ofNat (0x0B + 16 * p.val)) =
      fixed .dec 1 8 [.register16 (.ofField p)] untouched := by
  revert p
  decide

theorem lookup?_addWord (p : Fin 4) :
    lookup? .base (UInt8.ofNat (0x09 + 16 * p.val)) =
      fixed .add 1 8 [.register16 .hl, .register16 (.ofField p)]
        ⟨.keep, .reset, .compute, .compute⟩ := by
  revert p
  decide

theorem lookup?_addSigned :
    lookup? .base 0xE8 =
      fixed .add 2 16 [.register16 .sp, .relative8] ⟨.reset, .reset, .compute, .compute⟩ := by
  decide

theorem lookup?_loadOffset :
    lookup? .base 0xF8 =
      fixed .ld 2 12 [.register16 .hl, .stackPointerOffset, .relative8]
        ⟨.reset, .reset, .compute, .compute⟩ := by
  decide

theorem lookup?_copyHL :
    lookup? .base 0xF9 = fixed .ld 1 8 [.register16 .sp, .register16 .hl] untouched := by
  decide

theorem lookup?_storeStackPointer :
    lookup? .base 0x08 = fixed .ld 3 20 [.absolute, .register16 .sp] untouched := by
  decide

theorem lookup?_push (p : Fin 4) :
    lookup? .base (UInt8.ofNat (0xC5 + 16 * p.val)) =
      fixed .push 1 16 [.register16 (.ofStackField p)] untouched := by
  revert p
  decide

/-- Only AF brings flags along from the stack. -/
def popFlagSpec (p : Fin 4) : FlagSpec :=
  if p = 3 then ⟨.compute, .compute, .compute, .compute⟩ else untouched

theorem lookup?_pop (p : Fin 4) :
    lookup? .base (UInt8.ofNat (0xC1 + 16 * p.val)) =
      fixed .pop 1 12 [.register16 (.ofStackField p)] (popFlagSpec p) := by
  revert p
  decide

theorem lookup?_loadPointed (p : Fin 4) :
    lookup? .base (UInt8.ofNat (0x0A + 16 * p.val)) =
      fixed .ld 1 8 [.register8 .a, .ofPointerField p] untouched := by
  revert p
  decide

theorem lookup?_storePointed (p : Fin 4) :
    lookup? .base (UInt8.ofNat (0x02 + 16 * p.val)) =
      fixed .ld 1 8 [.ofPointerField p, .register8 .a] untouched := by
  revert p
  decide

theorem lookup?_loadAbsolute :
    lookup? .base 0xFA = fixed .ld 3 16 [.register8 .a, .absolute] untouched := by
  decide

theorem lookup?_storeAbsolute :
    lookup? .base 0xEA = fixed .ld 3 16 [.absolute, .register8 .a] untouched := by
  decide

theorem lookup?_loadHighPage :
    lookup? .base 0xF0 = fixed .ldh 2 12 [.register8 .a, .highPage] untouched := by
  decide

theorem lookup?_storeHighPage :
    lookup? .base 0xE0 = fixed .ldh 2 12 [.highPage, .register8 .a] untouched := by
  decide

theorem lookup?_loadHighPageRegister :
    lookup? .base 0xF2 = fixed .ldh 1 8 [.register8 .a, .highPageRegister .c] untouched := by
  decide

theorem lookup?_storeHighPageRegister :
    lookup? .base 0xE2 = fixed .ldh 1 8 [.highPageRegister .c, .register8 .a] untouched := by
  decide

/-! ## Branches -/

/-- The code of a branch without a condition, or with the condition of a field. -/
def branchCode (plain conditional : Nat) : Option (Fin 4) → Nat
  | none => plain
  | some c => conditional + 8 * c.val

/-- The entry of a branch.  Without a condition it takes `plain` ticks. -/
def branchEntry (mnemonic : Mnemonic) (bytes plain taken untaken : Nat)
    (operands : List Operand) : Option (Fin 4) → Opcode
  | none => ⟨mnemonic, .base, bytes, ⟨plain, none⟩, operands, untouched⟩
  | some c =>
    ⟨mnemonic, .base, bytes, ⟨taken, some untaken⟩, .condition (.ofField c) :: operands,
      untouched⟩

/-- The entries of a branch, from the one without a condition and the four with one. -/
theorem lookup?_branch {plain conditional : Nat} {entry : Option (Fin 4) → Opcode}
    (hplain : lookup? .base (UInt8.ofNat plain) = some (entry none))
    (hconditional : ∀ c : Fin 4,
      lookup? .base (UInt8.ofNat (conditional + 8 * c.val)) = some (entry (some c)))
    (cc : Option (Fin 4)) :
    lookup? .base (UInt8.ofNat (branchCode plain conditional cc)) = some (entry cc) := by
  cases cc with
  | none => exact hplain
  | some c => exact hconditional c

theorem lookup?_jumpRelative (cc : Option (Fin 4)) :
    lookup? .base (UInt8.ofNat (branchCode 0x18 0x20 cc)) =
      some (branchEntry .jr 2 12 12 8 [.relative8] cc) :=
  lookup?_branch (by decide) (by decide) cc

theorem lookup?_jumpAbsolute (cc : Option (Fin 4)) :
    lookup? .base (UInt8.ofNat (branchCode 0xC3 0xC2 cc)) =
      some (branchEntry .jp 3 16 16 12 [.immediate16] cc) :=
  lookup?_branch (by decide) (by decide) cc

theorem lookup?_call (cc : Option (Fin 4)) :
    lookup? .base (UInt8.ofNat (branchCode 0xCD 0xC4 cc)) =
      some (branchEntry .call 3 24 24 12 [.immediate16] cc) :=
  lookup?_branch (by decide) (by decide) cc

theorem lookup?_return (cc : Option (Fin 4)) :
    lookup? .base (UInt8.ofNat (branchCode 0xC9 0xC0 cc)) =
      some (branchEntry .ret 1 16 20 8 [] cc) :=
  lookup?_branch (by decide) (by decide) cc

theorem lookup?_jumpToHL :
    lookup? .base 0xE9 = some (branchEntry .jp 1 4 4 4 [.register16 .hl] none) := by
  decide

theorem lookup?_returnFromInterrupt :
    lookup? .base 0xD9 = fixed .reti 1 16 [] untouched := by
  decide

theorem lookup?_restart (y : Fin 8) :
    lookup? .base (UInt8.ofNat (0xC7 + 8 * y.val)) =
      fixed .rst 1 16 [.vector (UInt8.ofNat (8 * y.val))] untouched := by
  revert y
  decide

/-! ## The extended page -/

theorem lookup?_shift (y z : Fin 8) :
    lookup? .extended (UInt8.ofNat (8 * y.val + z.val)) =
      extended (Shift.ofField y).mnemonic (if z = 6 then 16 else 8) [.ofField z]
        (Shift.ofField y).flagSpec := by
  revert y z
  decide

theorem lookup?_testBit (y z : Fin 8) :
    lookup? .extended (UInt8.ofNat (0x40 + 8 * y.val + z.val)) =
      extended .bit (if z = 6 then 12 else 8) [.bit y, .ofField z]
        ⟨.compute, .reset, .set, .keep⟩ := by
  revert y z
  decide

theorem lookup?_resetBit (y z : Fin 8) :
    lookup? .extended (UInt8.ofNat (0x80 + 8 * y.val + z.val)) =
      extended .res (if z = 6 then 16 else 8) [.bit y, .ofField z] untouched := by
  revert y z
  decide

theorem lookup?_setBit (y z : Fin 8) :
    lookup? .extended (UInt8.ofNat (0xC0 + 8 * y.val + z.val)) =
      extended .set (if z = 6 then 16 else 8) [.bit y, .ofField z] untouched := by
  revert y z
  decide

end Opcode

end Handheld
