import Handheld.Proofs.Machine.Slots

/-!
# The instructions of the extended page by their fields

After the marker every code is `8 * y + z` in one of four quarters, and works on the place of
`z`.  In the first quarter `y` names a shift, in the others the bit that is tested, cleared or
set.  For each quarter one statement says what a step leaves, as for the base page.
-/

namespace Handheld.Machine

open Alu Opcode

variable {m : Machine}

/-! ## What the quarters do -/

/-- The byte `v` has the given bit at `y`, and at the other places the bits of `a`. -/
def Replaces (a : Byte) (y : Fin 8) (bit : Bool) (v : Byte) : Prop :=
  ∀ n : Fin 8, v.toNat.testBit n = if n = y then bit else a.toNat.testBit n

/-- What a step does, by the code after the marker and the fields in it. -/
structure KeepsToExtendedFields (m : Machine) : Prop where
  shift : ∀ y z : Fin 8, (m.bus.read (m.cpu.pc + 1)).toNat = 8 * y.val + z.val →
    ∃ v, (Shift.ofField y).Moves (m.slot z) m.cpu.carry v ∧
      step.Yields m (if z = 6 then 16 else 8)
        (((m.awakeAt (m.cpu.pc + 2)).setSlot z v).ended
          (Flags.toByte ⟨v == 0, false, false, (Shift.ofField y).out (m.slot z)⟩))
  testBit : ∀ y z : Fin 8, (m.bus.read (m.cpu.pc + 1)).toNat = 0x40 + 8 * y.val + z.val →
    step.Yields m (if z = 6 then 12 else 8)
      ((m.awakeAt (m.cpu.pc + 2)).ended
        (Flags.toByte ⟨!(m.slot z).toNat.testBit y, false, true, m.cpu.carry⟩))
  resetBit : ∀ y z : Fin 8, (m.bus.read (m.cpu.pc + 1)).toNat = 0x80 + 8 * y.val + z.val →
    ∃ v, Replaces (m.slot z) y false v ∧
      step.Yields m (if z = 6 then 16 else 8)
        (((m.awakeAt (m.cpu.pc + 2)).setSlot z v).ended (m.cpu.f &&& 0xF0))
  setBit : ∀ y z : Fin 8, (m.bus.read (m.cpu.pc + 1)).toNat = 0xC0 + 8 * y.val + z.val →
    ∃ v, Replaces (m.slot z) y true v ∧
      step.Yields m (if z = 6 then 16 else 8)
        (((m.awakeAt (m.cpu.pc + 2)).setSlot z v).ended (m.cpu.f &&& 0xF0))

/-! ## Single bits -/

theorem testBit_bitMask (y n : Fin 8) : (bitMask y).toNat.testBit n = decide (n = y) := by
  revert y n
  decide

theorem testBit_not_bitMask (y n : Fin 8) :
    (~~~bitMask y).toNat.testBit n = !decide (n = y) := by
  revert y n
  decide

theorem replaces_and_not_bitMask (a : Byte) (y : Fin 8) :
    Replaces a y false (a &&& ~~~bitMask y) := by
  intro n
  rw [UInt8.toNat_and, Nat.testBit_and, testBit_not_bitMask]
  by_cases hn : n = y
  · simp [hn]
  · simp [hn]

theorem replaces_or_bitMask (a : Byte) (y : Fin 8) : Replaces a y true (a ||| bitMask y) := by
  intro n
  rw [UInt8.toNat_or, Nat.testBit_or, testBit_bitMask]
  by_cases hn : n = y
  · simp [hn]
  · simp [hn]

/-! ## Execution -/

section Execution

variable {i : Instruction} {y z : Fin 8}

theorem execute_shift {op : Shift} (hmnemonic : i.opcode.mnemonic = op.mnemonic)
    (hoperands : i.opcode.operands = [.ofField z]) :
    (execute i).Yields m (complete i (op.result (m.slot z) m.cpu.carry).flags)
      (m.setSlot z (op.result (m.slot z) m.cpu.carry).value) := by
  have hfirst := Opcode.firstOperand_of_operands hoperands
  rw [execute, hmnemonic]
  cases op with
  | rlc => exact .expect hfirst (transform_slot i m z fun v _ => Alu.rlc v)
  | rrc => exact .expect hfirst (transform_slot i m z fun v _ => Alu.rrc v)
  | rl => exact .expect hfirst (transform_slot i m z Alu.rl)
  | rr => exact .expect hfirst (transform_slot i m z Alu.rr)
  | sla => exact .expect hfirst (transform_slot i m z fun v _ => Alu.sla v)
  | sra => exact .expect hfirst (transform_slot i m z fun v _ => Alu.sra v)
  | swap => exact .expect hfirst (transform_slot i m z fun v _ => Alu.swap v)
  | srl => exact .expect hfirst (transform_slot i m z fun v _ => Alu.srl v)

theorem resolve_shift (op : Shift) (f a : Byte) (carry : Bool) :
    op.flagSpec.resolve f (op.result a carry).flags =
      Flags.toByte ⟨(op.result a carry).value == 0, false, false, op.out a⟩ := by
  rw [Shift.flags_result]
  cases op <;> rfl

theorem bitOperands_of_operands (hoperands : i.opcode.operands = [.bit y, .ofField z]) :
    bitOperands i = .ok (y, .ofField z) := by
  rw [bitOperands, Opcode.firstOperand_of_operands hoperands,
    Opcode.lastOperand_of_operands hoperands]
  rfl

theorem testBit_yields (hoperands : i.opcode.operands = [.bit y, .ofField z]) :
    (testBit i).Yields m (complete i (Alu.bit (m.slot z) y.val).flags) m :=
  .expect (bitOperands_of_operands hoperands)
    ((readOperand_slot i m z).bind (.expect rfl (.pure _ _)))

theorem resetBit_yields (hoperands : i.opcode.operands = [.bit y, .ofField z]) :
    (resetBit i).Yields m (complete i .clear) (m.setSlot z (m.slot z &&& ~~~bitMask y)) :=
  .expect (bitOperands_of_operands hoperands)
    (transform_slot i m z fun v _ => Alu.unflagged (v &&& ~~~bitMask y))

theorem setBit_yields (hoperands : i.opcode.operands = [.bit y, .ofField z]) :
    (setBit i).Yields m (complete i .clear) (m.setSlot z (m.slot z ||| bitMask y)) :=
  .expect (bitOperands_of_operands hoperands)
    (transform_slot i m z fun v _ => Alu.unflagged (v ||| bitMask y))

end Execution

/-! ## The steps -/

/-- A processor that does not sleep on executes every instruction after the marker by its
fields. -/
theorem keepsToExtendedFields_of_marker (hawake : m.isIdle = false)
    (hmarker : m.bus.read m.cpu.pc = OpcodePage.marker) : m.KeepsToExtendedFields where
  shift y z hcode := by
    refine ⟨_, (Shift.ofField y).moves_result (m.slot z) m.cpu.carry, ?_⟩
    exact step_yields_extended hawake hmarker hcode (lookup?_shift y z) (execute_shift rfl rfl)
      rfl (resolve_shift _ _ (m.slot z) m.cpu.carry)
  testBit y z hcode :=
    step_yields_extended hawake hmarker hcode (lookup?_testBit y z) (testBit_yields rfl) rfl rfl
  resetBit y z hcode := by
    refine ⟨_, replaces_and_not_bitMask (m.slot z) y, ?_⟩
    exact step_yields_extended hawake hmarker hcode (lookup?_resetBit y z) (resetBit_yields rfl)
      rfl (resolve_untouched_setSlot m _ z _ _)
  setBit y z hcode := by
    refine ⟨_, replaces_or_bitMask (m.slot z) y, ?_⟩
    exact step_yields_extended hawake hmarker hcode (lookup?_setBit y z) (setBit_yields rfl)
      rfl (resolve_untouched_setSlot m _ z _ _)

/-- A machine that is to set bit 2 of the cell under HL, which is the divider: it reads as the
high byte of the counter, and any write clears the counter. -/
def settingDivider : Machine :=
  let m := running { Cpu.initial with h := 0xFF, l := 0x04 } [0xCB, 0xD6]
  ⟨m.cpu, { m.bus with timer := { m.bus.timer with counter := 0xAB12 } }⟩

theorem keepsToExtendedFields_of_settingDivider :
    settingDivider.isIdle = false ∧
      settingDivider.bus.read settingDivider.cpu.pc = OpcodePage.marker ∧
      (settingDivider.bus.read (settingDivider.cpu.pc + 1)).toNat = 0xC0 + 8 * 2 + 6 ∧
      ∃ v, Replaces 0xAB 2 true v ∧
        step.Yields settingDivider 16
          (((settingDivider.awakeAt 0x0102).setSlot 6 v).ended 0xB0) := by
  have hawake : settingDivider.isIdle = false := by decide +kernel
  have hmarker : settingDivider.bus.read settingDivider.cpu.pc = OpcodePage.marker := by
    decide +kernel
  have hcode : (settingDivider.bus.read (settingDivider.cpu.pc + 1)).toNat = 0xC0 + 8 * 2 + 6 := by
    decide +kernel
  have hslot : settingDivider.slot 6 = 0xAB := by decide +kernel
  have hstep := (keepsToExtendedFields_of_marker hawake hmarker).setBit 2 6 hcode
  rw [hslot] at hstep
  exact ⟨hawake, hmarker, hcode, hstep⟩

end Handheld.Machine
