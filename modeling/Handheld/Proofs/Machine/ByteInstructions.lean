import Handheld.Proofs.Machine.Slots

/-!
# The eight-bit instructions by their fields

The codes in the middle half of the base page, and those that share their lower three bits in
the outer quarters, work on the places that their fields name or by the operation that a field
names.  For each such family one statement says what a step leaves: the value and its place,
the flag byte, the program counter and the time.  Nothing else changes, since what is left is
the machine itself but for these.
-/

namespace Handheld.Machine

open Alu Opcode

variable {m : Machine}

/-! ## What the families do -/

/-- A step takes so many ticks, combines the accumulator with `b`, and moves the program counter
by so many bytes.  Comparing leaves the accumulator as it is. -/
def Combines (m : Machine) (op : Combination) (b : Byte) (bytes : Word) (ticks : Nat) : Prop :=
  ∃ v flags, op.Computes m.cpu.a b m.cpu.carry v flags ∧
    step.Yields m ticks
      (((m.awakeAt (m.cpu.pc + bytes)).setAccumulator (if op = .cp then m.cpu.a else v)).ended
        flags.toByte)

/-- What a step does, by the code at the program counter and the fields in it. -/
structure KeepsToByteFields (m : Machine) : Prop where
  load : ∀ y z : Fin 8, (m.bus.read m.cpu.pc).toNat = 0x40 + 8 * y.val + z.val →
    (m.bus.read m.cpu.pc).toNat ≠ 0x76 →
    step.Yields m (if y = 6 ∨ z = 6 then 8 else 4)
      (((m.awakeAt (m.cpu.pc + 1)).setSlot y (m.slot z)).ended (m.cpu.f &&& 0xF0))
  loadImmediate : ∀ y : Fin 8, (m.bus.read m.cpu.pc).toNat = 0x06 + 8 * y.val →
    step.Yields m (if y = 6 then 12 else 8)
      (((m.awakeAt (m.cpu.pc + 2)).setSlot y (m.bus.read (m.cpu.pc + 1))).ended
        (m.cpu.f &&& 0xF0))
  increment : ∀ y : Fin 8, (m.bus.read m.cpu.pc).toNat = 0x04 + 8 * y.val →
    step.Yields m (if y = 6 then 12 else 4)
      (((m.awakeAt (m.cpu.pc + 1)).setSlot y (m.slot y + 1)).ended
        (Flags.toByte ⟨m.slot y + 1 == 0, false, (m.slot y).toNat % 16 == 15, m.cpu.carry⟩))
  decrement : ∀ y : Fin 8, (m.bus.read m.cpu.pc).toNat = 0x05 + 8 * y.val →
    step.Yields m (if y = 6 then 12 else 4)
      (((m.awakeAt (m.cpu.pc + 1)).setSlot y (m.slot y - 1)).ended
        (Flags.toByte ⟨m.slot y - 1 == 0, true, (m.slot y).toNat % 16 == 0, m.cpu.carry⟩))
  /-- The operation of `y`, on the accumulator and the place of `z`. -/
  combine : ∀ y z : Fin 8, (m.bus.read m.cpu.pc).toNat = 0x80 + 8 * y.val + z.val →
    m.Combines (.ofField y) (m.slot z) 1 (if z = 6 then 8 else 4)
  combineImmediate : ∀ y : Fin 8, (m.bus.read m.cpu.pc).toNat = 0xC6 + 8 * y.val →
    m.Combines (.ofField y) (m.bus.read (m.cpu.pc + 1)) 2 8
  /-- Unlike the shift of the same field on the extended page, a rotation of the accumulator
  clears Z whatever its value is. -/
  rotate : ∀ y : Fin 8, y < 4 → (m.bus.read m.cpu.pc).toNat = 0x07 + 8 * y.val →
    ∃ v, (Shift.ofField y).Moves m.cpu.a m.cpu.carry v ∧
      step.Yields m 4
        (((m.awakeAt (m.cpu.pc + 1)).setAccumulator v).ended
          (Flags.toByte ⟨false, false, false, (Shift.ofField y).out m.cpu.a⟩))
  /-- Whether the last operation was a subtraction stays known. -/
  adjustDecimal : (m.bus.read m.cpu.pc).toNat = 0x27 →
    let r := Alu.daa m.cpu.a m.cpu.flags.n m.cpu.flags.h m.cpu.carry
    step.Yields m 4
      (((m.awakeAt (m.cpu.pc + 1)).setAccumulator r.value).ended
        (Flags.toByte ⟨r.flags.z, m.cpu.flags.n, false, r.flags.c⟩))
  complement : (m.bus.read m.cpu.pc).toNat = 0x2F →
    step.Yields m 4
      (((m.awakeAt (m.cpu.pc + 1)).setAccumulator (~~~m.cpu.a)).ended
        (Flags.toByte ⟨m.cpu.flags.z, true, true, m.cpu.carry⟩))
  setCarry : (m.bus.read m.cpu.pc).toNat = 0x37 →
    step.Yields m 4
      ((m.awakeAt (m.cpu.pc + 1)).ended (Flags.toByte ⟨m.cpu.flags.z, false, false, true⟩))
  complementCarry : (m.bus.read m.cpu.pc).toNat = 0x3F →
    step.Yields m 4
      ((m.awakeAt (m.cpu.pc + 1)).ended
        (Flags.toByte ⟨m.cpu.flags.z, false, false, !m.cpu.carry⟩))

/-! ## What operations propose and what becomes of it -/

/-- The operation computes each flag that it does not fix. -/
theorem resolve_combination (op : Combination) (f a b : Byte) (carry : Bool) :
    op.flagSpec.resolve f (op.result a b carry).flags = (op.result a b carry).flags.toByte := by
  cases op <;> rfl

theorem eq_of_lt_four {y : Fin 8} (hy : y < 4) : y = 0 ∨ y = 1 ∨ y = 2 ∨ y = 3 := by
  revert y
  decide

/-- Of a rotation of the accumulator only the carry is kept. -/
theorem resolve_rotation {y : Fin 8} (hy : y < 4) (f a : Byte) (carry : Bool) :
    (adjustment y).2.resolve f ((Shift.ofField y).result a carry).flags =
      Flags.toByte ⟨false, false, false, (Shift.ofField y).out a⟩ := by
  rw [Shift.flags_result]
  rcases eq_of_lt_four hy with rfl | rfl | rfl | rfl <;> rfl

/-! ## Execution -/

theorem execute_combination {i : Instruction} {op : Combination} {source : Operand} {b : Byte}
    (hmnemonic : i.opcode.mnemonic = op.mnemonic)
    (hoperands : i.opcode.operands = [.register8 .a, source])
    (hread : (readOperand i source).Yields m (.byte b) m) :
    (execute i).Yields m (complete i (op.result m.cpu.a b m.cpu.carry).flags)
      (m.setAccumulator
        (if op = .cp then m.cpu.a else (op.result m.cpu.a b m.cpu.carry).value)) := by
  rw [execute, hmnemonic]
  cases op with
  | add =>
    refine .expect (Opcode.firstOperand_of_operands hoperands) ?_
    exact accumulate_yields (fun a b _ => Alu.add a b false) true hoperands hread
  | adc => exact accumulate_yields Alu.add true hoperands hread
  | sub => exact accumulate_yields (fun a b _ => Alu.sub a b false) true hoperands hread
  | sbc => exact accumulate_yields Alu.sub true hoperands hread
  | and => exact accumulate_yields (fun a b _ => Alu.and a b) true hoperands hread
  | xor => exact accumulate_yields (fun a b _ => Alu.xor a b) true hoperands hread
  | or => exact accumulate_yields (fun a b _ => Alu.or a b) true hoperands hread
  | cp => exact accumulate_yields (fun a b _ => Alu.sub a b false) false hoperands hread

theorem execute_rotation {i : Instruction} {y : Fin 8} (hy : y < 4)
    (hmnemonic : i.opcode.mnemonic = (adjustment y).1) :
    (execute i).Yields m
      (complete i ((Shift.ofField y).result m.cpu.a m.cpu.carry).flags)
      (m.setAccumulator ((Shift.ofField y).result m.cpu.a m.cpu.carry).value) := by
  rw [execute, hmnemonic]
  rcases eq_of_lt_four hy with rfl | rfl | rfl | rfl
  · exact transformAccumulator_yields (fun cpu => Alu.rlc cpu.a) m
  · exact transformAccumulator_yields (fun cpu => Alu.rrc cpu.a) m
  · exact transformAccumulator_yields (fun cpu => Alu.rl cpu.a cpu.carry) m
  · exact transformAccumulator_yields (fun cpu => Alu.rr cpu.a cpu.carry) m

/-- A code combines the accumulator with what its second operand reads as. -/
theorem combines_of_lookup? {op : Combination} {source : Operand} {b : Byte} {n bytes ticks : Nat}
    (hawake : m.isIdle = false) (hcode : (m.bus.read m.cpu.pc).toNat = n)
    (hlookup : lookup? .base (UInt8.ofNat n) =
      fixed op.mnemonic bytes ticks [.register8 .a, source] op.flagSpec)
    (hread : ∀ entry : Opcode, entry.page = .base → entry.bytes = bytes →
      (readOperand ⟨entry, m.operandAt entry m.cpu.pc, m.cpu.pc⟩ source).Yields
        (m.awakeAt (m.cpu.pc + UInt16.ofNat bytes)) (.byte b)
        (m.awakeAt (m.cpu.pc + UInt16.ofNat bytes))) :
    m.Combines op b (UInt16.ofNat bytes) ticks := by
  refine ⟨_, _, op.computes_result m.cpu.a b m.cpu.carry, ?_⟩
  exact step_yields_base hawake hcode hlookup (execute_combination rfl rfl (hread _ rfl rfl)) rfl
    (resolve_combination op _ m.cpu.a b m.cpu.carry)

/-! ## The steps -/

/-- A processor that does not sleep on executes every eight-bit instruction by its fields. -/
theorem keepsToByteFields_of_awake (hawake : m.isIdle = false) : m.KeepsToByteFields where
  load y z hcode hhalt :=
    step_yields_base hawake hcode (lookup?_load y z (hcode ▸ hhalt))
      (load_yields rfl (readOperand_slot _ _ z) (writeOperand_slot _ _ y _)) rfl
      (resolve_untouched_setSlot m _ y _ _)
  loadImmediate y hcode :=
    step_yields_base hawake hcode (lookup?_loadImmediate y)
      (load_yields rfl (readOperand_immediate8 rfl rfl m _ _) (writeOperand_slot _ _ y _)) rfl
      (resolve_untouched_setSlot m _ y _ _)
  increment y hcode := by
    refine step_yields_base hawake hcode (lookup?_increment y)
      (stepOperand_slot _ y 1 Alu.inc rfl) rfl ?_
    rw [f_setSlot]
    rfl
  decrement y hcode := by
    refine step_yields_base hawake hcode (lookup?_decrement y)
      (stepOperand_slot _ y (-1) Alu.dec rfl) rfl ?_
    rw [f_setSlot]
    rfl
  combine y z hcode :=
    combines_of_lookup? hawake hcode (lookup?_combine y z) fun _ _ _ => readOperand_slot _ _ z
  combineImmediate y hcode :=
    combines_of_lookup? hawake hcode (lookup?_combineImmediate y) fun _ hpage hbytes =>
      readOperand_immediate8 hpage hbytes m _ _
  rotate y hy hcode := by
    refine ⟨_, (Shift.ofField y).moves_result m.cpu.a m.cpu.carry, ?_⟩
    exact step_yields_base hawake hcode (lookup?_adjust y) (execute_rotation hy rfl) rfl
      (resolve_rotation hy _ m.cpu.a m.cpu.carry)
  adjustDecimal hcode :=
    step_yields_base hawake hcode (lookup?_adjust 4) (transformAccumulator_yields _ _) rfl rfl
  complement hcode :=
    step_yields_base hawake hcode (lookup?_adjust 5)
      ((modifyCpu_yields _ _).bind (done_yields _)) rfl rfl
  setCarry hcode := step_yields_base hawake hcode (lookup?_adjust 6) (done_yields _) rfl rfl
  complementCarry hcode :=
    step_yields_base hawake hcode (lookup?_adjust 7) (done_yields _) rfl rfl

/-- A machine that is to decrement the cell under HL, which is the interrupt enable register. -/
def disabling : Machine :=
  let m := running { Cpu.initial with h := 0xFF, l := 0xFF } [0x35]
  ⟨m.cpu, m.bus.write 0xFFFF 0x10⟩

theorem keepsToByteFields_of_disabling :
    disabling.isIdle = false ∧ (disabling.bus.read disabling.cpu.pc).toNat = 0x05 + 8 * 6 ∧
      step.Yields disabling 12
        (((disabling.awakeAt 0x0101).setSlot 6 0x0F).ended 0x70) := by
  have hawake : disabling.isIdle = false := by decide +kernel
  have hcode : (disabling.bus.read disabling.cpu.pc).toNat = 0x05 + 8 * 6 := by decide +kernel
  have hslot : disabling.slot 6 = 0x10 := by decide +kernel
  have hstep := (keepsToByteFields_of_awake hawake).decrement 6 hcode
  rw [hslot] at hstep
  exact ⟨hawake, hcode, hstep⟩

end Handheld.Machine
