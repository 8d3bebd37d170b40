import Handheld.Proofs.Machine.Yields
import Handheld.Proofs.Opcode.Fields

/-!
# The eight places of a field

Three bits of a code select a byte register or the cell that HL points to.  What the operand
of a field reads and writes is the same for all eight, so the handlers that work on such an
operand have one law each, and none of it needs a case for the cell.
-/

namespace Handheld.Machine

/-- The byte in the place of a field. -/
def slot (m : Machine) : Fin 8 → Byte
  | 0 => m.cpu.b
  | 1 => m.cpu.c
  | 2 => m.cpu.d
  | 3 => m.cpu.e
  | 4 => m.cpu.h
  | 5 => m.cpu.l
  | 6 => m.bus.read (m.cpu.get16 .hl)
  | 7 => m.cpu.a

/-- The machine with a byte put into the place of a field. -/
def setSlot (m : Machine) (n : Fin 8) (v : Byte) : Machine :=
  match n with
  | 0 => ⟨{ m.cpu with b := v }, m.bus⟩
  | 1 => ⟨{ m.cpu with c := v }, m.bus⟩
  | 2 => ⟨{ m.cpu with d := v }, m.bus⟩
  | 3 => ⟨{ m.cpu with e := v }, m.bus⟩
  | 4 => ⟨{ m.cpu with h := v }, m.bus⟩
  | 5 => ⟨{ m.cpu with l := v }, m.bus⟩
  | 6 => ⟨m.cpu, m.bus.write (m.cpu.get16 .hl) v⟩
  | 7 => ⟨{ m.cpu with a := v }, m.bus⟩

/-- No place of a field is the flag byte. -/
@[simp] theorem f_setSlot (m : Machine) (n : Fin 8) (v : Byte) :
    (m.setSlot n v).cpu.f = m.cpu.f := by
  unfold setSlot
  split <;> rfl

/-- An opcode that keeps all flags keeps them with a byte put into a place. -/
theorem resolve_untouched_setSlot (m : Machine) (address : Word) (n : Fin 8) (v : Byte)
    (proposed : Flags) :
    Opcode.untouched.resolve ((m.awakeAt address).setSlot n v).cpu.f proposed =
      m.cpu.f &&& 0xF0 := by
  rw [Opcode.resolve_untouched, f_setSlot]
  rfl

variable (i : Instruction) (m : Machine) (n : Fin 8)

theorem readOperand_slot : (readOperand i (.ofField n)).Yields m (.byte (m.slot n)) m := by
  match n with
  | 0 | 1 | 2 | 3 | 4 | 5 | 7 => exact (viewCpu_yields _ m).bind (.pure _ _)
  | 6 => exact (viewCpu_yields _ m).bind ((read_yields _ m).bind (.pure _ _))

theorem writeOperand_slot (v : Byte) :
    (writeOperand i (.ofField n) (.byte v)).Yields m () (m.setSlot n v) := by
  match n with
  | 0 => exact modifyCpu_yields (·.set8 .b v) m
  | 1 => exact modifyCpu_yields (·.set8 .c v) m
  | 2 => exact modifyCpu_yields (·.set8 .d v) m
  | 3 => exact modifyCpu_yields (·.set8 .e v) m
  | 4 => exact modifyCpu_yields (·.set8 .h v) m
  | 5 => exact modifyCpu_yields (·.set8 .l v) m
  | 7 => exact modifyCpu_yields (·.set8 .a v) m
  | 6 => exact (viewCpu_yields _ m).bind (write_yields _ v m)

theorem transform_slot (op : Byte → Bool → AluResult) :
    (transform i (.ofField n) op).Yields m (complete i (op (m.slot n) m.cpu.carry).flags)
      (m.setSlot n (op (m.slot n) m.cpu.carry).value) :=
  transform_yields op (readOperand_slot i m n) (writeOperand_slot i m n _)

theorem stepOperand_slot {i : Instruction} (delta : Word) (op : Byte → AluResult)
    (hoperands : i.opcode.operands = [.ofField n]) :
    (stepOperand i delta op).Yields m (complete i (op (m.slot n)).flags)
      (m.setSlot n (op (m.slot n)).value) := by
  refine .expect (Opcode.firstOperand_of_operands hoperands) ?_
  -- A word register would be stepped as a whole, but no place is one.
  split
  next r hword => exact absurd hword (Operand.ofField_ne_register16 n r)
  next => exact transform_slot i m n fun v _ => op v

end Handheld.Machine
