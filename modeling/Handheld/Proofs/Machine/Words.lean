import Handheld.Proofs.Machine.Branches

/-!
# Words, the stack and pointers

Two bits of a code select a word register, or a cell that one points to.  What a word register
holds and takes is said by the registers that it is made of (`word`, `setWord`).  A pointer
supplies its address before HL moves on, so the address that is read or written is always the one
from before the instruction.  The handlers that move words, and those that move the accumulator to
and from a cell, have one law each.
-/

namespace Handheld.Machine

/-- The word in a register, of which the first byte of a pair is the high one. -/
def word (m : Machine) : Register16 → Word
  | .af => Word.ofBytes m.cpu.a m.cpu.f
  | .bc => Word.ofBytes m.cpu.b m.cpu.c
  | .de => Word.ofBytes m.cpu.d m.cpu.e
  | .hl => Word.ofBytes m.cpu.h m.cpu.l
  | .sp => m.cpu.sp

/-- The machine with a word put into a register.  The lower half of the flag byte stays clear. -/
def setWord (m : Machine) (r : Register16) (v : Word) : Machine :=
  match r with
  | .af => ⟨{ m.cpu with a := Word.high v, f := Word.low v &&& 0xF0 }, m.bus⟩
  | .bc => ⟨{ m.cpu with b := Word.high v, c := Word.low v }, m.bus⟩
  | .de => ⟨{ m.cpu with d := Word.high v, e := Word.low v }, m.bus⟩
  | .hl => ⟨{ m.cpu with h := Word.high v, l := Word.low v }, m.bus⟩
  | .sp => ⟨{ m.cpu with sp := v }, m.bus⟩

/-- The machine with a byte written to an address. -/
def stored (m : Machine) (address : Word) (v : Byte) : Machine :=
  ⟨m.cpu, m.bus.write address v⟩

/-- The address that the pointer of a field supplies. -/
def pointed (m : Machine) : Fin 4 → Word
  | 0 => m.word .bc
  | 1 => m.word .de
  | 2 | 3 => m.word .hl

/-- The machine after the pointer of a field has supplied its address. -/
def pastPointer (m : Machine) : Fin 4 → Machine
  | 0 | 1 => m
  | 2 => m.setWord .hl (m.word .hl + 1)
  | 3 => m.setWord .hl (m.word .hl - 1)

/-- The address in the last page with the given low byte, as a sum. -/
theorem highPageAddress_eq_add (low : Byte) :
    highPageAddress low = 0xFF00 + UInt16.ofNat low.toNat := by
  have hlow := low.toNat_lt
  apply UInt16.toNat_inj.mp
  rw [highPageAddress, Word.toNat_ofBytes, UInt16.toNat_add, UInt16.toNat_ofNat']
  show 0xFF * 256 + low.toNat = (0xFF00 + low.toNat % 2 ^ 16) % 2 ^ 16
  omega

variable (m : Machine)

/-! ## Word registers -/

theorem get16_eq_word (r : Register16) : m.cpu.get16 r = m.word r := by
  cases r <;> rfl

theorem set16_eq_setWord (r : Register16) (v : Word) :
    (⟨m.cpu.set16 r v, m.bus⟩ : Machine) = m.setWord r v := by
  cases r <;> rfl

theorem viewCpu_get16_yields (r : Register16) : (viewCpu (·.get16 r)).Yields m (m.word r) m := by
  rw [← get16_eq_word]
  exact viewCpu_yields _ m

theorem modifyCpu_set16_yields (r : Register16) (v : Cpu → Word) :
    (modifyCpu fun cpu => cpu.set16 r (v cpu)).Yields m () (m.setWord r (v m.cpu)) := by
  rw [← set16_eq_setWord]
  exact modifyCpu_yields _ m

/-! ## What stays -/

/-- No word register of a field holds the flags. -/
@[simp] theorem f_setWord (p : Fin 4) (v : Word) :
    (m.setWord (.ofField p) v).cpu.f = m.cpu.f := by
  match p with
  | 0 | 1 | 2 | 3 => rfl

@[simp] theorem f_pastPointer (p : Fin 4) : (m.pastPointer p).cpu.f = m.cpu.f := by
  match p with
  | 0 | 1 | 2 | 3 => rfl

@[simp] theorem word_awakeAt (address : Word) (r : Register16) :
    (m.awakeAt address).word r = m.word r := by
  cases r <;> rfl

@[simp] theorem pointed_awakeAt (address : Word) (p : Fin 4) :
    (m.awakeAt address).pointed p = m.pointed p := by
  match p with
  | 0 | 1 | 2 | 3 => rfl

/-! ## Operands -/

section Operands

variable (i : Instruction)

theorem writeOperand_register16 (r : Register16) (v : Word) :
    (writeOperand i (.register16 r) (.word v)).Yields m () (m.setWord r v) :=
  modifyCpu_set16_yields m r fun _ => v

theorem readOperand_register16_word (r : Register16) :
    (readOperand i (.register16 r)).Yields m (.word (m.word r)) m := by
  rw [← get16_eq_word]
  exact readOperand_register16 i r m

theorem takeAddress_yields (r : Register16) (step : Word) :
    (takeAddress r step).Yields m (m.word r) (m.setWord r (m.word r + step)) :=
  (viewCpu_get16_yields m r).bind ((modifyCpu_set16_yields m r _).bind (.pure _ _))

theorem takeAddress_backwards (r : Register16) :
    (takeAddress r (-1)).Yields m (m.word r) (m.setWord r (m.word r - 1)) := by
  rw [UInt16.sub_eq_add_neg]
  exact takeAddress_yields m r (-1)

theorem readOperand_pointer (p : Fin 4) :
    (readOperand i (.ofPointerField p)).Yields m (.byte (m.bus.read (m.pointed p)))
      (m.pastPointer p) := by
  match p with
  | 0 | 1 => exact (viewCpu_yields _ m).bind ((read_yields _ m).bind (.pure _ _))
  | 2 => exact (takeAddress_yields m .hl 1).bind ((read_yields _ _).bind (.pure _ _))
  | 3 => exact (takeAddress_backwards m .hl).bind ((read_yields _ _).bind (.pure _ _))

theorem writeOperand_pointer (p : Fin 4) (v : Byte) :
    (writeOperand i (.ofPointerField p) (.byte v)).Yields m ()
      ((m.pastPointer p).stored (m.pointed p) v) := by
  match p with
  | 0 | 1 => exact (viewCpu_yields _ m).bind (write_yields _ v m)
  | 2 => exact (takeAddress_yields m .hl 1).bind (write_yields _ v _)
  | 3 => exact (takeAddress_backwards m .hl).bind (write_yields _ v _)

theorem readOperand_highPageRegister (r : Register8) :
    (readOperand i (.highPageRegister r)).Yields m
      (.byte (m.bus.read (highPageAddress (m.cpu.get8 r)))) m :=
  (viewCpu_yields _ m).bind ((read_yields _ m).bind (.pure _ _))

theorem writeOperand_highPageRegister (r : Register8) (v : Byte) :
    (writeOperand i (.highPageRegister r) (.byte v)).Yields m ()
      (m.stored (highPageAddress (m.cpu.get8 r)) v) :=
  (viewCpu_yields _ m).bind (write_yields _ v m)

end Operands

/-! ## Operands that follow the code -/

section FollowingBytes

variable {op : Opcode} (hpage : op.page = .base) (m m' : Machine) (address : Word)

section OneByte

variable (hbytes : op.bytes = 2)
include hpage hbytes

theorem readOperand_highPage :
    (readOperand ⟨op, m.operandAt op address, address⟩ .highPage).Yields m'
      (.byte (m'.bus.read (highPageAddress (m.bus.read (address + 1))))) m' := by
  rw [← low_operandAt hpage hbytes m address]
  exact (read_yields _ m').bind (.pure _ _)

theorem writeOperand_highPage (v : Byte) :
    (writeOperand ⟨op, m.operandAt op address, address⟩ .highPage (.byte v)).Yields m' ()
      (m'.stored (highPageAddress (m.bus.read (address + 1))) v) := by
  rw [← low_operandAt hpage hbytes m address]
  exact write_yields _ v m'

end OneByte

section TwoBytes

variable (hbytes : op.bytes = 3)
include hpage hbytes

theorem readOperand_absolute :
    (readOperand ⟨op, m.operandAt op address, address⟩ .absolute).Yields m'
      (.byte (m'.bus.read (m.bus.readWord (address + 1)))) m' := by
  rw [← operandAt_eq_readWord hpage hbytes m address]
  exact (read_yields _ m').bind (.pure _ _)

theorem writeOperand_absolute (v : Byte) :
    (writeOperand ⟨op, m.operandAt op address, address⟩ .absolute (.byte v)).Yields m' ()
      (m'.stored (m.bus.readWord (address + 1)) v) := by
  rw [← operandAt_eq_readWord hpage hbytes m address]
  exact write_yields _ v m'

theorem writeOperand_absolute_word (v : Word) :
    (writeOperand ⟨op, m.operandAt op address, address⟩ .absolute (.word v)).Yields m' ()
      ((m'.stored (m.bus.readWord (address + 1)) (Word.low v)).stored
        (m.bus.readWord (address + 1) + 1) (Word.high v)) := by
  rw [← operandAt_eq_readWord hpage hbytes m address]
  exact (write_yields _ _ m').bind (write_yields _ _ _)

end TwoBytes

end FollowingBytes

/-! ## Handlers -/

variable {m} {m' : Machine} {i : Instruction}

theorem stepOperand_word {r : Register16} (delta : Word) (op : Byte → AluResult)
    (hoperands : i.opcode.operands = [.register16 r]) :
    (stepOperand i delta op).Yields m (complete i .clear)
      (m.setWord r (m.word r + delta)) := by
  rw [← get16_eq_word]
  refine .expect (Opcode.firstOperand_of_operands hoperands) ?_
  exact (modifyCpu_set16_yields m r fun cpu => cpu.get16 r + delta).bind (done_yields _)

theorem pushOperand_yields {r : Register16} (hoperands : i.opcode.operands = [.register16 r]) :
    (pushOperand i).Yields m (complete i .clear) (m.pushed (m.word r)) := by
  refine .expect (Opcode.firstOperand_of_operands hoperands) ?_
  exact (readOperand_register16_word m i r).bind ((push_yields _ m).bind (done_yields _))

/-- The flags proposed are those that stand in the flag byte after the pop. -/
theorem popOperand_yields {r : Register16} (hoperands : i.opcode.operands = [.register16 r]) :
    (popOperand i).Yields m
      (complete i (m.popped.setWord r (m.bus.readWord m.cpu.sp)).cpu.flags)
      (m.popped.setWord r (m.bus.readWord m.cpu.sp)) := by
  refine (pop_yields m).bind (.expect (Opcode.firstOperand_of_operands hoperands) ?_)
  refine (writeOperand_register16 _ i r _).bind ?_
  exact (viewCpu_yields _ _).bind (.pure _ _)

/-- The flags that are proposed when two words have been added. -/
def sumProposal (a b : Word) : Flags :=
  ⟨false, false, (Alu.addWord a b).h, (Alu.addWord a b).c⟩

theorem addOperand_word {r : Register16}
    (hoperands : i.opcode.operands = [.register16 .hl, .register16 r]) :
    (addOperand i).Yields m
      (complete i (sumProposal (m.word .hl) (m.word r)))
      (m.setWord .hl (m.word .hl + m.word r)) := by
  rw [← get16_eq_word m .hl]
  refine .expect (Opcode.firstOperand_of_operands hoperands) ?_
  refine .expect (Opcode.lastOperand_of_operands hoperands) ?_
  refine (readOperand_register16_word m i r).bind ((viewCpu_yields _ m).bind ?_)
  exact (modifyCpu_set16_yields m .hl fun _ => _).bind (.pure _ _)

/-- The flags that are proposed when the stack pointer has been moved by a byte. -/
def offsetProposal (sp : Word) (offset : Byte) : Flags :=
  ⟨false, false, (Alu.addSigned sp offset).h, (Alu.addSigned sp offset).c⟩

section Offset

variable {op : Opcode} (hpage : op.page = .base) (hbytes : op.bytes = 2) (address : Word)
include hpage hbytes

theorem addOperand_signed {rest : List Operand}
    (hoperands : op.operands = .register16 .sp :: rest) :
    (addOperand ⟨op, m.operandAt op address, address⟩).Yields (m.awakeAt (address + 2))
      (complete ⟨op, m.operandAt op address, address⟩
        (offsetProposal m.cpu.sp (m.bus.read (address + 1))))
      ((m.awakeAt (address + 2)).setWord .sp
        (m.cpu.sp + UInt16.ofInt (m.bus.read (address + 1)).toSigned)) := by
  rw [← low_operandAt hpage hbytes m address, ← Word.displace_eq_add]
  refine .expect (Opcode.firstOperand_of_operands hoperands) ?_
  exact (viewCpu_yields _ _).bind ((modifyCpu_yields _ _).bind (.pure _ _))

theorem load_offset (hoperands : op.operands.length = 3) :
    (load ⟨op, m.operandAt op address, address⟩).Yields (m.awakeAt (address + 2))
      (complete ⟨op, m.operandAt op address, address⟩
        (offsetProposal m.cpu.sp (m.bus.read (address + 1))))
      ((m.awakeAt (address + 2)).setWord .hl
        (m.cpu.sp + UInt16.ofInt (m.bus.read (address + 1)).toSigned)) := by
  rw [← low_operandAt hpage hbytes m address, ← Word.displace_eq_add, load, if_pos hoperands]
  exact (viewCpu_yields _ _).bind ((modifyCpu_set16_yields _ .hl fun _ => _).bind (.pure _ _))

end Offset

/-- The accumulator is loaded from what the source reads as. -/
theorem load_accumulator {source : Operand} {v : Byte}
    (hoperands : i.opcode.operands = [.register8 .a, source])
    (hread : (readOperand i source).Yields m (.byte v) m') :
    (load i).Yields m (complete i .clear) (m'.setAccumulator v) :=
  load_yields hoperands hread (modifyCpu_yields (·.set8 .a v) m')

/-- The accumulator is written to the target. -/
theorem store_accumulator {target : Operand}
    (hoperands : i.opcode.operands = [target, .register8 .a])
    (hwrite : (writeOperand i target (.byte m.cpu.a)).Yields m () m') :
    (load i).Yields m (complete i .clear) m' :=
  load_yields hoperands ((viewCpu_yields _ m).bind (.pure _ _)) hwrite

end Handheld.Machine
