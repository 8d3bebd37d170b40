import Handheld.Proofs.Machine.Accept
import Handheld.Proofs.Machine.Step

/-!
# What an action leaves behind

`x.Yields s a s'` says of an action that it goes on from `s` with the value `a` and leaves the
state `s'`, whatever it reports on the way.  The actions that instructions are made of yield
what their names say, the handlers yield what follows from how their operands are read and
written, and a step yields what the handler of its instruction leaves, with the flags that
the opcode's specification picks (`step_yields_base`, `step_yields_extended`).
-/

namespace Handheld

/-! ## Actions in sequence -/

namespace Action

/-- From `s`, the action goes on with `a` and leaves `s'`. -/
def Yields (x : Action σ α) (s : σ) (a : α) (s' : σ) : Prop :=
  ∃ events, x s = ⟨.ok a, s', events⟩

namespace Yields

variable {x : Action σ α} {f : α → Action σ β} {s s' s'' : σ} {a : α} {b : β}

theorem pure (s : σ) (a : α) : (Pure.pure a : Action σ α).Yields s a s :=
  ⟨[], rfl⟩

theorem bind (hx : x.Yields s a s') (hf : (f a).Yields s' b s'') :
    (x >>= f).Yields s b s'' := by
  obtain ⟨events, hx⟩ := hx
  obtain ⟨later, hf⟩ := hf
  exact ⟨events ++ later, by rw [bind_of_ok hx, hf]⟩

theorem expect {e : Except Fault α} (he : e = .ok a) (hf : (f a).Yields s b s') :
    (Action.expect e >>= f).Yields s b s' := by
  subst he
  exact bind (pure s a) hf

end Yields

end Action

/-! ## Operands by position -/

namespace Opcode

variable {op : Opcode} {first last : Operand}

theorem firstOperand_of_operands {rest : List Operand} (h : op.operands = first :: rest) :
    op.firstOperand = .ok first := by
  rw [firstOperand, h]

theorem lastOperand_of_operands (h : op.operands = [first, last]) :
    op.lastOperand = .ok last := by
  rw [lastOperand, h]
  rfl

end Opcode

theorem Word.sub_one_sub_one (w : Word) : w - 1 - 1 = w - 2 := by
  rw [UInt16.sub_eq_add_neg, UInt16.sub_eq_add_neg, UInt16.sub_eq_add_neg, UInt16.add_assoc]
  rfl

theorem Word.sub_two_add_one (w : Word) : w - 2 + 1 = w - 1 := by
  rw [← sub_one_sub_one, UInt16.sub_add_cancel]

theorem Word.sub_one_ne_sub_two (w : Word) : w - 1 ≠ w - 2 := by
  rw [← sub_two_add_one]
  simp

namespace Machine

variable {m m' m'' : Machine}

/-! ## The processor, the bus and the stack -/

theorem viewCpu_yields (f : Cpu → α) (m : Machine) : (viewCpu f).Yields m (f m.cpu) m :=
  ⟨[], rfl⟩

theorem modifyCpu_yields (f : Cpu → Cpu) (m : Machine) :
    (modifyCpu f).Yields m () ⟨f m.cpu, m.bus⟩ :=
  ⟨[], rfl⟩

theorem modifyInterrupts_yields (f : InterruptController → InterruptController) (m : Machine) :
    (modifyInterrupts f).Yields m () ⟨m.cpu, m.bus.mapInterrupts f⟩ :=
  ⟨[], rfl⟩

theorem read_yields (address : Word) (m : Machine) :
    (read address).Yields m (m.bus.read address) m :=
  ⟨[], rfl⟩

theorem write_yields (address : Word) (v : Byte) (m : Machine) :
    (write address v).Yields m () ⟨m.cpu, m.bus.write address v⟩ :=
  ⟨_, write_eq m address v⟩

/-- The machine with a word put onto the stack, the high byte first. -/
def pushed (m : Machine) (v : Word) : Machine :=
  ⟨{ m.cpu with sp := m.cpu.sp - 2 },
    (m.bus.write (m.cpu.sp - 1) (Word.high v)).write (m.cpu.sp - 2) (Word.low v)⟩

/-- The machine with a word taken from the stack. -/
def popped (m : Machine) : Machine :=
  ⟨{ m.cpu with sp := m.cpu.sp + 2 }, m.bus⟩

theorem push_yields (v : Word) (m : Machine) : (push v).Yields m () (m.pushed v) := by
  refine ⟨m.bus.writeAllEvents (m.pushWrites v), ?_⟩
  rw [push_eq, pushWrites, Word.sub_one_sub_one]
  rfl

theorem pop_yields (m : Machine) : pop.Yields m (m.bus.readWord m.cpu.sp) m.popped := by
  have hmoved : m.cpu.sp + 1 + 1 = m.cpu.sp + 2 := by
    rw [UInt16.add_assoc]
    rfl
  refine ⟨[], ?_⟩
  rw [popped, ← hmoved]
  rfl

/-! ## Handlers -/

section Handlers

variable {i : Instruction}

theorem readOperand_register16 (i : Instruction) (r : Register16) (m : Machine) :
    (readOperand i (.register16 r)).Yields m (.word (m.cpu.get16 r)) m :=
  (viewCpu_yields _ m).bind (.pure m _)

theorem readOperand_immediate16 (i : Instruction) (m : Machine) :
    (readOperand i .immediate16).Yields m (.word i.operand) m :=
  .pure m _

theorem done_yields (m : Machine) : (done i).Yields m (complete i .clear) m :=
  .pure m _

theorem load_yields {target source : Operand} {v : OperandValue}
    (hoperands : i.opcode.operands = [target, source])
    (hread : (readOperand i source).Yields m v m')
    (hwrite : (writeOperand i target v).Yields m' () m'') :
    (load i).Yields m (complete i .clear) m'' := by
  have htwo : ¬ i.opcode.operands.length = 3 := by simp [hoperands]
  rw [load, if_neg htwo]
  refine .expect (Opcode.firstOperand_of_operands hoperands) ?_
  refine .expect (Opcode.lastOperand_of_operands hoperands) ?_
  exact hread.bind (hwrite.bind (done_yields m''))

/-- The machine with a byte put into the accumulator. -/
def setAccumulator (m : Machine) (v : Byte) : Machine :=
  ⟨{ m.cpu with a := v }, m.bus⟩

theorem accumulate_yields {first source : Operand} {v : Byte}
    (op : Byte → Byte → Bool → AluResult) (keeps : Bool)
    (hoperands : i.opcode.operands = [first, source])
    (hread : (readOperand i source).Yields m (.byte v) m) :
    (accumulate i op keeps).Yields m (complete i (op m.cpu.a v m.cpu.carry).flags)
      ⟨if keeps then { m.cpu with a := (op m.cpu.a v m.cpu.carry).value } else m.cpu, m.bus⟩ := by
  refine .expect (Opcode.lastOperand_of_operands hoperands) (hread.bind (.expect rfl ?_))
  exact (viewCpu_yields _ m).bind ((modifyCpu_yields _ m).bind (.pure _ _))

theorem transform_yields {target : Operand} {v : Byte} (op : Byte → Bool → AluResult)
    (hread : (readOperand i target).Yields m (.byte v) m)
    (hwrite : (writeOperand i target (.byte (op v m.cpu.carry).value)).Yields m () m') :
    (transform i target op).Yields m (complete i (op v m.cpu.carry).flags) m' := by
  refine hread.bind (.expect rfl ?_)
  exact (viewCpu_yields _ m).bind (hwrite.bind (.pure _ _))

theorem transformAccumulator_yields (op : Cpu → AluResult) (m : Machine) :
    (transformAccumulator i op).Yields m (complete i (op m.cpu).flags)
      (m.setAccumulator (op m.cpu).value) :=
  (viewCpu_yields op m).bind ((modifyCpu_yields _ m).bind (.pure _ _))

/-- A branch jumps if its condition is met, and does nothing otherwise. -/
theorem branch_yields {jump : Action Machine Unit} {taken : Bool}
    (htaken : m.cpu.meets i.opcode.condition? = taken) (hjump : jump.Yields m () m') :
    (branch i jump).Yields m (completeBranch i taken) (if taken then m' else m) := by
  refine (viewCpu_yields _ m).bind ?_
  subst htaken
  split
  next hmet =>
    rw [hmet]
    exact hjump.bind (.pure _ _)
  next hunmet =>
    rw [Bool.not_eq_true] at hunmet
    rw [hunmet]
    exact .pure _ _

theorem jumpTo_yields (address : Word) (m : Machine) :
    (jumpTo address).Yields m () ⟨{ m.cpu with pc := address }, m.bus⟩ :=
  modifyCpu_yields _ m

end Handlers

/-! ## Steps -/

/-- The machine with its processor awake at an address. -/
def awakeAt (m : Machine) (address : Word) : Machine :=
  ⟨{ m.cpu with halted := false, pc := address }, m.bus⟩

/-- The machine at the end of an instruction that leaves the given flag byte. -/
def ended (m : Machine) (f : Byte) : Machine :=
  ⟨{ m.cpu with f := f }, m.bus.mapInterrupts .finishInstruction⟩

theorem step_yields {i : Instruction} {completion : Completion} {ticks : Nat} {f : Byte}
    (hawake : m.isIdle = false) (hfetch : m.fetch = .ok i)
    (hexecute : (execute i).Yields (m.awakeAt (m.cpu.pc + UInt16.ofNat i.opcode.bytes))
      completion m')
    (hticks : completion.ticks = ticks)
    (hflags : i.opcode.flags.resolve m'.cpu.f completion.flags = f) :
    step.Yields m ticks (m'.ended f) := by
  obtain ⟨events, hexecute⟩ := hexecute
  subst hticks hflags
  exact ⟨_, (step_of_fetch hawake hfetch).trans (run_of_execute hexecute)⟩

section Pages

variable {n : Nat} {op : Opcode} {completion : Completion} {ticks : Nat} {f : Byte}

theorem step_yields_base (hawake : m.isIdle = false)
    (hcode : (m.bus.read m.cpu.pc).toNat = n)
    (hlookup : Opcode.lookup? .base (UInt8.ofNat n) = some op)
    (hexecute : (execute ⟨op, m.operandAt op m.cpu.pc, m.cpu.pc⟩).Yields
      (m.awakeAt (m.cpu.pc + UInt16.ofNat op.bytes)) completion m')
    (hticks : completion.ticks = ticks)
    (hflags : op.flags.resolve m'.cpu.f completion.flags = f) :
    step.Yields m ticks (m'.ended f) := by
  rw [← hcode, UInt8.ofNat_toNat] at hlookup
  have hmarker : m.bus.read m.cpu.pc ≠ OpcodePage.marker := by
    intro hmarker
    have hnone := (Opcode.lookup?_base_eq_none_iff _).mpr (.inr hmarker)
    rw [hnone] at hlookup
    cases hlookup
  exact step_yields hawake (fetch_of_lookup? hmarker hlookup) hexecute hticks hflags

theorem step_yields_extended (hawake : m.isIdle = false)
    (hmarker : m.bus.read m.cpu.pc = OpcodePage.marker)
    (hcode : (m.bus.read (m.cpu.pc + 1)).toNat = n)
    (hlookup : Opcode.lookup? .extended (UInt8.ofNat n) = some op)
    (hexecute : (execute ⟨op, m.operandAt op m.cpu.pc, m.cpu.pc⟩).Yields
      (m.awakeAt (m.cpu.pc + UInt16.ofNat op.bytes)) completion m')
    (hticks : completion.ticks = ticks)
    (hflags : op.flags.resolve m'.cpu.f completion.flags = f) :
    step.Yields m ticks (m'.ended f) := by
  rw [← hcode, UInt8.ofNat_toNat] at hlookup
  have hfetch : m.fetch = .ok ⟨op, m.operandAt op m.cpu.pc, m.cpu.pc⟩ := by
    simp only [fetch, codeAt_of_marker hmarker, hlookup]
  exact step_yields hawake hfetch hexecute hticks hflags

end Pages

/-- The byte after the code of an opcode of two bytes. -/
theorem low_operandAt {op : Opcode} (hpage : op.page = .base) (hbytes : op.bytes = 2)
    (m : Machine) (address : Word) :
    Word.low (m.operandAt op address) = m.bus.read (address + 1) := by
  have hlength : op.operandLength = 1 := by
    rw [Opcode.operandLength, hpage, hbytes]
    rfl
  have hbyte := (m.bus.read (address + 1)).toNat_lt
  simp only [operandAt, hlength, hbytes]
  apply UInt8.toNat_inj.mp
  rw [Word.toNat_low, UInt16.toNat_ofNat']
  show (m.bus.read (address + 1)).toNat % 2 ^ 16 % 256 = _
  omega

theorem readOperand_immediate8 {op : Opcode} (hpage : op.page = .base) (hbytes : op.bytes = 2)
    (m m' : Machine) (address : Word) :
    (readOperand ⟨op, m.operandAt op address, address⟩ .immediate8).Yields m'
      (.byte (m.bus.read (address + 1))) m' := by
  rw [← low_operandAt hpage hbytes m address]
  exact .pure m' _

/-- The word after the code of an opcode of three bytes. -/
theorem operandAt_eq_readWord {op : Opcode} (hpage : op.page = .base) (hbytes : op.bytes = 3)
    (m : Machine) (address : Word) :
    m.operandAt op address = m.bus.readWord (address + 1) := by
  have hlength : op.operandLength = 2 := by
    rw [Opcode.operandLength, hpage, hbytes]
    rfl
  simp only [operandAt, hlength, hbytes]
  rfl

/-- A machine with the given processor, and with a program where its counter points. -/
def running (cpu : Cpu) (program : List Byte) : Machine :=
  ⟨cpu, { Bus.initial with memory := Memory.zero.writeAll cpu.pc program }⟩

end Machine

end Handheld
