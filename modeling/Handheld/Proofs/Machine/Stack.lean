import Handheld.Proofs.Bus.View
import Handheld.Proofs.Machine.WordInstructions

/-!
# Words that come back from the stack

A word that is pushed and then popped comes back as its two addresses read back, and the stack
pointer is where it was, also where the stack goes around the end of the address space.  If the
two cells are plain, the word comes back as it went.  So a push and the pop after it leave the
register as it was, and a call whose target returns goes on after the call.  Of all this nothing
is left but the two bytes below the top of the stack.
-/

namespace Handheld

/-- The flags are in the upper half of the byte. -/
theorem Flags.ofByte_upper (f : Byte) : Flags.ofByte (f &&& 0xF0) = Flags.ofByte f := by
  rw [← Flags.toByte_ofByte, Flags.ofByte_toByte]

namespace Machine

open Opcode

variable {m : Machine}

/-! ## Pushing and popping -/

theorem read_pushed_of_ne {a : Word} (hhigh : a ≠ m.cpu.sp - 1) (hlow : a ≠ m.cpu.sp - 2)
    (v : Word) : (m.pushed v).bus.read a = m.bus.read a := by
  rw [pushed, Bus.read_write_of_ne _ _ hlow, Bus.read_write_of_ne _ _ hhigh]

/-- The word below the top of the stack after a push. -/
theorem readWord_pushed (m : Machine) (v : Word) :
    (m.pushed v).bus.readWord (m.cpu.sp - 2) =
      Word.ofBytes (Bus.readBack (m.cpu.sp - 1) (Word.high v))
        (Bus.readBack (m.cpu.sp - 2) (Word.low v)) := by
  rw [Bus.readWord, Word.sub_two_add_one, pushed,
    Bus.read_write_of_ne _ _ (Word.sub_one_ne_sub_two _), Bus.read_write_self,
    Bus.read_write_self]

theorem popped_pushed (m : Machine) (v : Word) :
    (m.pushed v).popped = ⟨m.cpu, (m.pushed v).bus⟩ := by
  rw [popped, pushed, UInt16.sub_add_cancel]

theorem push_pop_yields (m : Machine) (v : Word) :
    (do push v; pop : Action Machine Word).Yields m
      (Word.ofBytes (Bus.readBack (m.cpu.sp - 1) (Word.high v))
        (Bus.readBack (m.cpu.sp - 2) (Word.low v)))
      ⟨m.cpu, (m.pushed v).bus⟩ := by
  rw [← readWord_pushed, ← popped_pushed]
  exact (push_yields v m).bind (pop_yields _)

/-! ## Plain stacks -/

/-- The two cells below the top of the stack are plain. -/
structure HasPlainStack (m : Machine) : Prop where
  high : Bus.IsPlain (m.cpu.sp - 1)
  low : Bus.IsPlain (m.cpu.sp - 2)

/-- The address is none of the two below the top of the stack. -/
def IsOffStack (m : Machine) (a : Word) : Prop :=
  a ≠ m.cpu.sp - 1 ∧ a ≠ m.cpu.sp - 2

/-- The machine after an instruction that pushes a word and goes on at an address. -/
def stackedAt (m : Machine) (v a : Word) : Machine :=
  ((m.awakeAt a).pushed v).ended (m.cpu.f &&& 0xF0)

/-- The machine after one more instruction, which has taken the word from the stack again and
goes on at an address.  The registers are as before, but for the lower half of the flag byte.
The two bytes remain in memory. -/
def unstackedAt (m : Machine) (v a : Word) : Machine :=
  ⟨{ m.cpu with halted := false, pc := a, f := m.cpu.f &&& 0xF0 },
    { m.bus with
      memory := (m.bus.memory.write (m.cpu.sp - 1) (Word.high v)).write (m.cpu.sp - 2) (Word.low v)
      interrupts := m.bus.interrupts.finishInstruction.finishInstruction }⟩

theorem read_ended (m : Machine) (f : Byte) (a : Word) : (m.ended f).bus.read a = m.bus.read a :=
  Bus.read_mapInterrupts _ InterruptController.bytes_finishInstruction a

theorem read_stackedAt (v a : Word) {b : Word} (hb : m.IsOffStack b) :
    (m.stackedAt v a).bus.read b = m.bus.read b :=
  (read_ended _ _ b).trans (read_pushed_of_ne (m := m.awakeAt a) hb.1 hb.2 v)

theorem flags_stackedAt (m : Machine) (v a : Word) :
    (m.stackedAt v a).cpu.flags = m.cpu.flags :=
  Flags.ofByte_upper _

/-- The pairs still have their words when one of them is taken from the stack again. -/
theorem get16_popped_stackedAt (m : Machine) (v a b : Word) (p : Fin 4) :
    Cpu.get16 { ((m.stackedAt v a).awakeAt b).popped.cpu with f := m.cpu.f } (.ofStackField p) =
      m.cpu.get16 (.ofStackField p) := by
  match p with
  | 0 | 1 | 2 | 3 => rfl

/-- The flag byte that the word of AF brings back is the one that was there. -/
theorem upper_of_stackField (cpu : Cpu) (p : Fin 4) :
    (if p = 3 then Word.low (cpu.get16 (.ofStackField p)) else cpu.f &&& 0xF0) &&& 0xF0 =
      cpu.f &&& 0xF0 := by
  split
  next haf =>
    rw [haf]
    exact congrArg (· &&& 0xF0) cpu.low_get16_af
  next => exact UInt8.and_assoc _ _ _

/-- A register that gets its own word again is as before, whatever flag byte was in the word of
AF: the end of the instruction sets the flags. -/
theorem setWord_get16_ended (m : Machine) (p : Fin 4) (f g : Byte) :
    (m.setWord (.ofStackField p) (Cpu.get16 { m.cpu with f := g } (.ofStackField p))).ended f =
      m.ended f := by
  match p with
  | 0 | 1 | 2 => simp [setWord, Register16.ofStackField]
  | 3 =>
      simp only [setWord, Register16.ofStackField, Cpu.high_get16_af]
      rfl

/-! ## The steps that push or pop -/

section Steps

variable (hawake : m.isIdle = false)
include hawake

theorem step_of_push {p : Fin 4} (hcode : (m.bus.read m.cpu.pc).toNat = 0xC5 + 16 * p.val) :
    step.Yields m 16 (m.stackedAt (m.cpu.get16 (.ofStackField p)) (m.cpu.pc + 1)) := by
  rw [get16_eq_word, ← word_awakeAt m (m.cpu.pc + 1)]
  exact step_yields_base hawake hcode (lookup?_push p) (pushOperand_yields rfl) rfl
    (resolve_untouched _ _)

theorem step_of_pop {p : Fin 4} (hcode : (m.bus.read m.cpu.pc).toNat = 0xC1 + 16 * p.val) :
    step.Yields m 12
      (((m.awakeAt (m.cpu.pc + 1)).popped.setWord (.ofStackField p)
        (m.bus.readWord m.cpu.sp)).ended
          ((if p = 3 then Word.low (m.bus.readWord m.cpu.sp) else m.cpu.f) &&& 0xF0)) :=
  step_yields_base hawake hcode (lookup?_pop p) (popOperand_yields rfl) rfl (resolve_pop p _ _)

theorem step_of_restart {y : Fin 8} (hcode : (m.bus.read m.cpu.pc).toNat = 0xC7 + 8 * y.val) :
    step.Yields m 16 (m.stackedAt (m.cpu.pc + 1) (UInt16.ofNat (8 * y.val))) := by
  have htarget : (UInt8.ofNat (8 * y.val)).toNat = 8 * y.val := by
    have hy := y.isLt
    exact UInt8.toNat_ofNat_of_lt' (by simp only [UInt8.size]; omega)
  rw [← htarget]
  exact step_yields_base hawake hcode (lookup?_restart y) (restart_yields rfl _) rfl
    (resolve_untouched _ _)

variable {cc : Option (Fin 4)} (hmet : m.cpu.flags.meets cc = true)
include hmet

theorem step_of_call (hcode : (m.bus.read m.cpu.pc).toNat = branchCode 0xCD 0xC4 cc) :
    step.Yields m 24 (m.stackedAt (m.cpu.pc + 3) (m.bus.readWord (m.cpu.pc + 1))) := by
  -- The handler is named first: nothing else tells what the branch does when it is taken.
  have hexecute : ∀ i : Instruction, i.opcode.mnemonic = .call →
      execute i = branch i (callTo i.immediate16) := fun i hi => by rw [execute, hi]
  have hstep := step_yields_branch hawake hcode (lookup?_call cc) rfl rfl hexecute
    (callTo_yields _ _) rfl rfl
  rw [hmet, if_pos rfl, if_pos rfl, ite_self] at hstep
  rw [← operandAt_branchEntry .call 24 24 12 [.immediate16] cc]
  exact hstep

theorem step_of_return (hcode : (m.bus.read m.cpu.pc).toNat = branchCode 0xC9 0xC0 cc) :
    step.Yields m (if cc = none then 16 else 20)
      ((m.awakeAt (m.bus.readWord m.cpu.sp)).popped.ended (m.cpu.f &&& 0xF0)) := by
  have hexecute : ∀ i : Instruction, i.opcode.mnemonic = .ret → execute i = branch i returnBack :=
    fun i hi => by rw [execute, hi]
  have hstep := step_yields_branch hawake hcode (lookup?_return cc) rfl rfl hexecute
    (returnBack_yields _) rfl rfl
  rw [hmet, if_pos rfl, if_pos rfl] at hstep
  exact hstep

end Steps

/-! ## Steps on a plain stack -/

namespace HasPlainStack

variable (h : m.HasPlainStack) (v a b : Word)
include h

theorem bus_pushed :
    (m.pushed v).bus =
      { m.bus with
        memory := (m.bus.memory.write (m.cpu.sp - 1) (Word.high v)).write (m.cpu.sp - 2)
          (Word.low v) } := by
  rw [pushed, Bus.write_of_isPlain h.high, Bus.write_of_isPlain h.low]

theorem readWord_stackedAt :
    (m.stackedAt v a).bus.readWord (m.stackedAt v a).cpu.sp = v := by
  have hback : ((m.awakeAt a).pushed v).bus.readWord (m.cpu.sp - 2) =
      Word.ofBytes (Bus.readBack (m.cpu.sp - 1) (Word.high v))
        (Bus.readBack (m.cpu.sp - 2) (Word.low v)) := readWord_pushed _ v
  rw [Bus.readBack_of_isPlain h.high, Bus.readBack_of_isPlain h.low, Word.ofBytes_high_low]
    at hback
  rw [Bus.readWord, stackedAt, read_ended, read_ended]
  exact hback

/-- Taking the word off again leaves the stack pointer where it was. -/
theorem popped_stackedAt :
    ((m.stackedAt v a).awakeAt b).popped.ended (m.cpu.f &&& 0xF0) = m.unstackedAt v b := by
  have hstack : m.cpu.sp - 2 + 2 = m.cpu.sp := UInt16.sub_add_cancel _ _
  show (⟨{ m.cpu with halted := false, pc := b, sp := m.cpu.sp - 2 + 2, f := m.cpu.f &&& 0xF0 },
    ((m.pushed v).bus.mapInterrupts .finishInstruction).mapInterrupts .finishInstruction⟩ :
      Machine) = _
  rw [hstack, h.bus_pushed]
  rfl

/-- A pop takes the word that was pushed, and leaves the register that it came from. -/
theorem pop_of_stackedAt {p : Fin 4} (hv : m.cpu.get16 (.ofStackField p) = v)
    (hcode : (m.bus.read a).toNat = 0xC1 + 16 * p.val) (hoff : m.IsOffStack a) :
    step.Yields (m.stackedAt v a) 12 (m.unstackedAt v (a + 1)) := by
  rw [← read_stackedAt v a hoff] at hcode
  have hflags : (if p = 3 then Word.low v else (m.stackedAt v a).cpu.f) &&& 0xF0 =
      m.cpu.f &&& 0xF0 := hv ▸ upper_of_stackField m.cpu p
  have hrestored := setWord_get16_ended ((m.stackedAt v a).awakeAt (a + 1)).popped p
    (m.cpu.f &&& 0xF0) m.cpu.f
  rw [get16_popped_stackedAt, hv, h.popped_stackedAt] at hrestored
  have hpop := step_of_pop (m := m.stackedAt v a) rfl hcode
  rw [h.readWord_stackedAt, hflags] at hpop
  rw [← hrestored]
  exact hpop

/-- A return takes the word that was pushed. -/
theorem return_of_stackedAt {cc : Option (Fin 4)} (hmet : m.cpu.flags.meets cc = true)
    (hcode : (m.bus.read a).toNat = branchCode 0xC9 0xC0 cc) (hoff : m.IsOffStack a) :
    step.Yields (m.stackedAt v a) (if cc = none then 16 else 20) (m.unstackedAt v v) := by
  rw [← read_stackedAt v a hoff] at hcode
  rw [← flags_stackedAt m v a] at hmet
  have hupper : (m.stackedAt v a).cpu.f &&& 0xF0 = m.cpu.f &&& 0xF0 := UInt8.and_assoc _ _ _
  have hreturn := step_of_return (m := m.stackedAt v a) rfl hmet hcode
  rw [h.readWord_stackedAt, hupper, h.popped_stackedAt] at hreturn
  exact hreturn

end HasPlainStack

/-! ## The law -/

/-- What two steps do, the second of which takes from the stack what the first one has put
there.  No code of the second step lies in the two cells. -/
structure ReturnsFromStack (m : Machine) : Prop where
  register : ∀ p : Fin 4, (m.bus.read m.cpu.pc).toNat = 0xC5 + 16 * p.val →
    (m.bus.read (m.cpu.pc + 1)).toNat = 0xC1 + 16 * p.val → m.IsOffStack (m.cpu.pc + 1) →
    ∃ m', step.Yields m 16 m' ∧
      step.Yields m' 12 (m.unstackedAt (m.cpu.get16 (.ofStackField p)) (m.cpu.pc + 2))
  /-- Either instruction may have a condition, if it is met. -/
  call : ∀ cc cc', (m.bus.read m.cpu.pc).toNat = branchCode 0xCD 0xC4 cc →
    m.cpu.flags.meets cc = true →
    (m.bus.read (m.bus.readWord (m.cpu.pc + 1))).toNat = branchCode 0xC9 0xC0 cc' →
    m.cpu.flags.meets cc' = true → m.IsOffStack (m.bus.readWord (m.cpu.pc + 1)) →
    ∃ m', step.Yields m 24 m' ∧ m'.cpu.pc = m.bus.readWord (m.cpu.pc + 1) ∧
      step.Yields m' (if cc' = none then 16 else 20)
        (m.unstackedAt (m.cpu.pc + 3) (m.cpu.pc + 3))
  restart : ∀ (y : Fin 8) (cc : Option (Fin 4)),
    (m.bus.read m.cpu.pc).toNat = 0xC7 + 8 * y.val →
    (m.bus.read (UInt16.ofNat (8 * y.val))).toNat = branchCode 0xC9 0xC0 cc →
    m.cpu.flags.meets cc = true → m.IsOffStack (UInt16.ofNat (8 * y.val)) →
    ∃ m', step.Yields m 16 m' ∧ m'.cpu.pc = UInt16.ofNat (8 * y.val) ∧
      step.Yields m' (if cc = none then 16 else 20)
        (m.unstackedAt (m.cpu.pc + 1) (m.cpu.pc + 1))

/-- A word that is pushed and popped comes back with each byte as its address reads back, and
the processor is as before, wherever the stack is.  If the two cells below the top of the stack
are plain, then a push and the pop of the same register leave the registers as they were, and a
call or a restart whose target is a return goes on after itself with the stack pointer as it
was; in either case the flag byte has its lower half cleared, as by every instruction. -/
theorem words_come_back_from_stack (m : Machine) :
    (∀ v : Word,
      (do push v; pop : Action Machine Word).Yields m
        (Word.ofBytes (Bus.readBack (m.cpu.sp - 1) (Word.high v))
          (Bus.readBack (m.cpu.sp - 2) (Word.low v)))
        ⟨m.cpu, (m.bus.write (m.cpu.sp - 1) (Word.high v)).write (m.cpu.sp - 2) (Word.low v)⟩) ∧
    (m.isIdle = false → m.HasPlainStack → m.ReturnsFromStack) := by
  refine ⟨push_pop_yields m, ?_⟩
  intro hawake hplain
  -- The first step is awake because the machine is, the second one because a step wakes it.
  constructor
  · intro p hpush hpop hoff
    have hnext : m.cpu.pc + 1 + 1 = m.cpu.pc + 2 := UInt16.add_assoc _ _ _
    have hsecond := hplain.pop_of_stackedAt _ _ rfl hpop hoff
    rw [hnext] at hsecond
    exact ⟨_, step_of_push hawake hpush, hsecond⟩
  · intro cc cc' hcall hmet hreturn hmet' hoff
    exact ⟨_, step_of_call hawake hmet hcall, rfl,
      hplain.return_of_stackedAt _ _ hmet' hreturn hoff⟩
  · intro y cc hrestart hreturn hmet hoff
    exact ⟨_, step_of_restart hawake hrestart, rfl,
      hplain.return_of_stackedAt _ _ hmet hreturn hoff⟩

/-- A machine that is about to push AF and to pop it, to call a return if Z is set, or to restart
where a return stands that asks for Z, by where its program counter is.  Z is set, and so are
all bits of the flag byte that are not flags. -/
def visiting (pc : Word) : Machine :=
  let m := running { Cpu.initial with f := 0xBF } [0xF5, 0xF1, 0xCC, 0x06, 0x01, 0xFF, 0xC9]
  ⟨{ m.cpu with pc }, m.bus.write 0x0038 0xC8⟩

theorem hasPlainStack_visiting (pc : Word) : (visiting pc).HasPlainStack where
  high := by
    show Bus.IsPlain (0xFFFE - 1)
    exact ⟨Bus.not_isHidden_iff.mpr (by decide), by decide⟩
  low := by
    show Bus.IsPlain (0xFFFE - 2)
    exact ⟨Bus.not_isHidden_iff.mpr (by decide), by decide⟩

theorem words_come_back_of_visiting :
    ((visiting 0x0100).isIdle = false ∧ (visiting 0x0100).HasPlainStack ∧
      ∃ m', step.Yields (visiting 0x0100) 16 m' ∧
        step.Yields m' 12 ((visiting 0x0100).unstackedAt 0x01BF 0x0102)) ∧
    ((visiting 0x0102).isIdle = false ∧ (visiting 0x0102).HasPlainStack ∧
      ∃ m', step.Yields (visiting 0x0102) 24 m' ∧ m'.cpu.pc = 0x0106 ∧
        step.Yields m' 16 ((visiting 0x0102).unstackedAt 0x0105 0x0105)) ∧
    (visiting 0x0105).isIdle = false ∧ (visiting 0x0105).HasPlainStack ∧
      ∃ m', step.Yields (visiting 0x0105) 16 m' ∧ m'.cpu.pc = 0x0038 ∧
        step.Yields m' 20 ((visiting 0x0105).unstackedAt 0x0106 0x0106) := by
  refine ⟨?register, ?call, ?restart⟩
  case register =>
    have hawake : (visiting 0x0100).isIdle = false := by decide +kernel
    have hpush : ((visiting 0x0100).bus.read 0x0100).toNat = 0xC5 + 16 * 3 := by decide +kernel
    have hpop : ((visiting 0x0100).bus.read 0x0101).toNat = 0xC1 + 16 * 3 := by decide +kernel
    have hplain := hasPlainStack_visiting 0x0100
    exact ⟨hawake, hplain, ((words_come_back_from_stack _).2 hawake hplain).register 3 hpush hpop
      ⟨by decide, by decide⟩⟩
  case call =>
    have hawake : (visiting 0x0102).isIdle = false := by decide +kernel
    have hcall : ((visiting 0x0102).bus.read 0x0102).toNat = branchCode 0xCD 0xC4 (some 1) := by
      decide +kernel
    have htarget : (visiting 0x0102).bus.readWord 0x0103 = 0x0106 := by decide +kernel
    have hreturn : ((visiting 0x0102).bus.read 0x0106).toNat = branchCode 0xC9 0xC0 none := by
      decide +kernel
    have hmet : (visiting 0x0102).cpu.flags.meets (some 1) = true := by decide +kernel
    have hplain := hasPlainStack_visiting 0x0102
    have hreturns := ((words_come_back_from_stack _).2 hawake hplain).call (some 1) none hcall hmet
    rw [show (visiting 0x0102).cpu.pc + 1 = 0x0103 from rfl, htarget] at hreturns
    exact ⟨hawake, hplain, hreturns hreturn rfl ⟨by decide, by decide⟩⟩
  case restart =>
    have hawake : (visiting 0x0105).isIdle = false := by decide +kernel
    have hrestart : ((visiting 0x0105).bus.read 0x0105).toNat = 0xC7 + 8 * 7 := by decide +kernel
    have hreturn : ((visiting 0x0105).bus.read 0x0038).toNat = branchCode 0xC9 0xC0 (some 1) := by
      decide +kernel
    have hmet : (visiting 0x0105).cpu.flags.meets (some 1) = true := by decide +kernel
    have hplain := hasPlainStack_visiting 0x0105
    exact ⟨hawake, hplain, ((words_come_back_from_stack _).2 hawake hplain).restart 7 (some 1)
      hrestart hreturn hmet ⟨by decide, by decide⟩⟩

end Machine

end Handheld
