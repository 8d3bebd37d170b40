import Handheld.Proofs.Machine.Yields
import Handheld.Proofs.Opcode.Fields

/-!
# Jumps, calls and returns

A branch stands in the table without a condition, or with one of four that a field selects.
For each kind of branch one statement says where the program counter goes, how long it takes
and what becomes of the stack, whether the condition is met or not.  The rest of the machine
is as before.
-/

namespace Handheld

/-- Whether the condition of a field is met.  A branch without one is always taken. -/
def Flags.meets (flags : Flags) : Option (Fin 4) → Bool
  | none => true
  | some 0 => !flags.z
  | some 1 => flags.z
  | some 2 => !flags.c
  | some 3 => flags.c

/-! ## Displacements -/

namespace Word

theorem ofInt_natCast {n : Nat} (h : n < UInt16.size) : UInt16.ofInt n = UInt16.ofNat n := by
  have hmod : ((n : Int) % 2 ^ 16).toNat = n := by
    simp only [UInt16.size] at h
    omega
  rw [UInt16.ofInt, hmod]

/-- Displacing a word adds the signed byte to it. -/
theorem displace_eq_add (w : Word) (offset : Byte) :
    w.displace offset = w + UInt16.ofInt offset.toSigned := by
  have hoffset := offset.toNat_lt
  unfold displace Byte.toSigned
  split
  · rw [ofInt_natCast (by simp only [UInt16.size]; omega)]
  · have hneg : (offset.toNat : Int) - 256 = -((256 - offset.toNat : Nat) : Int) := by omega
    rw [hneg, UInt16.ofInt_neg, ofInt_natCast (by simp only [UInt16.size]; omega),
      UInt16.sub_eq_add_neg]

end Word

namespace Machine

open Opcode

variable {m : Machine}

/-! ## What the branches do -/

/-- What a step does, by the branch at the program counter. -/
structure KeepsToBranches (m : Machine) : Prop where
  jumpRelative : ∀ cc, (m.bus.read m.cpu.pc).toNat = branchCode 0x18 0x20 cc →
    step.Yields m (if m.cpu.flags.meets cc then 12 else 8)
      ((if m.cpu.flags.meets cc
        then m.awakeAt (m.cpu.pc + 2 + UInt16.ofInt (m.bus.read (m.cpu.pc + 1)).toSigned)
        else m.awakeAt (m.cpu.pc + 2)).ended (m.cpu.f &&& 0xF0))
  jumpAbsolute : ∀ cc, (m.bus.read m.cpu.pc).toNat = branchCode 0xC3 0xC2 cc →
    step.Yields m (if m.cpu.flags.meets cc then 16 else 12)
      ((if m.cpu.flags.meets cc then m.awakeAt (m.bus.readWord (m.cpu.pc + 1))
        else m.awakeAt (m.cpu.pc + 3)).ended (m.cpu.f &&& 0xF0))
  jumpToHL : (m.bus.read m.cpu.pc).toNat = 0xE9 →
    step.Yields m 4 ((m.awakeAt (m.cpu.get16 .hl)).ended (m.cpu.f &&& 0xF0))
  call : ∀ cc, (m.bus.read m.cpu.pc).toNat = branchCode 0xCD 0xC4 cc →
    step.Yields m (if m.cpu.flags.meets cc then 24 else 12)
      ((if m.cpu.flags.meets cc
        then (m.awakeAt (m.bus.readWord (m.cpu.pc + 1))).pushed (m.cpu.pc + 3)
        else m.awakeAt (m.cpu.pc + 3)).ended (m.cpu.f &&& 0xF0))
  restart : ∀ y : Fin 8, (m.bus.read m.cpu.pc).toNat = 0xC7 + 8 * y.val →
    step.Yields m 16
      (((m.awakeAt (UInt16.ofNat (8 * y.val))).pushed (m.cpu.pc + 1)).ended (m.cpu.f &&& 0xF0))
  ret : ∀ cc, (m.bus.read m.cpu.pc).toNat = branchCode 0xC9 0xC0 cc →
    step.Yields m
      (if m.cpu.flags.meets cc then (if cc = none then 16 else 20) else 8)
      ((if m.cpu.flags.meets cc then (m.awakeAt (m.bus.readWord m.cpu.sp)).popped
        else m.awakeAt (m.cpu.pc + 1)).ended (m.cpu.f &&& 0xF0))
  /-- The master switch is on at once, also if it was off and whatever was pending. -/
  returnFromInterrupt : (m.bus.read m.cpu.pc).toNat = 0xD9 →
    step.Yields m 16
      ⟨{ m.cpu with
          halted := false, pc := m.bus.readWord m.cpu.sp, sp := m.cpu.sp + 2,
          f := m.cpu.f &&& 0xF0 },
        m.bus.mapInterrupts fun ic => { ic with master := true, delay? := none }⟩

/-! ## Entries of branches -/

section Entries

variable (mnemonic : Mnemonic) (bytes plain taken untaken : Nat) (operands : List Operand)
  (cc : Option (Fin 4))

@[simp] theorem mnemonic_branchEntry :
    (branchEntry mnemonic bytes plain taken untaken operands cc).mnemonic = mnemonic := by
  cases cc <;> rfl

@[simp] theorem page_branchEntry :
    (branchEntry mnemonic bytes plain taken untaken operands cc).page = .base := by
  cases cc <;> rfl

@[simp] theorem bytes_branchEntry :
    (branchEntry mnemonic bytes plain taken untaken operands cc).bytes = bytes := by
  cases cc <;> rfl

@[simp] theorem flags_branchEntry :
    (branchEntry mnemonic bytes plain taken untaken operands cc).flags = untouched := by
  cases cc <;> rfl

theorem ticks_branchEntry (flags : Flags) :
    (branchEntry mnemonic bytes plain taken untaken operands cc).timing.ticks (flags.meets cc) =
      if flags.meets cc then (if cc = none then plain else taken) else untaken := by
  cases cc <;> rfl

/-- The operand of a branch of three bytes. -/
theorem operandAt_branchEntry (m : Machine) (address : Word) :
    m.operandAt (branchEntry mnemonic 3 plain taken untaken operands cc) address =
      m.bus.readWord (address + 1) :=
  operandAt_eq_readWord (page_branchEntry ..) (bytes_branchEntry ..) m address

variable {mnemonic bytes plain taken untaken operands}

/-- The condition of an entry is the one of its field. -/
theorem meets_branchEntry (cpu : Cpu)
    (hplain : (branchEntry mnemonic bytes plain taken untaken operands none).condition? = none) :
    cpu.meets (branchEntry mnemonic bytes plain taken untaken operands cc).condition? =
      cpu.flags.meets cc := by
  cases cc with
  | none => rw [hplain]; rfl
  | some c =>
    match c with
    | 0 | 1 | 2 | 3 => rfl

end Entries

/-! ## Execution -/

theorem callTo_yields (address : Word) (m : Machine) :
    (callTo address).Yields m ()
      ⟨{ (m.pushed m.cpu.pc).cpu with pc := address }, (m.pushed m.cpu.pc).bus⟩ :=
  (viewCpu_yields _ m).bind ((push_yields _ m).bind (jumpTo_yields _ _))

theorem returnBack_yields (m : Machine) :
    returnBack.Yields m ()
      ⟨{ m.popped.cpu with pc := m.bus.readWord m.cpu.sp }, m.popped.bus⟩ :=
  (pop_yields m).bind (jumpTo_yields _ _)

section Branch

variable {mnemonic : Mnemonic} {n bytes plain taken untaken ticks : Nat}
  {operands : List Operand} {cc : Option (Fin 4)} {op : Opcode} {m' : Machine}
  {jump : Instruction → Action Machine Unit}

/-- A step at a branch jumps if the condition is met, and else goes to what follows. -/
theorem step_yields_branch (hawake : m.isIdle = false)
    (hcode : (m.bus.read m.cpu.pc).toNat = n)
    (hlookup : lookup? .base (UInt8.ofNat n) = some op)
    (hop : op = branchEntry mnemonic bytes plain taken untaken operands cc)
    (hplain : (branchEntry mnemonic bytes plain taken untaken operands none).condition? = none)
    (hexecute : ∀ i : Instruction, i.opcode.mnemonic = mnemonic → execute i = branch i (jump i))
    (hjump : (jump ⟨op, m.operandAt op m.cpu.pc, m.cpu.pc⟩).Yields
      (m.awakeAt (m.cpu.pc + UInt16.ofNat bytes)) () m')
    (hf : m'.cpu.f = m.cpu.f)
    (hticks : (if m.cpu.flags.meets cc then (if cc = none then plain else taken) else untaken) =
      ticks) :
    step.Yields m ticks
      ((if m.cpu.flags.meets cc then m' else m.awakeAt (m.cpu.pc + UInt16.ofNat bytes)).ended
        (m.cpu.f &&& 0xF0)) := by
  -- The entry is one of two shapes, so what the step reads off it is stated before it is used.
  have hmnemonic : op.mnemonic = mnemonic := by rw [hop, mnemonic_branchEntry]
  have hbytes : op.bytes = bytes := by rw [hop, bytes_branchEntry]
  have hflags : op.flags = untouched := by rw [hop, flags_branchEntry]
  have hmet : m.cpu.meets op.condition? = m.cpu.flags.meets cc := by
    rw [hop, meets_branchEntry cc _ hplain]
  have hrun := branch_yields (i := ⟨op, m.operandAt op m.cpu.pc, m.cpu.pc⟩)
    (m := m.awakeAt (m.cpu.pc + UInt16.ofNat bytes)) hmet hjump
  rw [← hexecute ⟨op, m.operandAt op m.cpu.pc, m.cpu.pc⟩ hmnemonic, ← hbytes] at hrun
  rw [← hbytes]
  refine step_yields_base hawake hcode hlookup hrun ?_ ?_
  · rw [← hticks, ← ticks_branchEntry mnemonic bytes plain taken untaken operands cc, ← hop]
    rfl
  · rw [hflags, resolve_untouched]
    split
    · rw [hf]
    · rfl

end Branch

theorem jumpRelative_yields {op : Opcode} (hpage : op.page = .base) (hbytes : op.bytes = 2)
    (m : Machine) (address : Word) :
    (jumpRelative ⟨op, m.operandAt op address, address⟩).Yields (m.awakeAt (address + 2)) ()
      (m.awakeAt (address + 2 + UInt16.ofInt (m.bus.read (address + 1)).toSigned)) := by
  rw [← low_operandAt hpage hbytes m address, ← Word.displace_eq_add]
  exact modifyCpu_yields _ _

theorem jumpAbsolute_yields {i : Instruction} {source : Operand} {v : OperandValue}
    (hlast : i.opcode.lastOperand = .ok source) (hread : (readOperand i source).Yields m v m) :
    (jumpAbsolute i).Yields m () ⟨{ m.cpu with pc := v.toWord }, m.bus⟩ :=
  .expect hlast (hread.bind (jumpTo_yields _ m))

theorem restart_yields {i : Instruction} {v : Byte} (hoperands : i.opcode.operands = [.vector v])
    (m : Machine) :
    (restart i).Yields m (complete i .clear)
      ⟨{ (m.pushed m.cpu.pc).cpu with pc := UInt16.ofNat v.toNat }, (m.pushed m.cpu.pc).bus⟩ := by
  refine .expect (Opcode.firstOperand_of_operands hoperands) ((Action.Yields.pure m _).bind ?_)
  exact (callTo_yields _ m).bind (done_yields _)

theorem returnFromInterrupt_yields (i : Instruction) (m : Machine) :
    (returnFromInterrupt i).Yields m (complete i .clear)
      ⟨{ m.popped.cpu with pc := m.bus.readWord m.cpu.sp },
        m.bus.mapInterrupts .turnOn⟩ :=
  (returnBack_yields m).bind ((modifyInterrupts_yields _ _).bind (done_yields _))

/-! ## The steps -/

/-- A processor that does not sleep on takes every branch whose condition is met, and only
those. -/
theorem keepsToBranches_of_awake (hawake : m.isIdle = false) : m.KeepsToBranches where
  jumpRelative cc hcode :=
    step_yields_branch hawake hcode (lookup?_jumpRelative cc) rfl rfl
      (fun i hi => by rw [execute, hi])
      (jumpRelative_yields (page_branchEntry ..) (bytes_branchEntry ..) m _) rfl
      (by rw [ite_self])
  jumpAbsolute cc hcode := by
    rw [← operandAt_branchEntry .jp 16 16 12 [.immediate16] cc]
    have hlast : (branchEntry .jp 3 16 16 12 [.immediate16] cc).lastOperand =
        .ok .immediate16 := by
      cases cc <;> rfl
    exact step_yields_branch hawake hcode (lookup?_jumpAbsolute cc) rfl rfl
      (fun i hi => by rw [execute, hi]) (jumpAbsolute_yields hlast (readOperand_immediate16 _ _)) rfl
      (by rw [ite_self])
  jumpToHL hcode :=
    step_yields_branch hawake hcode lookup?_jumpToHL rfl rfl (fun i hi => by rw [execute, hi])
      (jumpAbsolute_yields rfl (readOperand_register16 _ .hl _)) rfl rfl
  call cc hcode := by
    rw [← operandAt_branchEntry .call 24 24 12 [.immediate16] cc]
    exact step_yields_branch hawake hcode (lookup?_call cc) rfl rfl
      (fun i hi => by rw [execute, hi]) (callTo_yields _ _) rfl (by rw [ite_self])
  restart y hcode := by
    have htarget : UInt16.ofNat (UInt8.ofNat (8 * y.val)).toNat = UInt16.ofNat (8 * y.val) := by
      have hy := y.isLt
      rw [UInt8.toNat_ofNat_of_lt' (by simp only [UInt8.size]; omega)]
    rw [← htarget]
    exact step_yields_base hawake hcode (lookup?_restart y) (restart_yields rfl _) rfl
      (resolve_untouched _ _)
  ret cc hcode :=
    step_yields_branch hawake hcode (lookup?_return cc) rfl rfl (fun i hi => by rw [execute, hi])
      (returnBack_yields _) rfl rfl
  returnFromInterrupt hcode :=
    step_yields_base hawake hcode lookup?_returnFromInterrupt (returnFromInterrupt_yields _ _) rfl
      (resolve_untouched _ _)

/-- A machine that is to call 0x1234 if Z is clear.  The low byte of the return address goes to
the interrupt enable register. -/
def callingUnlessZero (f : Byte) : Machine :=
  running { Cpu.initial with f, sp := 0x0001 } [0xC4, 0x34, 0x12]

theorem keepsToBranches_of_callingUnlessZero :
    ((callingUnlessZero 0x00).isIdle = false ∧
        ((callingUnlessZero 0x00).bus.read 0x0100).toNat = branchCode 0xCD 0xC4 (some 0) ∧
        step.Yields (callingUnlessZero 0x00) 24
          ((((callingUnlessZero 0x00).awakeAt 0x1234).pushed 0x0103).ended 0x00)) ∧
      (callingUnlessZero 0x80).isIdle = false ∧
        ((callingUnlessZero 0x80).bus.read 0x0100).toNat = branchCode 0xCD 0xC4 (some 0) ∧
        step.Yields (callingUnlessZero 0x80) 12
          (((callingUnlessZero 0x80).awakeAt 0x0103).ended 0x80) := by
  have hawake : (callingUnlessZero 0x00).isIdle = false := by decide +kernel
  have hcode : ((callingUnlessZero 0x00).bus.read 0x0100).toNat =
      branchCode 0xCD 0xC4 (some 0) := by decide +kernel
  have htarget : (callingUnlessZero 0x00).bus.readWord 0x0101 = 0x1234 := by decide +kernel
  have hawake' : (callingUnlessZero 0x80).isIdle = false := by decide +kernel
  have hcode' : ((callingUnlessZero 0x80).bus.read 0x0100).toNat =
      branchCode 0xCD 0xC4 (some 0) := by decide +kernel
  have htaken := (keepsToBranches_of_awake hawake).call (some 0) hcode
  have huntaken := (keepsToBranches_of_awake hawake').call (some 0) hcode'
  refine ⟨⟨hawake, hcode, ?_⟩, hawake', hcode', huntaken⟩
  rw [← htarget]
  exact htaken

end Machine

end Handheld
