import Handheld.Alu
import Handheld.Machine.Basic

/-!
# Executing instructions

What each operation does to the machine once the program counter has moved past the
instruction.  An execution yields the time it took and a proposal for the flags;
the instruction's flag specification says what becomes of the proposal.
-/

namespace Handheld

/-- What an execution yields. -/
structure Completion where
  ticks : Nat
  flags : Flags
  deriving DecidableEq

namespace Machine

variable (i : Instruction)

/-- The time of an operation that always takes the same, with proposed flags. -/
def complete (flags : Flags) : Completion :=
  ⟨i.opcode.timing.ticks true, flags⟩

/-- The time of a branch.  It proposes no flags. -/
def completeBranch (taken : Bool) : Completion :=
  ⟨i.opcode.timing.ticks taken, .clear⟩

/-- An operation that is done already and proposes no flags. -/
def done : Action Machine Completion :=
  return complete i .clear

/-! ## Loads -/

/-- Copies the last operand to the first one.  With three operands, HL becomes the
stack pointer moved by the signed operand byte. -/
def load : Action Machine Completion := do
  if i.opcode.operands.length = 3 then
    let r ← viewCpu fun cpu => Alu.addSigned cpu.sp i.immediate8
    modifyCpu (·.set16 .hl r.value)
    return complete i ⟨false, false, r.h, r.c⟩
  else
    let target ← .expect i.opcode.firstOperand
    let source ← .expect i.opcode.lastOperand
    let v ← readOperand i source
    writeOperand i target v
    done i

def pushOperand : Action Machine Completion := do
  let source ← .expect i.opcode.firstOperand
  let v ← readOperand i source
  push v.toWord
  done i

/-- Proposes the flags that stand in the flag byte after the pop. -/
def popOperand : Action Machine Completion := do
  let v ← pop
  let target ← .expect i.opcode.firstOperand
  writeOperand i target (.word v)
  let flags ← viewCpu Cpu.flags
  return complete i flags

/-! ## Arithmetic and logic -/

/-- Combines the accumulator with the last operand, and keeps the value if asked to. -/
def accumulate (op : Byte → Byte → Bool → AluResult) (keeps : Bool) :
    Action Machine Completion := do
  let source ← .expect i.opcode.lastOperand
  let v ← readOperand i source
  let v ← .expect v.toByte
  let r ← viewCpu fun cpu => op cpu.a v cpu.carry
  modifyCpu fun cpu => if keeps then { cpu with a := r.value } else cpu
  return complete i r.flags

/-- Replaces an operand by what an operation makes of it. -/
def transform (target : Operand) (op : Byte → Bool → AluResult) :
    Action Machine Completion := do
  let v ← readOperand i target
  let v ← .expect v.toByte
  let r ← viewCpu fun cpu => op v cpu.carry
  writeOperand i target (.byte r.value)
  return complete i r.flags

/-- Replaces the first operand. -/
def transformFirst (op : Byte → Bool → AluResult) : Action Machine Completion := do
  let target ← .expect i.opcode.firstOperand
  transform i target op

/-- Replaces the accumulator. -/
def transformAccumulator (op : Cpu → AluResult) : Action Machine Completion := do
  let r ← viewCpu op
  modifyCpu fun cpu => { cpu with a := r.value }
  return complete i r.flags

/-- Steps the first operand up or down.  A word register proposes no flags. -/
def stepOperand (delta : Word) (op : Byte → AluResult) : Action Machine Completion := do
  let target ← .expect i.opcode.firstOperand
  match target with
  | .register16 r =>
    modifyCpu fun cpu => cpu.set16 r (cpu.get16 r + delta)
    done i
  | target => transform i target fun v _ => op v

/-- Adds to the stack pointer, to HL, or to the accumulator. -/
def addOperand : Action Machine Completion := do
  let target ← .expect i.opcode.firstOperand
  match target with
  | .register16 .sp =>
    let r ← viewCpu fun cpu => Alu.addSigned cpu.sp i.immediate8
    modifyCpu fun cpu => { cpu with sp := r.value }
    return complete i ⟨false, false, r.h, r.c⟩
  | .register16 .hl =>
    let source ← .expect i.opcode.lastOperand
    let v ← readOperand i source
    let r ← viewCpu fun cpu => Alu.addWord (cpu.get16 .hl) v.toWord
    modifyCpu (·.set16 .hl r.value)
    return complete i ⟨false, false, r.h, r.c⟩
  | _ => accumulate i (fun a b _ => Alu.add a b false) true

def complementAccumulator : Action Machine Completion := do
  modifyCpu fun cpu => { cpu with a := ~~~cpu.a }
  done i

/-! ## Single bits -/

/-- The bit index and the operand that it applies to. -/
def bitOperands : Except Fault (Fin 8 × Operand) := do
  match ← i.opcode.firstOperand with
  | .bit index => return (index, ← i.opcode.lastOperand)
  | other => .error (.notABit i.opcode.mnemonic other)

def testBit : Action Machine Completion := do
  let (index, target) ← .expect (bitOperands i)
  let v ← readOperand i target
  let v ← .expect v.toByte
  return complete i (Alu.bit v index.val).flags

/-- The byte whose only set bit is the given one. -/
def bitMask (index : Fin 8) : Byte :=
  1 <<< UInt8.ofNat index.val

def resetBit : Action Machine Completion := do
  let (index, target) ← .expect (bitOperands i)
  transform i target fun v _ => Alu.unflagged (v &&& ~~~bitMask index)

def setBit : Action Machine Completion := do
  let (index, target) ← .expect (bitOperands i)
  transform i target fun v _ => Alu.unflagged (v ||| bitMask index)

/-! ## Jumps -/

def jumpTo (address : Word) : Action Machine Unit :=
  modifyCpu fun cpu => { cpu with pc := address }

/-- Pushes the program counter and jumps. -/
def callTo (address : Word) : Action Machine Unit := do
  let back ← viewCpu Cpu.pc
  push back
  jumpTo address

/-- Jumps to where the popped word points. -/
def returnBack : Action Machine Unit := do
  let address ← pop
  jumpTo address

/-- Performs a jump if the instruction's condition is met. -/
def branch (jump : Action Machine Unit) : Action Machine Completion := do
  let taken ← viewCpu fun cpu => cpu.meets i.opcode.condition?
  if taken then
    jump
    return completeBranch i true
  else
    return completeBranch i false

def jumpAbsolute : Action Machine Unit := do
  let source ← .expect i.opcode.lastOperand
  let v ← readOperand i source
  jumpTo v.toWord

def jumpRelative : Action Machine Unit :=
  modifyCpu fun cpu => { cpu with pc := cpu.pc.displace i.immediate8 }

def restart : Action Machine Completion := do
  let source ← .expect i.opcode.firstOperand
  let v ← readOperand i source
  callTo v.toWord
  done i

/-! ## Control -/

def returnFromInterrupt : Action Machine Completion := do
  returnBack
  modifyInterrupts .turnOn
  done i

/-- Puts the processor to sleep. -/
def sleep (event : Event) : Action Machine Completion := do
  .report fun _ => [event]
  modifyCpu fun cpu => { cpu with halted := true }
  done i

/-- Performs the operation that the instruction's mnemonic names. -/
def execute : Action Machine Completion :=
  match i.opcode.mnemonic with
  | .nop => done i
  | .ld | .ldh => load i
  | .push => pushOperand i
  | .pop => popOperand i
  | .inc => stepOperand i 1 Alu.inc
  | .dec => stepOperand i (-1) Alu.dec
  | .add => addOperand i
  | .adc => accumulate i Alu.add true
  | .sub => accumulate i (fun a b _ => Alu.sub a b false) true
  | .sbc => accumulate i Alu.sub true
  | .and => accumulate i (fun a b _ => Alu.and a b) true
  | .or => accumulate i (fun a b _ => Alu.or a b) true
  | .xor => accumulate i (fun a b _ => Alu.xor a b) true
  | .cp => accumulate i (fun a b _ => Alu.sub a b false) false
  | .rlca => transformAccumulator i fun cpu => Alu.rlc cpu.a
  | .rrca => transformAccumulator i fun cpu => Alu.rrc cpu.a
  | .rla => transformAccumulator i fun cpu => Alu.rl cpu.a cpu.carry
  | .rra => transformAccumulator i fun cpu => Alu.rr cpu.a cpu.carry
  | .daa => transformAccumulator i fun cpu => Alu.daa cpu.a cpu.flags.n cpu.flags.h cpu.flags.c
  | .cpl => complementAccumulator i
  | .scf | .ccf => done i
  | .rlc => transformFirst i fun v _ => Alu.rlc v
  | .rrc => transformFirst i fun v _ => Alu.rrc v
  | .rl => transformFirst i Alu.rl
  | .rr => transformFirst i Alu.rr
  | .sla => transformFirst i fun v _ => Alu.sla v
  | .sra => transformFirst i fun v _ => Alu.sra v
  | .swap => transformFirst i fun v _ => Alu.swap v
  | .srl => transformFirst i fun v _ => Alu.srl v
  | .bit => testBit i
  | .res => resetBit i
  | .set => setBit i
  | .jp => branch i (jumpAbsolute i)
  | .jr => branch i (jumpRelative i)
  | .call => branch i (callTo i.immediate16)
  | .ret => branch i returnBack
  | .reti => returnFromInterrupt i
  | .rst => restart i
  | .di => do
    modifyInterrupts .turnOff
    done i
  | .ei => do
    modifyInterrupts .arm
    done i
  | .halt => sleep i (.halting i.address)
  | .stop => sleep i (.stopping i.address)

end Machine

end Handheld
