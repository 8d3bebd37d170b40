import Handheld.Action

/-!
# The machine

A processor and the bus that it works on, with the actions that instructions are
made of.
-/

namespace Handheld

structure Machine where
  cpu : Cpu
  bus : Bus
  deriving DecidableEq

/-! ## What the bus reports -/

namespace Bus

def writeEvents (bus : Bus) (address : Word) (v : Byte) : List Event :=
  match Region.ofAddress address with
  | .timer .divider => [.write (.timer .divider) address v, .dividerCleared v]
  | .serialControl =>
    if v = transferStart then [.byteSent bus.serialData]
    else [.write .serialControl address v]
  | region => [.write region address v]

def tickEvents (bus : Bus) (ticks : Nat) : List Event :=
  if bus.timer.overflowsWithin ticks then
    [.timerOverflow bus.timer.modulo, .requested .timer]
  else []

def insertEvents : List Event :=
  [.cartridgeInserted]

/-- The events of a sequence of writes. -/
def writeAllEvents (bus : Bus) : List (Word × Byte) → List Event
  | [] => []
  | (address, v) :: rest =>
    bus.writeEvents address v ++ (bus.write address v).writeAllEvents rest

def finishBootEvents (bus : Bus) : List Event :=
  bus.writeAllEvents bootWrites

end Bus

namespace Machine

def initial : Machine :=
  ⟨.initial, .initial⟩

/-! ## The processor's part -/

def viewCpu (f : Cpu → α) : Action Machine α :=
  .view fun m => f m.cpu

def modifyCpu (f : Cpu → Cpu) : Action Machine Unit :=
  .modify fun ⟨cpu, bus⟩ => ⟨f cpu, bus⟩

/-! ## The bus's part -/

def modifyInterrupts (f : InterruptController → InterruptController) : Action Machine Unit :=
  .modify fun ⟨cpu, bus⟩ => ⟨cpu, { bus with interrupts := f bus.interrupts }⟩

def read (address : Word) : Action Machine Byte :=
  .view fun m => m.bus.read address

def write (address : Word) (v : Byte) : Action Machine Unit := do
  .report fun m => m.bus.writeEvents address v
  .modify fun ⟨cpu, bus⟩ => ⟨cpu, bus.write address v⟩

/-- Writes a word, the low byte first. -/
def writeWord (address : Word) (v : Word) : Action Machine Unit := do
  write address (Word.low v)
  write (address + 1) (Word.high v)

/-- Lets so many ticks pass for the devices on the bus. -/
def tick (ticks : Nat) : Action Machine Unit := do
  .report fun m => m.bus.tickEvents ticks
  .modify fun ⟨cpu, bus⟩ => ⟨cpu, bus.tick ticks⟩

/-- Ends an instruction for an armed master switch. -/
def finishInstruction : Action Machine Unit := do
  .report fun m => if m.bus.interrupts.isDue then [.masterOn] else []
  modifyInterrupts .finishInstruction

/-! ## The stack -/

def pushByte (v : Byte) : Action Machine Unit := do
  modifyCpu fun cpu => { cpu with sp := cpu.sp - 1 }
  let sp ← viewCpu Cpu.sp
  write sp v

/-- Pushes a word, the high byte first. -/
def push (v : Word) : Action Machine Unit := do
  pushByte (Word.high v)
  pushByte (Word.low v)

def popByte : Action Machine Byte := do
  let sp ← viewCpu Cpu.sp
  modifyCpu fun cpu => { cpu with sp := cpu.sp + 1 }
  read sp

def pop : Action Machine Word := do
  let low ← popByte
  let high ← popByte
  return Word.ofBytes high low

/-! ## Operands -/

/-- The address in the last page with the given low byte. -/
def highPageAddress (low : Byte) : Word :=
  Word.ofBytes 0xFF low

/-- The address in a word register, which is then moved by `step`. -/
def takeAddress (r : Register16) (step : Word) : Action Machine Word := do
  let address ← viewCpu (·.get16 r)
  modifyCpu fun cpu => cpu.set16 r (address + step)
  return address

/-- Reads the value that an operand stands for. -/
def readOperand (i : Instruction) : Operand → Action Machine OperandValue
  | .register8 r => return .byte (← viewCpu (·.get8 r))
  | .register16 r => return .word (← viewCpu (·.get16 r))
  | .immediate8 | .relative8 => return .byte i.immediate8
  | .immediate16 => return .word i.immediate16
  | .absolute => return .byte (← read i.immediate16)
  | .highPage => return .byte (← read (highPageAddress i.immediate8))
  | .highPageRegister r => do
    let low ← viewCpu (·.get8 r)
    return .byte (← read (highPageAddress low))
  | .indirect r => do
    let address ← viewCpu (·.get16 r)
    return .byte (← read address)
  | .indirectIncrement r => do
    let address ← takeAddress r 1
    return .byte (← read address)
  | .indirectDecrement r => do
    let address ← takeAddress r (-1)
    return .byte (← read address)
  | .bit index => return .byte (UInt8.ofNat index.val)
  | .vector v => return .word (UInt16.ofNat v.toNat)
  | .stackPointerOffset => .stop (.fault (.valueless .stackPointerOffset))
  | .condition c => .stop (.fault (.valueless (.condition c)))

/-- Writes a value to what an operand stands for. -/
def writeOperand (i : Instruction) (target : Operand) (value : OperandValue) :
    Action Machine Unit :=
  match target, value with
  | .register8 r, .byte v => modifyCpu (·.set8 r v)
  | .register16 r, .word v => modifyCpu (·.set16 r v)
  | .absolute, .word v => writeWord i.immediate16 v
  | .absolute, .byte v => write i.immediate16 v
  | .highPage, .byte v => write (highPageAddress i.immediate8) v
  | .highPageRegister r, .byte v => do
    let low ← viewCpu (·.get8 r)
    write (highPageAddress low) v
  | .indirect r, .byte v => do
    let address ← viewCpu (·.get16 r)
    write address v
  | .indirectIncrement r, .byte v => do
    let address ← takeAddress r 1
    write address v
  | .indirectDecrement r, .byte v => do
    let address ← takeAddress r (-1)
    write address v
  | target, value => .stop (.fault (.unwritable target value))

end Machine

end Handheld
