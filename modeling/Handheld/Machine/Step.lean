import Handheld.Machine.Execute

/-!
# Steps of the machine

A step executes the instruction at the program counter.  A sleeping processor does
nothing until an enabled interrupt is requested, whatever the master switch says.
A step that meets an undefined opcode leaves the machine as it was.
-/

namespace Handheld.Machine

/-- How long a sleeping processor idles at a time. -/
def idleTicks : Nat := 4

/-- How long it takes to accept an interrupt. -/
def acceptTicks : Nat := 20

/-! ## Fetching -/

/-- The code at the program counter, with its page. -/
def codeAt (m : Machine) : OpcodePage × Byte :=
  let code := m.bus.read m.cpu.pc
  if code = OpcodePage.marker then (.extended, m.bus.read (m.cpu.pc + 1))
  else (.base, code)

/-- The operand bytes of an opcode at an address. -/
def operandAt (m : Machine) (op : Opcode) (address : Word) : Word :=
  let start := address + UInt16.ofNat (op.bytes - op.operandLength)
  match op.operandLength with
  | 0 => 0
  | 1 => UInt16.ofNat (m.bus.read start).toNat
  | _ => m.bus.readWord start

/-- The instruction at the program counter. -/
def fetch (m : Machine) : Except UndefinedOpcode Instruction :=
  let (page, code) := m.codeAt
  match Opcode.lookup? page code with
  | some op => .ok ⟨op, m.operandAt op m.cpu.pc, m.cpu.pc⟩
  | none => .error ⟨code, page, m.cpu.pc⟩

def fetchInstruction : Action Machine Instruction := do
  match ← .view fetch with
  | .ok i => return i
  | .error e => .stop (.undefinedOpcode e)

/-! ## Stepping -/

/-- Whether the processor sleeps on. -/
def isIdle (m : Machine) : Bool :=
  m.cpu.halted && !m.bus.interrupts.wakes

def wake : Action Machine Unit := do
  .report fun m => if m.cpu.halted then [.woken m.cpu.pc] else []
  modifyCpu fun cpu => { cpu with halted := false }

/-- Executes an instruction from the program counter on, and yields the time it took. -/
def run (i : Instruction) : Action Machine Nat := do
  wake
  .report fun m => [.snapshot (.take m.cpu m.bus), .executing i]
  modifyCpu fun cpu => { cpu with pc := cpu.pc + UInt16.ofNat i.opcode.bytes }
  let completion ← execute i
  modifyCpu fun cpu => { cpu with f := i.opcode.flags.resolve cpu.f completion.flags }
  finishInstruction
  return completion.ticks

/-- One step, and the time it took. -/
def step : Action Machine Nat := do
  if ← .view isIdle then
    return idleTicks
  else
    let i ← fetchInstruction
    run i

/-! ## Interrupts -/

/-- Accepts an interrupt: the program counter is pushed and its handler is next. -/
def accept (k : Interrupt) : Action Machine Nat := do
  .report fun _ => [.accepting k]
  modifyInterrupts (·.accept k)
  modifyCpu fun cpu => { cpu with halted := false }
  callTo k.vector
  return acceptTicks

end Handheld.Machine
