import Handheld.Cartridge.Basic
import Handheld.Interrupt
import Handheld.Memory
import Handheld.Timer

/-!
# The bus

Most addresses lead to memory.  A window of them leads nowhere, and some lead to
the timer and the interrupt controller; the memory cells under all of these are out
of reach.  `Region.at` says where an address leads, and both reading and writing go
by it.  A transfer that is started at the serial control address sends the byte of
the cell before it, and is complete at once.
-/

namespace Handheld

structure Bus where
  memory : Memory
  interrupts : InterruptController
  timer : Timer
  /-- The bytes sent so far, the first one first. -/
  sent : Array Byte
  deriving DecidableEq

namespace Bus

/-! ## Where addresses lead -/

inductive Region where
  | cell
  | unusable
  | timer (r : Timer.Register)
  | interruptRequests
  | interruptEnable
  | serialControl
  deriving DecidableEq

def unusableFirst : Word := 0xFEA0

def unusableLast : Word := 0xFEFF

def serialDataAddress : Word := 0xFF01

def serialControlAddress : Word := 0xFF02

def interruptRequestsAddress : Word := 0xFF0F

def interruptEnableAddress : Word := 0xFFFF

def Region.ofAddress (address : Word) : Region :=
  if unusableFirst ≤ address ∧ address ≤ unusableLast then unusable
  else if address = interruptRequestsAddress then interruptRequests
  else if address = interruptEnableAddress then interruptEnable
  else if address = serialControlAddress then serialControl
  else
    match Timer.Register.at? address with
    | some r => timer r
    | none => cell

/-! ## Reading and writing -/

/-- The byte that starts a serial transfer. -/
def transferStart : Byte := 0x81

/-- The serial control cell after a transfer. -/
def transferDone : Byte := 0x01

def read (bus : Bus) (address : Word) : Byte :=
  match Region.ofAddress address with
  | .unusable => 0
  | .timer r => bus.timer.read r
  | .interruptRequests => bus.interrupts.requests
  | .interruptEnable => bus.interrupts.enable
  | .serialControl | .cell => bus.memory.read address

/-- The byte that a serial transfer would send. -/
def serialData (bus : Bus) : Byte :=
  bus.memory.read serialDataAddress

/-- Sends a byte. -/
def transfer (bus : Bus) : Bus :=
  let data := bus.serialData
  { bus with
    memory := bus.memory.write serialControlAddress transferDone
    sent := bus.sent.push data }

def write (bus : Bus) (address : Word) (v : Byte) : Bus :=
  match Region.ofAddress address with
  | .unusable => bus
  | .timer r => { bus with timer := bus.timer.write r v }
  | .interruptRequests => { bus with interrupts := { bus.interrupts with requests := v } }
  | .interruptEnable => { bus with interrupts := { bus.interrupts with enable := v } }
  | .serialControl =>
    if v = transferStart then bus.transfer
    else { bus with memory := bus.memory.write address v }
  | .cell => { bus with memory := bus.memory.write address v }

/-- Reads a word, the low byte first. -/
def readWord (bus : Bus) (address : Word) : Word :=
  Word.ofBytes (bus.read (address + 1)) (bus.read address)

/-- Writes a word, the low byte first. -/
def writeWord (bus : Bus) (address : Word) (v : Word) : Bus :=
  (bus.write address (Word.low v)).write (address + 1) (Word.high v)

/-- Moves the timer forward.  An overflow of its register requests an interrupt. -/
def tick (bus : Bus) (ticks : Nat) : Bus :=
  let interrupts :=
    if bus.timer.overflowsWithin ticks then bus.interrupts.request .timer
    else bus.interrupts
  { bus with timer := bus.timer.advance ticks, interrupts }

/-! ## Starting up -/

/-- Zero everywhere, and nothing running. -/
def initial : Bus :=
  ⟨.zero, .initial, .initial, #[]⟩

/-- Puts the cartridge into its window. -/
def insert (bus : Bus) (cartridge : Cartridge) : Bus :=
  { bus with memory := bus.memory.overlay cartridge.window }

/-- The writes that a finished boot sequence has made. -/
def bootWrites : List (Word × Byte) :=
  [(0xFF05, 0x00), (0xFF06, 0x00), (0xFF07, 0x00), (0xFF10, 0x80), (0xFF11, 0xBF),
    (0xFF12, 0xF3), (0xFF14, 0xBF), (0xFF16, 0x3F), (0xFF17, 0x00), (0xFF19, 0xBF),
    (0xFF1A, 0x7F), (0xFF1B, 0xFF), (0xFF1C, 0x9F), (0xFF1E, 0xBF), (0xFF20, 0xFF),
    (0xFF21, 0x00), (0xFF22, 0x00), (0xFF23, 0xBF), (0xFF24, 0x77), (0xFF25, 0xF3),
    (0xFF26, 0xF1), (0xFF40, 0x91), (0xFF42, 0x00), (0xFF43, 0x00), (0xFF45, 0x00),
    (0xFF47, 0xFC), (0xFF48, 0xFF), (0xFF49, 0xFF)]

/-- Leaves the devices as a finished boot sequence does, with no interrupt enabled. -/
def finishBoot (bus : Bus) : Bus :=
  let bus := bootWrites.foldl (fun bus (address, v) => bus.write address v) bus
  { bus with interrupts := { bus.interrupts with enable := 0 } }

/-- The bus of a machine that has just started a cartridge. -/
def withCartridge (cartridge : Cartridge) : Bus :=
  (initial.insert cartridge).finishBoot

end Bus

end Handheld
