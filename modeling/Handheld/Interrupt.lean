import Handheld.Word

/-!
# Interrupts

Five sources request interrupts, each with a bit in the request and enable bytes;
the source with the lowest bit goes first.  The master switch gates their
acceptance, but not the waking of a sleeping processor.  The switch can be armed so
that it turns on only after one further instruction.
-/

namespace Handheld

inductive Interrupt where
  | vblank
  | lcdStatus
  | timer
  | serial
  | joypad
  deriving DecidableEq

namespace Interrupt

/-- All sources, the most urgent first. -/
def all : List Interrupt :=
  [vblank, lcdStatus, timer, serial, joypad]

def name : Interrupt → String
  | vblank => "VBlank"
  | lcdStatus => "LcdStat"
  | timer => "Timer"
  | serial => "Serial"
  | joypad => "Joypad"

def bit : Interrupt → Nat
  | vblank => 0
  | lcdStatus => 1
  | timer => 2
  | serial => 3
  | joypad => 4

def mask : Interrupt → Byte
  | vblank => 0x01
  | lcdStatus => 0x02
  | timer => 0x04
  | serial => 0x08
  | joypad => 0x10

/-- The address at which the source's handler starts. -/
def vector : Interrupt → Word
  | vblank => 0x40
  | lcdStatus => 0x48
  | timer => 0x50
  | serial => 0x58
  | joypad => 0x60

theorem mem_all (k : Interrupt) : k ∈ all := by
  cases k <;> decide

theorem toNat_mask (k : Interrupt) : k.mask.toNat = 1 <<< k.bit := by
  cases k <;> rfl

end Interrupt

structure InterruptController where
  /-- Which sources may interrupt. -/
  enable : Byte
  /-- Which sources have asked to. -/
  requests : Byte
  /-- The master switch. -/
  master : Bool
  /-- How many instructions have to finish before the master switch turns on. -/
  delay? : Option Nat
  deriving DecidableEq

namespace InterruptController

def initial : InterruptController :=
  ⟨0, 0, false, none⟩

/-- The bits that belong to a source. -/
def sourceMask : Byte := 0x1F

/-- An armed switch waits for the instruction that arms it and for the next one. -/
def armedDelay : Nat := 2

/-- The requested and enabled sources. -/
def active (ic : InterruptController) : Byte :=
  ic.enable &&& ic.requests &&& sourceMask

/-- Whether a sleeping processor wakes. -/
def wakes (ic : InterruptController) : Bool :=
  ic.active != 0

def mostUrgent? (ic : InterruptController) : Option Interrupt :=
  Interrupt.all.find? fun k => ic.active &&& k.mask != 0

/-- The interrupt to accept, if any. -/
def pending? (ic : InterruptController) : Option Interrupt :=
  if ic.master then ic.mostUrgent? else none

def request (ic : InterruptController) (k : Interrupt) : InterruptController :=
  { ic with requests := ic.requests ||| k.mask }

/-- Accepting an interrupt withdraws its request and turns the master switch off. -/
def accept (ic : InterruptController) (k : Interrupt) : InterruptController :=
  { ic with requests := ic.requests &&& ~~~k.mask, master := false, delay? := none }

/-- Turns the master switch on at once. -/
def turnOn (ic : InterruptController) : InterruptController :=
  { ic with master := true, delay? := none }

/-- Turns the master switch off, also if it is armed. -/
def turnOff (ic : InterruptController) : InterruptController :=
  { ic with master := false, delay? := none }

/-- Arms the master switch.  Nothing happens if it is on. -/
def arm (ic : InterruptController) : InterruptController :=
  if ic.master then ic else { ic with delay? := some armedDelay }

/-- Whether the end of an instruction turns an armed switch on. -/
def isDue (ic : InterruptController) : Bool :=
  ic.delay?.any (· ≤ 1)

/-- What the end of an instruction does to an armed switch. -/
def finishInstruction (ic : InterruptController) : InterruptController :=
  match ic.delay? with
  | none => ic
  | some n => if n ≤ 1 then ic.turnOn else { ic with delay? := some (n - 1) }

end InterruptController

end Handheld
