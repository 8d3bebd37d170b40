import Handheld.Word

/-!
# The timer

A sixteen-bit counter runs with the clock; its high byte is the divider register,
and a write to that register clears it.  While enabled, the timer register is
incremented once per period of the selected clock.  When it passes its greatest
value it restarts from the modulo register, so past the first overflow it goes
around the values from the modulo to 0xFF.  The ticks that do not fill a period
yet are owed to the timer register, and are kept apart from the counter.
-/

namespace Handheld

structure Timer where
  /-- Counts every tick of the clock. -/
  counter : Word
  /-- The timer register. -/
  value : Byte
  /-- Where the timer register restarts. -/
  modulo : Byte
  /-- Bit 2 enables the timer register, bits 0 and 1 select its clock. -/
  control : Byte
  /-- Ticks since the last increment of the timer register. -/
  owed : Nat
  deriving DecidableEq

namespace Timer

def initial : Timer :=
  ⟨0, 0, 0, 0, 0⟩

/-! ## Registers -/

inductive Register where
  | divider
  | value
  | modulo
  | control
  deriving DecidableEq

def Register.address : Register → Word
  | divider => 0xFF04
  | value => 0xFF05
  | modulo => 0xFF06
  | control => 0xFF07

/-- The register at an address. -/
def Register.at? (address : Word) : Option Register :=
  if address = 0xFF04 then some divider
  else if address = 0xFF05 then some value
  else if address = 0xFF06 then some modulo
  else if address = 0xFF07 then some control
  else none

def divider (t : Timer) : Byte :=
  Word.high t.counter

def read (t : Timer) : Register → Byte
  | .divider => t.divider
  | .value => t.value
  | .modulo => t.modulo
  | .control => t.control

/-- A write to the divider clears the counter, whatever the byte.  The control
register keeps three bits. -/
def write (t : Timer) (r : Register) (v : Byte) : Timer :=
  match r with
  | .divider => { t with counter := 0 }
  | .value => { t with value := v }
  | .modulo => { t with modulo := v }
  | .control => { t with control := v &&& 0x07 }

/-! ## Running -/

def isEnabled (t : Timer) : Bool :=
  t.control &&& 0x04 != 0

/-- Ticks per increment of the timer register. -/
def period (t : Timer) : Nat :=
  match t.control.toNat % 4 with
  | 0 => 1024
  | 1 => 16
  | 2 => 64
  | _ => 256

theorem period_pos (t : Timer) : 0 < t.period := by
  unfold period
  split <;> decide

/-- Whether so many increments take the timer register past its greatest value. -/
def overflowsBy (t : Timer) (steps : Nat) : Bool :=
  decide (256 ≤ t.value.toNat + steps)

/-- Increments the timer register so many times. -/
def increment (t : Timer) (steps : Nat) : Timer :=
  if h : t.value.toNat + steps < 256 then
    { t with value := UInt8.ofNatLT (t.value.toNat + steps) h }
  else
    let pastRestart := (steps - (256 - t.value.toNat)) % (256 - t.modulo.toNat)
    have : t.modulo.toNat + pastRestart < 256 := by
      have := t.modulo.toNat_lt
      have : pastRestart < 256 - t.modulo.toNat := Nat.mod_lt _ (by omega)
      omega
    { t with value := UInt8.ofNatLT (t.modulo.toNat + pastRestart) this }

/-- How many increments are due after so many ticks. -/
def incrementsAfter (t : Timer) (ticks : Nat) : Nat :=
  if t.isEnabled then (t.owed + ticks) / t.period else 0

/-- Whether the timer register overflows within so many ticks. -/
def overflowsWithin (t : Timer) (ticks : Nat) : Bool :=
  t.overflowsBy (t.incrementsAfter ticks)

/-- Moves the timer forward by so many ticks. -/
def advance (t : Timer) (ticks : Nat) : Timer :=
  let moved := { t with counter := t.counter + UInt16.ofNat ticks }
  if t.isEnabled then
    { moved with owed := (t.owed + ticks) % t.period }.increment (t.incrementsAfter ticks)
  else moved

end Timer

end Handheld
