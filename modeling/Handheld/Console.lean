import Handheld.Machine.Step

/-!
# The console

A machine with a count of the ticks that have passed.  A step of the console
accepts a pending interrupt, if there is one, and then takes a step of the machine;
the devices on the bus see the time of both.  A run is a sequence of steps that
ends when enough time has passed or when the machine stops.
-/

namespace Handheld

structure Console where
  machine : Machine
  /-- Ticks passed in completed steps. -/
  elapsed : UInt64
  deriving DecidableEq

namespace Console

/-- Ticks of one picture. -/
def frameTicks : Nat := 70224

def ofMachine (machine : Machine) : Console :=
  ⟨machine, 0⟩

/-- A console that has just started a cartridge. -/
def start (cartridge : Cartridge) : Console :=
  ofMachine ⟨.initial, .withCartridge cartridge⟩

def startEvents (cartridge : Cartridge) : List Event :=
  .starting cartridge.header.title? ::
    (Bus.insertEvents ++ (Bus.initial.insert cartridge).finishBootEvents)

/-! ## One step -/

/-- An action of the machine. -/
def onMachine (x : Action Machine α) : Action Console α :=
  fun ⟨machine, elapsed⟩ =>
    match x machine with
    | ⟨result, machine, events⟩ => ⟨result, ⟨machine, elapsed⟩, events⟩

/-- Adds to the count of ticks. -/
def count (ticks : Nat) : Action Console Unit :=
  fun ⟨machine, elapsed⟩ =>
    if elapsed.toNat + ticks < UInt64.size then
      ⟨.ok (), ⟨machine, elapsed + UInt64.ofNat ticks⟩, []⟩
    else ⟨.error (.fault .tickCounterFull), ⟨machine, elapsed⟩, []⟩

/-- Accepts a pending interrupt, and yields the time it took. -/
def acceptPending : Action Machine Nat := do
  match ← .view fun m => m.bus.interrupts.pending? with
  | some k =>
    let ticks ← Machine.accept k
    Machine.tick ticks
    return ticks
  | none => return 0

/-- What is reported of an undefined opcode. -/
def undecodableEvents (m : Machine) : Stop → List Event
  | .undefinedOpcode e => [.undecodable (.take m.cpu m.bus), .undefinedOpcode e]
  | .fault _ => []

/-- A step of the machine that reports an undefined opcode. -/
def reportingStep : Action Machine Nat := fun m =>
  match Machine.step m with
  | ⟨.error e, m, events⟩ => ⟨.error e, m, events ++ undecodableEvents m e⟩
  | outcome => outcome

/-- One step, and the time it took. -/
def step : Action Console Nat := do
  let accepted ← onMachine acceptPending
  let executed ← onMachine do
    let ticks ← reportingStep
    Machine.tick ticks
    return ticks
  count (accepted + executed)
  return accepted + executed

/-! ## Runs -/

/-- Steps until `budget` ticks have passed, of which `passed` have, for at most `fuel`
steps.  Of the events, those that pass the filter are added to `log`. -/
def runLoop (filter : Event → Bool) (budget : Nat) :
    (fuel passed : Nat) → (log : Array Event) → Action Console Nat
  | 0, passed, log, console => ⟨.ok passed, console, log.toList⟩
  | fuel + 1, passed, log, console =>
    if budget ≤ passed then ⟨.ok passed, console, log.toList⟩
    else
      match step console with
      | ⟨.ok ticks, console, events⟩ =>
        runLoop filter budget fuel (passed + ticks) (log ++ events.filter filter) console
      | ⟨.error e, console, events⟩ =>
        ⟨.error e, console, (log ++ events.filter filter).toList⟩

/-- Steps until at least `budget` ticks have passed, and yields how many have.  A step
takes four ticks or more, so the budget bounds the number of steps. -/
def runFor (filter : Event → Bool) (budget : Nat) : Action Console Nat :=
  runLoop filter budget ((budget + 3) / 4) 0 #[]

def runFrame (filter : Event → Bool) : Action Console Nat :=
  runFor filter frameTicks

/-- Takes at most so many steps, and yields nothing if the machine has not stopped by
then. -/
def runUntilStop (filter : Event → Bool) :
    (fuel : Nat) → (log : Array Event) → Action Console Unit
  | 0, log, console => ⟨.ok (), console, log.toList⟩
  | fuel + 1, log, console =>
    match step console with
    | ⟨.ok _, console, events⟩ =>
      runUntilStop filter fuel (log ++ events.filter filter) console
    | ⟨.error e, console, events⟩ =>
      ⟨.error e, console, (log ++ events.filter filter).toList⟩

end Console

end Handheld
