import Handheld.Console
import Handheld.Proofs.Bus.Ticks
import Handheld.Proofs.Machine.Accept
import Handheld.Proofs.Machine.Step

/-!
# What a step of the console does

A step of the console first accepts the pending interrupt, if there is one, and then
takes a step of the machine from the state that this leaves (`Machine.entry`).  So there
are three things that it can do, and `step_cases` says what they are: it stops at an
undefined opcode, it finds that the tick counter is full, or it goes on.
-/

namespace Handheld

namespace Machine

variable {m : Machine} {k : Interrupt}

/-- The machine whose devices have seen so many ticks more. -/
def after (m : Machine) (ticks : Nat) : Machine :=
  ⟨m.cpu, m.bus.tick ticks⟩

theorem tick_eq (m : Machine) (ticks : Nat) :
    tick ticks m = ⟨.ok (), m.after ticks, m.bus.tickEvents ticks⟩ := by
  show Outcome.mk _ _ (_ ++ []) = _
  rw [List.append_nil]
  rfl

/-! ## Before the step of the machine -/

/-- The machine from which a step of the console executes. -/
def entry (m : Machine) : Machine :=
  match m.bus.interrupts.pending? with
  | some k => (m.accepting k).after acceptTicks
  | none => m

/-- The ticks that the devices have seen by then. -/
def entryTicks (m : Machine) : Nat :=
  if m.bus.interrupts.pending?.isSome then acceptTicks else 0

/-- The writes that the bus has seen by then. -/
def entryWrites (m : Machine) : List (Word × Byte) :=
  if m.bus.interrupts.pending?.isSome then m.pushWrites m.cpu.pc else []

theorem entry_of_pending (h : m.bus.interrupts.pending? = some k) :
    m.entry = (m.accepting k).after acceptTicks := by
  rw [entry, h]

theorem entry_of_not_pending (h : m.bus.interrupts.pending? = none) : m.entry = m := by
  rw [entry, h]

theorem entryTicks_of_pending (h : m.bus.interrupts.pending? = some k) :
    m.entryTicks = acceptTicks := by
  rw [entryTicks, h]
  rfl

theorem entryTicks_of_not_pending (h : m.bus.interrupts.pending? = none) :
    m.entryTicks = 0 := by
  rw [entryTicks, h]
  rfl

theorem entryWrites_of_pending (h : m.bus.interrupts.pending? = some k) :
    m.entryWrites = m.pushWrites m.cpu.pc := by
  rw [entryWrites, h]
  rfl

theorem entryWrites_of_not_pending (h : m.bus.interrupts.pending? = none) :
    m.entryWrites = [] := by
  rw [entryWrites, h]
  rfl

/-- No interrupt is pending where the step of the machine starts. -/
theorem pending?_entry (m : Machine) : m.entry.bus.interrupts.pending? = none := by
  cases h : m.bus.interrupts.pending? with
  | none => rw [entry_of_not_pending h, h]
  | some k =>
      rw [entry_of_pending h]
      apply InterruptController.pending?_of_master_off
      have hswitch : ((m.accepting k).after acceptTicks).bus.interrupts.switch = (false, none) := by
        rw [after, Bus.switch_tick, switch_accepting]
      exact congrArg Prod.fst hswitch

@[simp] theorem entry_entry (m : Machine) : m.entry.entry = m.entry :=
  entry_of_not_pending (pending?_entry m)

theorem entryTicks_le (m : Machine) : m.entryTicks ≤ 20 := by
  unfold entryTicks
  split <;> decide

theorem four_dvd_entryTicks (m : Machine) : 4 ∣ m.entryTicks := by
  unfold entryTicks
  split <;> decide

end Machine

namespace Console

open Machine

theorem acceptPending_of_not_pending {m : Machine} (h : m.bus.interrupts.pending? = none) :
    acceptPending m = ⟨.ok 0, m, []⟩ := by
  have hview : Action.view (fun m : Machine => m.bus.interrupts.pending?) m =
      ⟨.ok none, m, []⟩ := by rw [← h]; rfl
  rw [acceptPending, Action.bind_of_silent hview]
  rfl

theorem acceptPending_of_pending {m : Machine} {k : Interrupt}
    (h : m.bus.interrupts.pending? = some k) :
    acceptPending m =
      ⟨.ok acceptTicks, (m.accepting k).after acceptTicks,
        m.acceptingEvents k ++ (m.accepting k).bus.tickEvents acceptTicks⟩ := by
  have hview : Action.view (fun m : Machine => m.bus.interrupts.pending?) m =
      ⟨.ok (some k), m, []⟩ := by rw [← h]; rfl
  rw [acceptPending, Action.bind_of_silent hview]
  dsimp only
  rw [Action.bind_of_ok (accept_eq m k), Action.bind_of_ok (tick_eq _ _)]
  show Outcome.mk _ _ (_ ++ (_ ++ [])) = _
  rw [List.append_nil]
  rfl

theorem acceptPending_eq (m : Machine) :
    ∃ events, acceptPending m = ⟨.ok m.entryTicks, m.entry, events⟩ ∧
      Event.targets events = m.entryWrites.map Prod.fst := by
  cases h : m.bus.interrupts.pending? with
  | none =>
      refine ⟨[], ?_, ?_⟩
      · rw [acceptPending_of_not_pending h, entryTicks_of_not_pending h, entry_of_not_pending h]
      · rw [entryWrites_of_not_pending h]
        rfl
  | some k =>
      refine ⟨m.acceptingEvents k ++ (m.accepting k).bus.tickEvents acceptTicks, ?_, ?_⟩
      · rw [acceptPending_of_pending h, entryTicks_of_pending h, entry_of_pending h]
      · rw [Event.targets_append, targets_acceptingEvents, Event.targets_tickEvents,
          List.append_nil, entryWrites_of_pending h]

/-! ## The step -/

theorem onMachine_eq {x : Action Machine α} {c : Console} {result : Except Stop α}
    {m' : Machine} {events : List Event} (h : x c.machine = ⟨result, m', events⟩) :
    onMachine x c = ⟨result, ⟨m', c.elapsed⟩, events⟩ := by
  unfold onMachine
  dsimp only
  rw [h]

theorem count_of_room {c : Console} {ticks : Nat} (h : c.elapsed.toNat + ticks < UInt64.size) :
    count ticks c = ⟨.ok (), ⟨c.machine, c.elapsed + UInt64.ofNat ticks⟩, []⟩ :=
  if_pos h

theorem count_of_full {c : Console} {ticks : Nat}
    (h : ¬ c.elapsed.toNat + ticks < UInt64.size) :
    count ticks c = ⟨.error (.fault .tickCounterFull), c, []⟩ :=
  if_neg h

theorem toNat_elapsed_add {c : Console} {ticks : Nat}
    (hroom : c.elapsed.toNat + ticks < UInt64.size) :
    (c.elapsed + UInt64.ofNat ticks).toNat = c.elapsed.toNat + ticks := by
  have hsize : UInt64.size = 2 ^ 64 := rfl
  rw [UInt64.toNat_add, UInt64.toNat_ofNat']
  omega

theorem reportingStep_of_error {m : Machine} {e : Stop}
    (h : Machine.step m = ⟨.error e, m, []⟩) :
    reportingStep m = ⟨.error e, m, undecodableEvents m e⟩ := by
  simp only [reportingStep, h, List.nil_append]

theorem reportingStep_of_ok {m m' : Machine} {ticks : Nat} {events : List Event}
    (h : Machine.step m = ⟨.ok ticks, m', events⟩) :
    reportingStep m = ⟨.ok ticks, m', events⟩ := by
  simp only [reportingStep, h]

/-- The step of the machine, of which the devices then see the time. -/
def machineStep : Action Machine Nat := do
  let ticks ← reportingStep
  Machine.tick ticks
  return ticks

theorem step_eq_machineStep :
    step = do
      let accepted ← onMachine acceptPending
      let executed ← onMachine machineStep
      count (accepted + executed)
      return accepted + executed :=
  rfl

theorem machineStep_of_error {m : Machine} {e : Stop}
    (h : Machine.step m = ⟨.error e, m, []⟩) :
    machineStep m = ⟨.error e, m, undecodableEvents m e⟩ := by
  rw [machineStep, Action.bind_of_error (reportingStep_of_error h)]

theorem machineStep_of_ok {m m' : Machine} {ticks : Nat} {events : List Event}
    (h : Machine.step m = ⟨.ok ticks, m', events⟩) :
    machineStep m =
      ⟨.ok ticks, m'.after ticks, events ++ m'.bus.tickEvents ticks⟩ := by
  rw [machineStep, Action.bind_of_ok (reportingStep_of_ok h), Action.bind_of_ok (tick_eq m' ticks)]
  show Outcome.mk _ _ (_ ++ (_ ++ [])) = _
  rw [List.append_nil]
  rfl

/-- All that a step can do. -/
inductive StepCase (c : Console) : Prop where
  /-- There is an undefined opcode, which a pending interrupt has possibly led to. -/
  | stops (e : UndefinedOpcode) (events : List Event)
    (hmachine : Machine.step c.machine.entry =
      ⟨.error (.undefinedOpcode e), c.machine.entry, []⟩)
    (hstep : step c =
      ⟨.error (.undefinedOpcode e), ⟨c.machine.entry, c.elapsed⟩, events⟩)
    (htargets : Event.targets events = c.machine.entryWrites.map Prod.fst)
  /-- The tick counter has no room for the time of the step. -/
  | full (ticks : Nat) (m' : Machine) (events later : List Event)
    (hmachine : Machine.step c.machine.entry = ⟨.ok ticks, m', events⟩)
    (hfull : ¬ c.elapsed.toNat + (c.machine.entryTicks + ticks) < UInt64.size)
    (hstep : step c =
      ⟨.error (.fault .tickCounterFull), ⟨m'.after ticks, c.elapsed⟩, later⟩)
  | goesOn (ticks : Nat) (m' : Machine) (events later : List Event)
    (hmachine : Machine.step c.machine.entry = ⟨.ok ticks, m', events⟩)
    (hroom : c.elapsed.toNat + (c.machine.entryTicks + ticks) < UInt64.size)
    (hstep : step c =
      ⟨.ok (c.machine.entryTicks + ticks),
        ⟨m'.after ticks, c.elapsed + UInt64.ofNat (c.machine.entryTicks + ticks)⟩, later⟩)
    (htargets : Event.targets later =
      c.machine.entryWrites.map Prod.fst ++ Event.targets events)

theorem step_cases (c : Console) : StepCase c := by
  obtain ⟨earlier, haccept, hearlier⟩ := acceptPending_eq c.machine
  have hentered := onMachine_eq haccept
  rcases Machine.step_stops_or_goesOn c.machine.entry with
    ⟨e, hmachine⟩ | ⟨ticks, m', events, hmachine⟩
  · have hstop : onMachine machineStep ⟨c.machine.entry, c.elapsed⟩ = _ :=
      onMachine_eq (machineStep_of_error hmachine)
    refine .stops e (earlier ++ undecodableEvents c.machine.entry (.undefinedOpcode e))
      hmachine ?_ ?_
    · rw [step_eq_machineStep, Action.bind_of_ok hentered, Action.bind_of_error hstop]
    · rw [Event.targets_append, hearlier]
      exact List.append_nil _
  · have hgo : onMachine machineStep ⟨c.machine.entry, c.elapsed⟩ = _ :=
      onMachine_eq (machineStep_of_ok hmachine)
    by_cases hroom : c.elapsed.toNat + (c.machine.entryTicks + ticks) < UInt64.size
    · have hcount := count_of_room (c := ⟨m'.after ticks, c.elapsed⟩) hroom
      refine .goesOn ticks m' events (earlier ++ (events ++ m'.bus.tickEvents ticks ++ []))
        hmachine hroom ?_ ?_
      · rw [step_eq_machineStep, Action.bind_of_ok hentered, Action.bind_of_ok hgo,
          Action.bind_of_silent hcount]
        rfl
      · simp [hearlier]
    · have hcount := count_of_full (c := ⟨m'.after ticks, c.elapsed⟩) hroom
      refine .full ticks m' events (earlier ++ (events ++ m'.bus.tickEvents ticks ++ []))
        hmachine hroom ?_
      rw [step_eq_machineStep, Action.bind_of_ok hentered, Action.bind_of_ok hgo,
        Action.bind_of_error hcount]

end Console

end Handheld
