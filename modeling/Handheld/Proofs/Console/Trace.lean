import Handheld.Proofs.Console.UndefinedOpcode

/-!
# What a step reports

Apart from the count of ticks, a step accepts the pending interrupt and then takes a step of
the machine, of which the devices see the time.  This is so whether it goes on or stops
(`step_eq_apart_from_count`).  What it announces is therefore the pending interrupt, if there
is one, and the instruction that the machine meets awake, if it can be decoded.
-/

namespace Handheld

namespace Machine

variable {m : Machine} {i : Instruction}

/-- The instruction that a step from here executes, if it executes one. -/
def upcoming? (m : Machine) : Option Instruction :=
  if m.isIdle then none else m.fetch.toOption

theorem upcoming?_of_isIdle (h : m.isIdle = true) : m.upcoming? = none :=
  if_pos h

theorem upcoming?_of_fetch (hidle : m.isIdle = false) (hfetch : m.fetch = .ok i) :
    m.upcoming? = some i := by
  rw [upcoming?, hidle, hfetch]
  rfl

theorem upcoming?_of_undefined {e : UndefinedOpcode} (hidle : m.isIdle = false)
    (hfetch : m.fetch = .error e) : m.upcoming? = none := by
  rw [upcoming?, hidle, hfetch]
  rfl

theorem announcements_acceptingEvents (m : Machine) (k : Interrupt) :
    Event.announcements (m.acceptingEvents k) = [.accepting k] := by
  show .accepting k :: Event.announcements (Bus.writeAllEvents _ _) = _
  rw [Event.announcements_writeAllEvents]

end Machine

namespace Console

open Machine

/-! ## A step in two parts -/

theorem step_eq_apart_from_count (c : Console) :
    ∃ result elapsed, step c =
      ⟨result, ⟨(machineStep c.machine.entry).state, elapsed⟩,
        (acceptPending c.machine).events ++ (machineStep c.machine.entry).events⟩ := by
  obtain ⟨earlier, haccept, _⟩ := acceptPending_eq c.machine
  have hentered := onMachine_eq haccept
  rcases hmachine : machineStep c.machine.entry with ⟨result, m', events⟩
  have hexecuted : onMachine machineStep ⟨c.machine.entry, c.elapsed⟩ = _ :=
    onMachine_eq hmachine
  cases result with
  | error e =>
      refine ⟨.error e, c.elapsed, ?_⟩
      rw [step_eq_machineStep, Action.bind_of_ok hentered, Action.bind_of_error hexecuted,
        haccept]
  | ok ticks =>
      rw [step_eq_machineStep, Action.bind_of_ok hentered, Action.bind_of_ok hexecuted, haccept]
      by_cases hroom : c.elapsed.toNat + (c.machine.entryTicks + ticks) < UInt64.size
      · have hcount := count_of_room (c := ⟨m', c.elapsed⟩) hroom
        rw [Action.bind_of_ok hcount]
        exact ⟨_, _, congrArg (Outcome.mk _ _) (congrArg _ (List.append_nil _))⟩
      · have hcount := count_of_full (c := ⟨m', c.elapsed⟩) hroom
        rw [Action.bind_of_error hcount]
        exact ⟨_, _, congrArg (Outcome.mk _ _) (congrArg _ (List.append_nil _))⟩

theorem machine_next (c : Console) :
    c.next.machine = (machineStep c.machine.entry).state := by
  obtain ⟨result, elapsed, hstep⟩ := step_eq_apart_from_count c
  rw [next, hstep]

theorem events_step (c : Console) :
    (step c).events =
      (acceptPending c.machine).events ++ (machineStep c.machine.entry).events := by
  obtain ⟨result, elapsed, hstep⟩ := step_eq_apart_from_count c
  rw [hstep]

/-! ## Announcements -/

theorem announcements_acceptPending (m : Machine) :
    Event.announcements (acceptPending m).events =
      m.bus.interrupts.pending?.toList.map .accepting := by
  cases h : m.bus.interrupts.pending? with
  | none =>
      rw [acceptPending_of_not_pending h]
      rfl
  | some k =>
      rw [acceptPending_of_pending h, Event.announcements_append,
        announcements_acceptingEvents, Event.announcements_tickEvents]
      rfl

theorem announcements_machineStep (m : Machine) :
    Event.announcements (machineStep m).events = m.upcoming?.toList.map .executing := by
  cases Machine.step_cases m with
  | idles hidle hstep =>
      rw [machineStep_of_ok hstep, upcoming?_of_isIdle hidle]
      exact Event.announcements_tickEvents _ _
  | undefined e hidle hfetch hstep =>
      rw [machineStep_of_error hstep, upcoming?_of_undefined hidle hfetch]
      rfl
  | executes i ticks m' events hidle hfetch hstep hexecuted =>
      rw [machineStep_of_ok hstep, upcoming?_of_fetch hidle hfetch, Event.announcements_append,
        hexecuted.announced, Event.announcements_tickEvents]
      rfl

/-- A step announces the interrupt that it accepts and then the instruction that it
executes, once each. -/
theorem announcements_step (c : Console) :
    Event.announcements (step c).events =
      c.machine.bus.interrupts.pending?.toList.map .accepting ++
        c.machine.entry.upcoming?.toList.map .executing := by
  rw [events_step, Event.announcements_append, announcements_acceptPending,
    announcements_machineStep]

theorem accepting_mem_events_iff {c : Console} {k : Interrupt} :
    .accepting k ∈ (step c).events ↔ c.machine.bus.interrupts.Pending k := by
  have hannounced : .accepting k ∈ (step c).events ↔
      .accepting k ∈ Event.announcements (step c).events := by
    simp [Event.mem_announcements, Event.announces]
  rw [hannounced, announcements_step, ← InterruptController.pending?_eq_some_iff]
  simp

theorem executing_mem_events_iff {c : Console} {i : Instruction} :
    .executing i ∈ (step c).events ↔ c.machine.entry.upcoming? = some i := by
  have hannounced : .executing i ∈ (step c).events ↔
      .executing i ∈ Event.announcements (step c).events := by
    simp [Event.mem_announcements, Event.announces]
  rw [hannounced, announcements_step]
  simp

end Console

end Handheld
