import Handheld.Proofs.Console.Meter
import Handheld.Proofs.Console.UndefinedOpcode

/-!
# Where the ticks go

The ticks that the devices are handed are those that the console counts, but for one case:
a step that accepts an interrupt whose handler starts with an undefined opcode has handed
out the ticks of the acceptance, and stops before it counts them (`Console.losesTicks`).
So over any sequence of calls the count falls behind by 20 ticks for each such step, and by
nothing else.  The counter of the timer has seen all ticks, as long as nothing is written
to the divider.
-/

namespace Handheld

/-! ## One step -/

namespace Machine

variable {m m' : Machine} {ticks : Nat} {events : List Event}

/-- No instruction touches the counter, if it does not write to the divider. -/
theorem counter_of_step (h : step m = ⟨.ok ticks, m', events⟩)
    (hwrites : Timer.Register.dividerAddress ∉ Event.targets events) :
    m'.bus.timer.counter = m.bus.timer.counter := by
  cases step_cases m with
  | idles _ hstep =>
      obtain ⟨-, rfl, -⟩ := Outcome.mk.inj (h.symm.trans hstep)
      rfl
  | undefined e _ _ hstep =>
      rw [h] at hstep
      cases hstep
  | executes i ticks' m'' events' _ _ hstep hexecuted =>
      obtain ⟨-, rfl, rfl⟩ := Outcome.mk.inj (h.symm.trans hstep)
      obtain ⟨writes, hbus, htargets⟩ := hexecuted.written
      rw [htargets] at hwrites
      rw [hbus, Bus.timer_mapInterrupts, Bus.counter_writeAll _ hwrites]

theorem counter_entry
    (hwrites : Timer.Register.dividerAddress ∉ m.entryWrites.map Prod.fst) :
    m.entry.bus.timer.counter = m.bus.timer.counter + UInt16.ofNat m.entryTicks := by
  cases h : m.bus.interrupts.pending? with
  | none =>
      rw [entry_of_not_pending h, entryTicks_of_not_pending h]
      exact (UInt16.add_zero _).symm
  | some k =>
      rw [entryWrites_of_pending h] at hwrites
      rw [entry_of_pending h, entryTicks_of_pending h, after, Bus.counter_tick,
        counter_accepting k hwrites]

end Machine

namespace Console

variable {c : Console}

/-- A step from here accepts an interrupt and then meets an undefined opcode. -/
def losesTicks (c : Console) : Bool :=
  c.machine.bus.interrupts.pending?.isSome &&
    match (step c).result with
    | .error (.undefinedOpcode _) => true
    | _ => false

/-- The tick counter has room for the time of the step. -/
def HasRoom (c : Console) : Prop :=
  (step c).result ≠ .error (.fault .tickCounterFull)

instance (c : Console) : Decidable c.HasRoom :=
  inferInstanceAs (Decidable (_ ≠ _))

/-- What the devices are handed in a step is counted, or lost. -/
theorem elapsed_step (h : c.HasRoom) :
    (step c).state.elapsed.toNat + 20 * c.losesTicks.toNat = c.elapsed.toNat + c.handed := by
  unfold HasRoom at h
  unfold losesTicks handed
  cases step_cases c with
  | stops e _ hmachine hstep _ =>
      rw [hstep, hmachine, Machine.entryTicks]
      cases c.machine.bus.interrupts.pending? <;> rfl
  | full _ _ _ _ _ _ hstep => exact absurd (by rw [hstep]) h
  | goesOn ticks m' _ _ hmachine hroom hstep _ =>
      have hsum : (c.elapsed + UInt64.ofNat (c.machine.entryTicks + ticks)).toNat =
          c.elapsed.toNat + (c.machine.entryTicks + ticks) := by
        have hsize : UInt64.size = 2 ^ 64 := rfl
        rw [UInt64.toNat_add, UInt64.toNat_ofNat']
        omega
      rw [hstep, hmachine]
      simpa using hsum

theorem counter_step (h : c.HasRoom)
    (hwrites : Timer.Register.dividerAddress ∉ Event.targets (step c).events) :
    (step c).state.machine.bus.timer.counter =
      c.machine.bus.timer.counter + UInt16.ofNat c.handed := by
  unfold HasRoom at h
  unfold handed
  cases step_cases c with
  | stops e events hmachine hstep htargets =>
      rw [hstep] at hwrites
      rw [hstep, hmachine]
      rw [htargets] at hwrites
      exact Machine.counter_entry hwrites
  | full _ _ _ _ _ _ hstep => exact absurd (by rw [hstep]) h
  | goesOn ticks m' events later hmachine _ hstep htargets =>
      rw [hstep] at hwrites
      rw [hstep, hmachine]
      rw [htargets, List.mem_append, not_or] at hwrites
      show (m'.after ticks).bus.timer.counter = _
      rw [Machine.after, Bus.counter_tick, Machine.counter_of_step hmachine hwrites.2,
        Machine.counter_entry hwrites.1, UInt16.ofNat_add, UInt16.add_assoc]

end Console

/-! ## Sequences of calls -/

namespace Metered

open Console

/-- What the meter shows agrees with what the console `c` has become. -/
structure Accounted (c : Console) (s : Metered) : Prop where
  elapsed : s.console.elapsed.toNat + 20 * s.starts.countP losesTicks =
    c.elapsed.toNat + s.handed
  counter : (∀ b ∈ s.starts, Timer.Register.dividerAddress ∉ Event.targets (Console.step b).events) →
    s.console.machine.bus.timer.counter = c.machine.bus.timer.counter + UInt16.ofNat s.handed

theorem accounted_ofConsole (c : Console) : Accounted c (ofConsole c) where
  elapsed := rfl
  counter := fun _ => (UInt16.add_zero _).symm

theorem Accounted.step {c : Console} {s : Metered} (h : Accounted c s)
    (hroom : s.console.HasRoom) : Accounted c (step s).state := by
  rw [(step_eq s).2]
  constructor
  · have hbefore := h.elapsed
    have hstep := elapsed_step hroom
    simp only [List.countP_cons]
    cases hloses : s.console.losesTicks with
    | true =>
        rw [hloses] at hstep
        simp only [Bool.toNat_true, if_true] at hstep ⊢
        omega
    | false =>
        rw [hloses] at hstep
        simp only [Bool.toNat_false, Bool.false_eq_true, if_false] at hstep ⊢
        omega
  · intro hwrites
    obtain ⟨hlast, hearlier⟩ := List.forall_mem_cons.mp hwrites
    show (Console.step s.console).state.machine.bus.timer.counter = _
    rw [counter_step hroom hlast, h.counter hearlier, UInt16.ofNat_add, UInt16.add_assoc]

/-- The account is right after any number of steps for which there is room. -/
theorem Accounted.run {c : Console} {s s' : Metered} (h : Accounted c s) (hrun : Run s s')
    (hroom : ∀ b ∈ s'.starts, b.HasRoom) : Accounted c s' := by
  induction hrun with
  | refl => exact h
  | tail hrun ih =>
      rename_i s'
      rw [(step_eq s').2] at hroom
      obtain ⟨hlast, hearlier⟩ := List.forall_mem_cons.mp hroom
      exact (ih hearlier).step hlast

end Metered

namespace Console

theorem accounted_metered {c : Console} {calls : List Call}
    (hroom : ∀ b ∈ (c.metered calls).starts, b.HasRoom) :
    Metered.Accounted c (c.metered calls) :=
  (Metered.accounted_ofConsole c).run (Metered.run_performAll _ calls) hroom

/-- Over any sequence of calls, whether they go on to their end or stop, the count of the
console grows by the ticks that its devices are handed, less 20 for each step that accepts
an interrupt and then meets an undefined opcode.  It grows by all of them exactly if there
is no such step.  The counter of the timer advances by all of them, if nothing is written
to the divider, and so by the growth of the count if none are lost. -/
theorem ticks_are_counted_or_lost (c : Console) (calls : List Call)
    (hroom : ∀ b ∈ (c.metered calls).starts, b.HasRoom) :
    (c.metered calls).console = c.performAll calls ∧
      (c.performAll calls).elapsed.toNat +
          20 * (c.metered calls).starts.countP losesTicks =
        c.elapsed.toNat + (c.metered calls).handed ∧
      ((c.performAll calls).elapsed.toNat = c.elapsed.toNat + (c.metered calls).handed ↔
        ∀ b ∈ (c.metered calls).starts, b.losesTicks = false) ∧
      ((∀ b ∈ (c.metered calls).starts,
          Timer.Register.dividerAddress ∉ Event.targets (step b).events) →
        (c.performAll calls).machine.bus.timer.counter =
            c.machine.bus.timer.counter + UInt16.ofNat (c.metered calls).handed ∧
          ((∀ b ∈ (c.metered calls).starts, b.losesTicks = false) →
            (c.performAll calls).machine.bus.timer.counter =
              c.machine.bus.timer.counter +
                UInt16.ofNat ((c.performAll calls).elapsed.toNat - c.elapsed.toNat))) := by
  have hforget : (c.metered calls).console = c.performAll calls :=
    Metered.console_performAll (.ofConsole c) calls
  obtain ⟨helapsed, hcounter⟩ := accounted_metered hroom
  rw [hforget] at helapsed hcounter
  have hall : (c.performAll calls).elapsed.toNat = c.elapsed.toNat + (c.metered calls).handed ↔
      ∀ b ∈ (c.metered calls).starts, b.losesTicks = false := by
    have hnone : (c.metered calls).starts.countP losesTicks = 0 ↔
        ∀ b ∈ (c.metered calls).starts, b.losesTicks = false := by
      simp only [List.countP_eq_zero, Bool.not_eq_true]
    rw [← hnone]
    omega
  refine ⟨hforget, helapsed, hall, fun hwrites => ⟨hcounter hwrites, fun hnone => ?_⟩⟩
  rw [hcounter hwrites, hall.mpr hnone, Nat.add_sub_cancel_left]

/-- A step and a run for two more. -/
def stepAndRun : List Call :=
  [.step, .runFor (fun _ => false) 8]

/-- Three instructions that do nothing, in two calls. -/
theorem ticks_of_idling :
    (∀ b ∈ ((ofMachine .initial).metered stepAndRun).starts, b.HasRoom) ∧
      ((ofMachine .initial).performAll stepAndRun).elapsed.toNat = 12 ∧
      ((ofMachine .initial).performAll stepAndRun).machine.bus.timer.counter = 12 := by
  have hroom : ∀ b ∈ ((ofMachine .initial).metered stepAndRun).starts, b.HasRoom := by
    decide +kernel
  have hkept : ∀ b ∈ ((ofMachine .initial).metered stepAndRun).starts,
      b.losesTicks = false := by decide +kernel
  have hwrites : ∀ b ∈ ((ofMachine .initial).metered stepAndRun).starts,
      Timer.Register.dividerAddress ∉ Event.targets (step b).events := by decide +kernel
  have hhanded : ((ofMachine .initial).metered stepAndRun).handed = 12 := by decide +kernel
  obtain ⟨_, _, hall, hcounter⟩ :=
    ticks_are_counted_or_lost (ofMachine .initial) stepAndRun hroom
  refine ⟨hroom, ?_, ?_⟩
  · rw [hall.mpr hkept, hhanded]
    rfl
  · rw [(hcounter hwrites).1, hhanded]
    rfl

/-- The trapped console has handed out 20 ticks and counted none. -/
theorem not_ticks_are_counted :
    ¬ ∀ (c : Console) (calls : List Call), (∀ b ∈ (c.metered calls).starts, b.HasRoom) →
      (c.performAll calls).elapsed.toNat = c.elapsed.toNat + (c.metered calls).handed := by
  intro h
  have hroom : ∀ b ∈ (trapped.metered [.step]).starts, b.HasRoom := by decide +kernel
  have helapsed : (trapped.performAll [.step]).elapsed.toNat = 0 := by decide +kernel
  have hhanded : (trapped.metered [.step]).handed = 20 := by decide +kernel
  have hcount := h trapped [.step] hroom
  rw [helapsed, hhanded] at hcount
  cases hcount

end Console

end Handheld
