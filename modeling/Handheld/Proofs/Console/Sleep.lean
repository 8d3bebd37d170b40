import Handheld.Proofs.Console.Faults
import Handheld.Proofs.Console.Nesting

/-!
# Sleep

A sleeping processor idles for four ticks at a time, and nothing changes but the timer.  So
it sleeps until an overflow of the timer register makes the timer's request, and for ever if
the timer is disabled or its interrupt is.  How many steps that takes follows from the ticks
that are left to the overflow (`sleepSteps`): it is no more than one step if the register is
so far behind that the next move takes it past its greatest value.  What wakes the processor
is then the timer alone, so the step after these accepts the timer's interrupt, or goes on
where the processor fell asleep if the master switch is off.
-/

namespace Handheld

/-- How many steps a processor idles until the timer wakes it. -/
def Timer.sleepSteps (t : Timer) : Nat :=
  max 1 ((t.ticksToOverflow + 3) / 4)

theorem Timer.sleepSteps_le_iff {t : Timer} {n : Nat} :
    t.sleepSteps ≤ n + 1 ↔ t.ticksToOverflow ≤ 4 * (n + 1) := by
  rw [sleepSteps]
  omega

namespace Machine

variable {m : Machine}

/-! ## What can wake a processor -/

theorem isIdle_iff :
    m.isIdle = true ↔ m.cpu.halted = true ∧ ∀ k, ¬ m.bus.interrupts.IsActive k := by
  rw [isIdle, Bool.and_eq_true, Bool.not_eq_true', ← Bool.not_eq_true,
    InterruptController.wakes_iff, not_exists]

theorem pending?_of_isIdle (h : m.isIdle = true) : m.bus.interrupts.pending? = none := by
  rw [Option.eq_none_iff_forall_ne_some]
  intro k hk
  exact (isIdle_iff.mp h).2 k (InterruptController.pending?_eq_some_iff.mp hk).active

/-- An overflow of the timer register would wake the processor. -/
def AwaitsTimer (m : Machine) : Prop :=
  m.bus.timer.isEnabled = true ∧
    m.bus.interrupts.enable.toNat.testBit Interrupt.timer.bit = true

instance (m : Machine) : Decidable m.AwaitsTimer :=
  inferInstanceAs (Decidable (_ ∧ _))

theorem isActive_after_iff (h : m.isIdle = true) {ticks : Nat} {k : Interrupt} :
    (m.after ticks).bus.interrupts.IsActive k ↔
      k = .timer ∧ m.AwaitsTimer ∧ m.bus.timer.ticksToOverflow ≤ ticks := by
  have hnone := (isIdle_iff.mp h).2 k
  rw [after, Bus.isActive_tick_iff, Timer.overflowsWithin_iff, or_iff_right hnone, AwaitsTimer]
  tauto

/-! ## A sleeping machine -/

/-- The machine that has idled for so many steps. -/
def dozing (m : Machine) : Nat → Machine
  | 0 => m
  | n + 1 => m.after (4 * (n + 1))

theorem dozing_succ (m : Machine) (n : Nat) : m.dozing (n + 1) = (m.dozing n).after 4 := by
  cases n with
  | zero => rfl
  | succ n =>
      simp only [dozing, after, ← Bus.tick_add]
      rfl

/-- The second machine differs from the first in nothing but the timer and the requests. -/
structure Undisturbed (m m' : Machine) : Prop where
  cpu : m'.cpu = m.cpu
  memory : m'.bus.memory = m.bus.memory
  sent : m'.bus.sent = m.bus.sent
  enable : m'.bus.interrupts.enable = m.bus.interrupts.enable
  switch : m'.bus.interrupts.switch = m.bus.interrupts.switch

theorem undisturbed_dozing (m : Machine) (n : Nat) : Undisturbed m (m.dozing n) := by
  cases n with
  | zero => exact ⟨rfl, rfl, rfl, rfl, rfl⟩
  | succ n => exact ⟨rfl, rfl, rfl, Bus.enable_tick _ _, Bus.switch_tick _ _⟩

theorem isActive_dozing_iff (h : m.isIdle = true) {n : Nat} {k : Interrupt} :
    (m.dozing n).bus.interrupts.IsActive k ↔
      k = .timer ∧ m.AwaitsTimer ∧ m.bus.timer.sleepSteps ≤ n := by
  cases n with
  | zero =>
      have hpositive : ¬ m.bus.timer.sleepSteps ≤ 0 :=
        Nat.not_le.mpr (Nat.lt_of_lt_of_le Nat.zero_lt_one (Nat.le_max_left _ _))
      exact iff_of_false ((isIdle_iff.mp h).2 k) fun hall => hpositive hall.2.2
  | succ n => rw [dozing, isActive_after_iff h, Timer.sleepSteps_le_iff]

theorem isIdle_dozing_iff (h : m.isIdle = true) {n : Nat} :
    (m.dozing n).isIdle = true ↔ (m.AwaitsTimer → n < m.bus.timer.sleepSteps) := by
  have hhalted : (m.dozing n).cpu.halted = true := by
    rw [(undisturbed_dozing m n).cpu]
    exact (isIdle_iff.mp h).1
  rw [isIdle_iff, and_iff_right hhalted]
  simp only [isActive_dozing_iff h]
  constructor
  · intro hnone hawaits
    exact Nat.not_le.mp fun hle => hnone .timer ⟨rfl, hawaits, hle⟩
  · rintro hsleeps k ⟨_, hawaits, hle⟩
    exact Nat.not_le.mpr (hsleeps hawaits) hle

/-- While the timer is awaited, its request is made with the last idle step. -/
theorem testBit_requests_dozing (h : m.isIdle = true) (hawaits : m.AwaitsTimer) (n : Nat) :
    (m.dozing n).bus.interrupts.requests.toNat.testBit Interrupt.timer.bit =
      decide (m.bus.timer.sleepSteps ≤ n) := by
  have henable : (m.dozing n).bus.interrupts.enable.toNat.testBit Interrupt.timer.bit = true := by
    rw [(undisturbed_dozing m n).enable]
    exact hawaits.2
  have hactive := isActive_dozing_iff h (n := n) (k := .timer)
  rw [InterruptController.IsActive, and_iff_right henable, eq_self, true_and,
    and_iff_right hawaits] at hactive
  rw [Bool.eq_iff_iff, decide_eq_true_eq, hactive]

/-- The timer wakes the processor, and no other source does. -/
theorem pending_dozing (h : m.isIdle = true) (hawaits : m.AwaitsTimer)
    (hmaster : (m.dozing m.bus.timer.sleepSteps).bus.interrupts.master = true) :
    (m.dozing m.bus.timer.sleepSteps).bus.interrupts.Pending .timer where
  master := hmaster
  active := (isActive_dozing_iff h).mpr ⟨rfl, hawaits, Nat.le_refl _⟩
  first := by
    intro j hj hactive
    rw [((isActive_dozing_iff h).mp hactive).1] at hj
    exact Nat.lt_irrefl _ hj

end Machine

namespace Console

open Machine

variable {c : Console}

/-! ## Idle steps -/

theorem next_of_isIdle (h : c.machine.isIdle = true)
    (hroom : c.elapsed.toNat + 4 < UInt64.size) :
    (step c).result = .ok 4 ∧ c.next = ⟨c.machine.after 4, c.elapsed + 4⟩ := by
  have hpending := pending?_of_isIdle h
  have hidle : Machine.step c.machine.entry = ⟨.ok idleTicks, c.machine, []⟩ := by
    rw [entry_of_not_pending hpending]
    exact Machine.step_of_isIdle h
  rw [next]
  cases step_cases c with
  | stops _ _ hmachine _ _ =>
      rw [hidle] at hmachine
      cases hmachine
  | full _ _ _ _ hmachine hfull _ =>
      rw [hidle] at hmachine
      cases hmachine
      rw [entryTicks_of_not_pending hpending] at hfull
      exact absurd hroom hfull
  | goesOn _ _ _ _ hmachine _ hstep _ =>
      rw [hidle] at hmachine
      cases hmachine
      rw [entryTicks_of_not_pending hpending] at hstep
      rw [hstep]
      exact ⟨rfl, rfl⟩

/-- A processor that would sleep for so many steps idles in each of them. -/
theorem iterate_next_of_isIdle {n : Nat}
    (hidle : ∀ j < n, (c.machine.dozing j).isIdle = true)
    (hroom : c.elapsed.toNat + 4 * n < UInt64.size) :
    (∀ j < n, (step (next^[j] c)).result = .ok 4) ∧
      next^[n] c = ⟨c.machine.dozing n, c.elapsed + UInt64.ofNat (4 * n)⟩ := by
  induction n with
  | zero =>
      refine ⟨fun j hj => absurd hj (Nat.not_lt_zero j), ?_⟩
      show c = ⟨c.machine, c.elapsed + 0⟩
      rw [UInt64.add_zero]
  | succ n ih =>
      obtain ⟨hbefore, hnow⟩ := ih (fun j hj => hidle j (Nat.lt_succ_of_lt hj)) (by omega)
      have hroom' : (next^[n] c).elapsed.toNat + 4 < UInt64.size := by
        rw [hnow]
        show (c.elapsed + UInt64.ofNat (4 * n)).toNat + 4 < UInt64.size
        rw [toNat_elapsed_add (by omega)]
        omega
      have hasleep : (next^[n] c).machine.isIdle = true := by
        rw [hnow]
        exact hidle n n.lt_succ_self
      obtain ⟨hresult, hnext⟩ := next_of_isIdle hasleep hroom'
      refine ⟨fun j hj => ?_, ?_⟩
      · rcases Nat.lt_succ_iff_lt_or_eq.mp hj with hlt | rfl
        · exact hbefore j hlt
        · exact hresult
      · rw [Function.iterate_succ_apply', hnext, hnow, dozing_succ, UInt64.add_assoc,
          Nat.mul_succ, UInt64.ofNat_add]
        rfl

/-! ## The step after sleep -/

/-- A step from here executes what the machine fetches, or stops with its error. -/
structure Fetches (c : Console) (m : Machine) : Prop where
  executed : ∀ i, m.fetch = .ok i →
    .executing i ∈ (step c).events ∧
      ∃ ticks, (Machine.step m).result = .ok ticks ∧
        (step c).result = .ok (c.machine.entryTicks + ticks) ∧
        c.next.machine = (Machine.step m).state.after ticks
  stopped : ∀ e, m.fetch = .error e →
    (step c).result = .error (.undefinedOpcode e) ∧ c.next.machine = m

theorem fetches_entry (hawake : c.machine.entry.isIdle = false)
    (hroom : c.elapsed.toNat + 44 < UInt64.size) : c.Fetches c.machine.entry where
  executed := by
    intro i hfetch
    refine ⟨executing_mem_events_iff.mpr (upcoming?_of_fetch hawake hfetch), ?_⟩
    rw [machine_next]
    obtain ⟨ticks, m', events, hrun, _⟩ := run_of_fits (fits_of_fetch hfetch) c.machine.entry
    have hmachine := (Machine.step_of_fetch hawake hfetch).trans hrun
    refine ⟨ticks, by rw [hmachine], ?_, by rw [machineStep_of_ok hmachine, hmachine]⟩
    have hticks := (Machine.ticks_of_step (congrArg Outcome.result hmachine)).2.2
    have hentry := c.machine.entryTicks_le
    cases step_cases c with
    | stops _ _ hstop _ _ =>
        rw [hmachine] at hstop
        cases hstop
    | full _ _ _ _ hgo hfull _ =>
        rw [hmachine] at hgo
        cases hgo
        exact absurd (by omega) hfull
    | goesOn _ _ _ _ hgo _ hstep _ =>
        rw [hmachine] at hgo
        cases hgo
        rw [hstep]
  stopped := by
    intro e hfetch
    have hmachine := Machine.step_of_undefined hawake hfetch
    have hstop := step_eq_undefinedOpcode_iff.mpr hmachine
    refine ⟨hstop, ?_⟩
    rw [next_of_undefinedOpcode hstop]

/-- The console as the timer has woken its processor, which slept with the registers of `cpu`:
its next step does not idle.  With the master switch on, that step accepts the timer's
interrupt, puts the address at which the processor slept onto the stack, and executes what
stands at 0x50.  With the switch off, it accepts nothing and executes what stands at the
program counter. -/
structure WokenByTimer (cpu : Cpu) (c : Console) : Prop where
  awake : c.machine.isIdle = false
  interrupted : c.machine.bus.interrupts.master = true →
    .accepting .timer ∈ (step c).events ∧
      c.machine.entry =
        ⟨{ cpu with halted := false, sp := cpu.sp - 1 - 1, pc := 0x50 },
          ((c.machine.bus.mapInterrupts (·.accept .timer)).writeAll
            [(cpu.sp - 1, Word.high cpu.pc), (cpu.sp - 1 - 1, Word.low cpu.pc)]).tick 20⟩ ∧
      c.Fetches c.machine.entry
  resumed : c.machine.bus.interrupts.master = false →
    ¬ c.Accepts ∧ c.machine.cpu = cpu ∧ c.Fetches c.machine

theorem wokenByTimer {m : Machine} (hidle : m.isIdle = true) (hawaits : m.AwaitsTimer)
    (hmachine : c.machine = m.dozing m.bus.timer.sleepSteps)
    (hroom : c.elapsed.toNat + 44 < UInt64.size) : WokenByTimer m.cpu c := by
  have hsame : c.machine.cpu = m.cpu := by rw [hmachine, (undisturbed_dozing m _).cpu]
  have hawake : c.machine.isIdle = false := by
    rw [← Bool.not_eq_true, hmachine, isIdle_dozing_iff hidle]
    exact fun hsleeps => Nat.lt_irrefl _ (hsleeps hawaits)
  refine ⟨hawake, fun hmaster => ?_, fun hmaster => ?_⟩
  · have hpending : c.machine.bus.interrupts.Pending .timer := by
      rw [hmachine] at hmaster ⊢
      exact pending_dozing hidle hawaits hmaster
    have hentry := entry_of_pending (InterruptController.pending?_eq_some_iff.mpr hpending)
    refine ⟨accepting_mem_events_iff.mpr hpending, ?_, fetches_entry ?_ hroom⟩
    · rw [hentry, ← hsame]
      rfl
    · rw [hentry]
      rfl
  · have hentry := entry_of_not_pending (InterruptController.pending?_of_master_off hmaster)
    refine ⟨fun haccepts => ?_, hsame, ?_⟩
    · obtain ⟨k, hk⟩ := accepts_iff.mp haccepts
      rw [hk.master] at hmaster
      cases hmaster
    · have hawake' : c.machine.entry.isIdle = false := by
        rw [hentry]
        exact hawake
      have hfetches := fetches_entry hawake' hroom
      rwa [hentry] at hfetches

/-! ## Until the timer wakes the processor -/

/-- A processor sleeps and no source is active.  If an overflow of the timer register would
wake it, it idles for exactly `sleepSteps` steps, in which nothing changes but the timer, and
the timer's request is made with the last of them; the step after these does not idle.
Otherwise the processor sleeps for as long as the tick counter has room. -/
theorem sleeps_until_timer_overflows (c : Console)
    (hhalted : c.machine.cpu.halted = true)
    (hnone : c.machine.bus.interrupts.enable &&& c.machine.bus.interrupts.requests &&& 0x1F = 0) :
    (c.machine.AwaitsTimer →
      c.elapsed.toNat + 4 * c.machine.bus.timer.sleepSteps + 44 < UInt64.size →
        (∀ n < c.machine.bus.timer.sleepSteps, (step (next^[n] c)).result = .ok 4) ∧
        (∀ n ≤ c.machine.bus.timer.sleepSteps,
          Undisturbed c.machine (next^[n] c).machine ∧
          (next^[n] c).machine.bus.interrupts.requests.toNat.testBit 2 =
            decide (n = c.machine.bus.timer.sleepSteps)) ∧
        WokenByTimer c.machine.cpu (next^[c.machine.bus.timer.sleepSteps] c)) ∧
    (¬ c.machine.AwaitsTimer →
      ∀ n, c.elapsed.toNat + 4 * n < UInt64.size →
        (∀ j < n, (step (next^[j] c)).result = .ok 4) ∧
        Undisturbed c.machine (next^[n] c).machine) := by
  have hidle : c.machine.isIdle = true := Machine.isIdle_eq_true_iff.mpr ⟨hhalted, hnone⟩
  refine ⟨fun hawaits hroom => ?_, fun hnever n hroom => ?_⟩
  · have hrun : ∀ n ≤ c.machine.bus.timer.sleepSteps,
        (∀ j < n, (step (next^[j] c)).result = .ok 4) ∧
          next^[n] c = ⟨c.machine.dozing n, c.elapsed + UInt64.ofNat (4 * n)⟩ := by
      intro n hn
      refine iterate_next_of_isIdle (fun j hj => ?_) (by omega)
      exact (isIdle_dozing_iff hidle).mpr fun _ => Nat.lt_of_lt_of_le hj hn
    obtain ⟨hresults, hlast⟩ := hrun _ (Nat.le_refl _)
    refine ⟨hresults, fun n hn => ?_, ?_⟩
    · rw [(hrun n hn).2]
      refine ⟨undisturbed_dozing _ n, (testBit_requests_dozing hidle hawaits n).trans ?_⟩
      exact decide_eq_decide.mpr ⟨fun h => Nat.le_antisymm hn h, fun h => Nat.le_of_eq h.symm⟩
    · refine wokenByTimer hidle hawaits (by rw [hlast]) ?_
      rw [hlast]
      show (c.elapsed + UInt64.ofNat _).toNat + 44 < UInt64.size
      rw [toNat_elapsed_add (by omega)]
      exact hroom
  · have hsleeps : ∀ j < n, (c.machine.dozing j).isIdle = true := fun j _ =>
      (isIdle_dozing_iff hidle).mpr fun hawaits => absurd hawaits hnever
    obtain ⟨hresults, hnow⟩ := iterate_next_of_isIdle hsleeps hroom
    refine ⟨hresults, ?_⟩
    rw [hnow]
    exact undisturbed_dozing _ n

/-- A sleeping processor whose timer register is behind: 100 ticks are owed to it at a period
of 16, and it overflows after 48 of them.  The master switch is on. -/
def sleepingBehind : Console :=
  ofMachine ⟨{ Cpu.initial with halted := true }, { Bus.initial with
    interrupts := ⟨0x04, 0x02, true, none⟩
    timer := ⟨0, 0xFD, 0x80, 0x05, 100⟩ }⟩

/-- A sleeping processor with 46 ticks to the overflow and the master switch off. -/
def sleepingMasked : Console :=
  ofMachine ⟨{ Cpu.initial with halted := true }, { Bus.initial with
    interrupts := ⟨0x14, 0x03, false, none⟩
    timer := ⟨0, 0xFD, 0, 0x05, 2⟩ }⟩

/-- A sleeping processor whose timer is disabled. -/
def sleepingUntimed : Console :=
  ofMachine ⟨{ Cpu.initial with halted := true }, { Bus.initial with
    interrupts := ⟨0x04, 0, true, none⟩
    timer := ⟨0, 0xFF, 0, 0x01, 15⟩ }⟩

/-- The first sleeps for one step and the second for twelve; the third sleeps on. -/
theorem sleeps_until_timer_overflows_or_on :
    (sleepingBehind.machine.bus.timer.sleepSteps = 1 ∧
        WokenByTimer sleepingBehind.machine.cpu (next^[1] sleepingBehind)) ∧
      (sleepingMasked.machine.bus.timer.sleepSteps = 12 ∧
        WokenByTimer sleepingMasked.machine.cpu (next^[12] sleepingMasked)) ∧
      Undisturbed sleepingUntimed.machine (next^[1000000] sleepingUntimed).machine := by
  have hbehind := (sleeps_until_timer_overflows sleepingBehind rfl rfl).1 (by decide) (by decide)
  have hmasked := (sleeps_until_timer_overflows sleepingMasked rfl rfl).1 (by decide) (by decide)
  have huntimed := (sleeps_until_timer_overflows sleepingUntimed rfl rfl).2 (by decide) 1000000
    (by decide)
  exact ⟨⟨rfl, hbehind.2.2⟩, ⟨rfl, hmasked.2.2⟩, huntimed.2⟩

end Console

end Handheld
