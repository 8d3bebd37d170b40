import Mathlib.Logic.Function.Iterate
import Handheld.Proofs.Console.Step

/-!
# Undefined opcodes

A machine that is not asleep stops at an undefined opcode, which it names, and at nothing
else; it is then as it was before the step.  A console may have accepted an interrupt in
the same step, and then that is all that has changed.  In either case no interrupt can be
pending afterwards, so the console stays where it is, whatever number of steps is taken.
-/

namespace Handheld.Console

variable {c : Console} {e : UndefinedOpcode}

/-- The console after a step, whether it went on or not. -/
def next (c : Console) : Console :=
  (step c).state

/-- A console stops where the machine does that has accepted the pending interrupt. -/
theorem step_eq_undefinedOpcode_iff :
    (step c).result = .error (.undefinedOpcode e) ↔
      Machine.step c.machine.entry = ⟨.error (.undefinedOpcode e), c.machine.entry, []⟩ := by
  cases step_cases c with
  | stops e' _ hmachine hstep _ =>
      rw [hstep, hmachine]
      simp
  | full _ _ _ _ hmachine _ hstep | goesOn _ _ _ _ hmachine _ hstep _ =>
      rw [hstep, hmachine]
      simp

theorem next_of_undefinedOpcode (h : (step c).result = .error (.undefinedOpcode e)) :
    c.next = ⟨c.machine.entry, c.elapsed⟩ := by
  have hmachine := step_eq_undefinedOpcode_iff.mp h
  rw [next]
  cases step_cases c with
  | stops _ _ _ hstep _ => rw [hstep]
  | full _ _ _ _ hgo _ _ | goesOn _ _ _ _ hgo _ _ _ =>
      rw [hmachine] at hgo
      cases hgo

/-- A console that has stopped stops again, and has come to rest. -/
theorem next_again (h : (step c).result = .error (.undefinedOpcode e)) :
    (step c.next).result = .error (.undefinedOpcode e) ∧ c.next.next = c.next := by
  have hmachine := step_eq_undefinedOpcode_iff.mp h
  rw [next_of_undefinedOpcode h]
  have hagain : (step ⟨c.machine.entry, c.elapsed⟩).result = .error (.undefinedOpcode e) := by
    rw [step_eq_undefinedOpcode_iff, Machine.entry_entry]
    exact hmachine
  refine ⟨hagain, ?_⟩
  rw [next_of_undefinedOpcode hagain, Machine.entry_entry]

theorem iterate_next (h : (step c).result = .error (.undefinedOpcode e)) (n : Nat) :
    next^[n] c.next = c.next :=
  Function.iterate_fixed (next_again h).2 n

/-- A machine stops exactly at an undefined opcode that it meets awake, with an error that
names the opcode and its address, and nothing about it changes; the marker of the extended
page never stops it.  A console that stops has done nothing but accept the pending
interrupt, if there was one, and every further step ends with the same error and changes
nothing. -/
theorem undefinedOpcode_stops_for_good :
    (∀ (m : Machine) (s : Stop),
      (Machine.step m).result = .error s ↔
        (m.cpu.halted = false ∨
            m.bus.interrupts.enable &&& m.bus.interrupts.requests &&& 0x1F ≠ 0) ∧
          m.bus.read m.cpu.pc ∈ Opcode.undefinedCodes ∧
          s = .undefinedOpcode ⟨m.bus.read m.cpu.pc, .base, m.cpu.pc⟩) ∧
    (∀ (m : Machine) (s : Stop),
      (Machine.step m).result = .error s → (Machine.step m).state = m) ∧
    (∀ m : Machine,
      m.bus.read m.cpu.pc = OpcodePage.marker → ∃ ticks, (Machine.step m).result = .ok ticks) ∧
    ∀ (c : Console) (e : UndefinedOpcode),
      (step c).result = .error (.undefinedOpcode e) →
        ((∀ k, ¬ c.machine.bus.interrupts.Pending k) → c.next = c) ∧
        (∀ k, c.machine.bus.interrupts.Pending k →
          c.next = ⟨(Machine.accept k c.machine).state.after 20, c.elapsed⟩) ∧
        ∀ n : Nat,
          next^[n] c.next = c.next ∧
            (step (next^[n] c.next)).result = .error (.undefinedOpcode e) := by
  refine ⟨fun m s => Machine.step_stops_iff, fun m s h => ?_, fun m => Machine.step_of_marker,
    fun c e h => ⟨?_, ?_, ?_⟩⟩
  · rw [Machine.step_eq_of_error h]
  · intro hnone
    have hpending : c.machine.bus.interrupts.pending? = none := by
      rw [Option.eq_none_iff_forall_ne_some]
      intro k hk
      exact hnone k (InterruptController.pending?_eq_some_iff.mp hk)
    rw [next_of_undefinedOpcode h, Machine.entry_of_not_pending hpending]
  · intro k hk
    have hpending := InterruptController.pending?_eq_some_iff.mpr hk
    rw [next_of_undefinedOpcode h, Machine.entry_of_pending hpending, Machine.accept_eq]
    rfl
  · intro n
    rw [iterate_next h n]
    exact ⟨rfl, (next_again h).1⟩

/-- A console that is about to accept an interrupt whose handler is an undefined opcode. -/
def trapped : Console :=
  ofMachine ⟨.initial, { Bus.initial with
    memory := Memory.zero.write 0x40 0xD3
    interrupts := ⟨1, 1, true, none⟩ }⟩

/-- The trapped console accepts the interrupt and stays where that has led it. -/
theorem trapped_stops_for_good :
    (step trapped).result = .error (.undefinedOpcode ⟨0xD3, .base, 0x40⟩) ∧
      trapped.machine.bus.interrupts.Pending .vblank ∧
      trapped.next = ⟨(Machine.accept .vblank trapped.machine).state.after 20, 0⟩ ∧
      ∀ n : Nat, next^[n] trapped.next = trapped.next ∧
        (step (next^[n] trapped.next)).result =
          .error (.undefinedOpcode ⟨0xD3, .base, 0x40⟩) := by
  have hstop : (step trapped).result = .error (.undefinedOpcode ⟨0xD3, .base, 0x40⟩) := by
    decide +kernel
  have hpending : trapped.machine.bus.interrupts.Pending .vblank := by
    rw [← InterruptController.pending?_eq_some_iff]
    decide
  obtain ⟨_, _, _, hconsole⟩ := undefinedOpcode_stops_for_good
  obtain ⟨_, haccepted, hagain⟩ := hconsole trapped _ hstop
  exact ⟨hstop, hpending, haccepted .vblank hpending, hagain⟩

end Handheld.Console
