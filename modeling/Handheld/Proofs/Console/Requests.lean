import Handheld.Proofs.Bus.Requests
import Handheld.Proofs.Console.Trace

/-!
# Requests are neither lost nor invented

The parts of a step are the acceptance of an interrupt, with the return address that goes
onto the stack, the writes of the executed instruction, and the time that passes after
each.  The events that a part reports explain what it does to the interrupt controller, and
so the events of a step explain what has become of it in the end (`explain_step`), and those of
a run what has become of it after all of its steps (`explain_iterate`).
-/

namespace Handheld

namespace Event

variable {m m' : Machine} {i : Instruction} {ticks : Nat} {events : List Event}

theorem explain_executed (h : Machine.Executed m i ticks m' events) :
    Explain events m.bus.interrupts m'.bus.interrupts := by
  obtain ⟨writes, hbus, htargets⟩ := h.written
  refine (explain_writeAll m.bus htargets).trans (.of_bytes_eq ?_)
  rw [hbus]
  exact (InterruptController.bytes_finishInstruction _).trans
    (InterruptController.bytes_control _ _)

theorem explain_acceptingEvents (m : Machine) (k : Interrupt) :
    Explain (m.acceptingEvents k) m.bus.interrupts (m.accepting k).bus.interrupts := by
  let accepted := m.bus.mapInterrupts (·.accept k)
  have hpush : Explain (accepted.writeAllEvents (m.pushWrites m.cpu.pc)) accepted.interrupts
      (m.accepting k).bus.interrupts :=
    explain_writeAll accepted (Bus.targets_writeAllEvents _ _)
  exact (explain_accept m.bus.interrupts k).append hpush

theorem explain_acceptPending (m : Machine) :
    Explain (Console.acceptPending m).events m.bus.interrupts m.entry.bus.interrupts := by
  cases h : m.bus.interrupts.pending? with
  | none =>
      rw [Machine.entry_of_not_pending h]
      exact .of_bytes_eq rfl
  | some k =>
      rw [Console.acceptPending_of_pending h, Machine.entry_of_pending h]
      exact (explain_acceptingEvents m k).append (explain_tick _ _)

theorem explain_machineStep (m : Machine) :
    Explain (Console.machineStep m).events m.bus.interrupts
      (Console.machineStep m).state.bus.interrupts := by
  cases Machine.step_cases m with
  | idles _ hstep =>
      rw [Console.machineStep_of_ok hstep]
      exact explain_tick m.bus _
  | undefined e _ _ hstep =>
      rw [Console.machineStep_of_error hstep]
      exact .of_bytes_eq rfl
  | executes i ticks m' events _ _ hstep hexecuted =>
      rw [Console.machineStep_of_ok hstep]
      exact (explain_executed hexecuted).append (explain_tick m'.bus ticks)

theorem explain_step (c : Console) :
    Explain (Console.step c).events c.machine.bus.interrupts
      c.next.machine.bus.interrupts := by
  rw [Console.events_step, Console.machine_next]
  exact (explain_acceptPending c.machine).append (explain_machineStep c.machine.entry)

end Event

namespace Console

/-- What so many steps report, the first one first. -/
def eventsWithin (c : Console) (n : Nat) : List Event :=
  (List.range n).flatMap fun l => (step (next^[l] c)).events

theorem eventsWithin_succ (c : Console) (n : Nat) :
    c.eventsWithin (n + 1) = c.eventsWithin n ++ (step (next^[n] c)).events := by
  rw [eventsWithin, List.range_succ, List.flatMap_append, List.flatMap_singleton, eventsWithin]

/-- A request that is gone after any number of steps has been accepted or overwritten in one
of them, and so on for new requests and the enabled sources. -/
theorem explain_iterate (c : Console) (n : Nat) :
    Event.Explain (c.eventsWithin n) c.machine.bus.interrupts
      (next^[n] c).machine.bus.interrupts := by
  induction n with
  | zero => exact .of_bytes_eq rfl
  | succ n ih =>
      rw [eventsWithin_succ, Function.iterate_succ_apply']
      exact ih.append (Event.explain_step (next^[n] c))

/-- A step, whether it goes on or stops, leaves every request that is there, unless it
accepts the interrupt or writes the request byte; and it makes no request, unless it writes
the request byte or the timer register overflows, which requests the timer's interrupt.  The
three bits of the request byte that belong to no source change by such a write only, and the
enabled sources by a write to their own byte.  So the events of a run explain what has become of
both bytes after any number of steps. -/
theorem requests_neither_lost_nor_invented (c : Console) :
    (∀ k : Interrupt,
      c.machine.bus.interrupts.requests.toNat.testBit k.bit = true →
      c.next.machine.bus.interrupts.requests.toNat.testBit k.bit = false →
        .accepting k ∈ (step c).events ∨ 0xFF0F ∈ Event.targets (step c).events) ∧
    (∀ k : Interrupt,
      c.machine.bus.interrupts.requests.toNat.testBit k.bit = false →
      c.next.machine.bus.interrupts.requests.toNat.testBit k.bit = true →
        0xFF0F ∈ Event.targets (step c).events ∨
          k = .timer ∧ ∃ v, .timerOverflow v ∈ (step c).events) ∧
    (∀ n : Nat, 5 ≤ n →
      c.next.machine.bus.interrupts.requests.toNat.testBit n ≠
        c.machine.bus.interrupts.requests.toNat.testBit n →
        0xFF0F ∈ Event.targets (step c).events) ∧
    (c.next.machine.bus.interrupts.enable ≠ c.machine.bus.interrupts.enable →
      0xFFFF ∈ Event.targets (step c).events) ∧
    ∀ n : Nat, Event.Explain (c.eventsWithin n) c.machine.bus.interrupts
      (next^[n] c).machine.bus.interrupts := by
  have hexplain := Event.explain_step c
  refine ⟨fun k hbefore hafter => ?_, fun k hbefore hafter => ?_, fun n hn hne => ?_,
    hexplain.enable, explain_iterate c⟩
  · rcases hexplain.gone k.bit hbefore hafter with hwrite | ⟨k', hk', hmem⟩
    · exact .inr hwrite
    · obtain rfl := Interrupt.eq_of_bit_eq hk'
      exact .inl hmem
  · rcases hexplain.new k.bit hbefore hafter with hwrite | ⟨hk, hmem⟩
    · exact .inl hwrite
    · exact .inr ⟨Interrupt.eq_of_bit_eq hk, hmem⟩
  · have hsource : ∀ k : Interrupt, k.bit ≠ n := fun k =>
      Nat.ne_of_lt (Nat.lt_of_lt_of_le (Interrupt.bit_lt_length_all k) hn)
    cases hbefore : c.machine.bus.interrupts.requests.toNat.testBit n with
    | true =>
        rw [hbefore, Ne, Bool.not_eq_true] at hne
        rcases hexplain.gone n hbefore hne with hwrite | ⟨k, hk, -⟩
        · exact hwrite
        · exact absurd hk (hsource k)
    | false =>
        rw [hbefore, Ne, Bool.not_eq_false] at hne
        rcases hexplain.new n hbefore hne with hwrite | ⟨hk, -⟩
        · exact hwrite
        · exact absurd hk.symm (hsource .timer)

/-- A console whose timer register overflows while it accepts an interrupt. -/
def overflowing : Console :=
  ofMachine ⟨.initial, { Bus.initial with
    interrupts := ⟨1, 1, true, none⟩
    timer := ⟨0, 0xFF, 0, 5, 0⟩ }⟩

/-- A console whose stack lies over the request byte, and whose handler writes a byte to the
enabled sources. -/
def overwriting : Console :=
  ofMachine ⟨{ Cpu.initial with sp := 0xFF11, pc := 0x01E0 }, { Bus.initial with
    memory := Memory.zero.writeAll 0x0040 [0xE0, 0xFF]
    interrupts := ⟨3, 1, true, none⟩ }⟩

theorem requests_of_overflowing_and_overwriting :
    (.accepting .vblank ∈ (step overflowing).events ∨
        0xFF0F ∈ Event.targets (step overflowing).events) ∧
      (0xFF0F ∈ Event.targets (step overflowing).events ∨
        Interrupt.timer = .timer ∧ ∃ v, .timerOverflow v ∈ (step overflowing).events) ∧
      0xFF0F ∈ Event.targets (step overwriting).events ∧
      0xFFFF ∈ Event.targets (step overwriting).events := by
  obtain ⟨hgone, hnew, _, _⟩ := requests_neither_lost_nor_invented overflowing
  obtain ⟨_, _, hunassigned, henable, _⟩ := requests_neither_lost_nor_invented overwriting
  exact ⟨hgone .vblank (by decide +kernel) (by decide +kernel),
    hnew .timer (by decide +kernel) (by decide +kernel),
    hunassigned 5 (by decide) (by decide +kernel), henable (by decide +kernel)⟩

end Console

end Handheld
