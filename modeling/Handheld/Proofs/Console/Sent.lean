import Mathlib.Data.List.Infix
import Handheld.Proofs.Bus.ReadBack
import Handheld.Proofs.Console.Runs
import Handheld.Proofs.Console.Trace

/-!
# What has been sent stays sent

A byte that is sent comes after all that were sent before it, and nothing takes it back.  So what
a bus has sent is the beginning of all that it sends later (`Bus.SendsOn`): after a write, after a
step of the console, whether it goes on or stops, and after any number of steps.
-/

namespace Handheld

namespace Bus

/-- What the first bus has sent is the beginning of what the second one has. -/
def SendsOn (bus bus' : Bus) : Prop :=
  bus.sent.toList <+: bus'.sent.toList

namespace SendsOn

variable {bus bus' bus'' : Bus}

theorem of_eq (h : bus'.sent = bus.sent) : bus.SendsOn bus' := by
  rw [SendsOn, h]

theorem trans (h : bus.SendsOn bus') (h' : bus'.SendsOn bus'') : bus.SendsOn bus'' :=
  List.IsPrefix.trans h h'

theorem write (bus : Bus) (address : Word) (v : Byte) : bus.SendsOn (bus.write address v) := by
  rw [SendsOn, sent_write]
  split
  · rw [Array.toList_push]
    exact List.prefix_append _ _
  · exact List.prefix_refl _

theorem writeAll (bus : Bus) (writes : List (Word × Byte)) :
    bus.SendsOn (bus.writeAll writes) := by
  induction writes generalizing bus with
  | nil => exact of_eq rfl
  | cons w writes ih => exact (write bus w.1 w.2).trans (ih _)

end SendsOn

end Bus

namespace Console

open Machine

variable {k n : Nat}

/-! ## Steps -/

theorem sendsOn_entry (m : Machine) : m.bus.SendsOn m.entry.bus := by
  cases h : m.bus.interrupts.pending? with
  | none =>
      rw [entry_of_not_pending h]
      exact .of_eq rfl
  | some k =>
      rw [entry_of_pending h]
      exact .writeAll (m.bus.mapInterrupts (·.accept k)) _

theorem sendsOn_machineStep (m : Machine) : m.bus.SendsOn (machineStep m).state.bus := by
  cases Machine.step_cases m with
  | idles _ hstep =>
      rw [machineStep_of_ok hstep]
      exact .of_eq rfl
  | undefined e _ _ hstep =>
      rw [machineStep_of_error hstep]
      exact .of_eq rfl
  | executes i ticks m' events _ _ hstep hexecuted =>
      obtain ⟨writes, hbus, _⟩ := hexecuted.written
      have hsent : m'.bus.sent = (m.bus.writeAll writes).sent := by
        rw [hbus]
        rfl
      rw [machineStep_of_ok hstep]
      exact (Bus.SendsOn.writeAll m.bus writes).trans (.of_eq hsent)

theorem sendsOn_step (c : Console) : c.machine.bus.SendsOn (step c).state.machine.bus := by
  obtain ⟨result, elapsed, hstep⟩ := step_eq_apart_from_count c
  rw [hstep]
  exact (sendsOn_entry c.machine).trans (sendsOn_machineStep c.machine.entry)

/-! ## Numbers of steps -/

theorem sendsOn_steps (n : Nat) (c : Console) :
    c.machine.bus.SendsOn (steps n c).state.machine.bus := by
  induction n generalizing c with
  | zero => exact .of_eq rfl
  | succ n ih =>
      rw [Nat.add_comm]
      rcases h : steps 1 c with ⟨result, c', events⟩
      have hfirst := sendsOn_step c
      rw [← steps_one, h] at hfirst
      cases result with
      | error s =>
          rw [steps_add_of_error h]
          exact hfirst
      | ok t =>
          rw [steps_add_of_ok h]
          exact hfirst.trans (ih c')

/-- More steps send what fewer steps send, and then more possibly. -/
theorem sendsOn_steps_of_le (c : Console) (h : k ≤ n) :
    (steps k c).state.machine.bus.SendsOn (steps n c).state.machine.bus := by
  obtain ⟨j, rfl⟩ := Nat.exists_eq_add_of_le h
  rcases hk : steps k c with ⟨_ | t, c', events⟩
  · rw [steps_add_of_error hk]
    exact .of_eq rfl
  · rw [steps_add_of_ok hk]
    exact sendsOn_steps j c'

end Console

end Handheld
