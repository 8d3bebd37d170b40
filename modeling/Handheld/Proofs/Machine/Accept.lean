import Handheld.Machine.Step
import Handheld.Proofs.Bus.Writes

/-!
# Accepting an interrupt

Accepting an interrupt wakes the processor, turns the master switch off, puts the program
counter on the stack and moves it to the handler.  All of this is one equation
(`accept_eq`), put together from those of the actions that it consists of.  What the two
writes to the stack overwrite does not matter to the master switch
(`switch_accepting`).
-/

namespace Handheld

namespace Bus

theorem targets_writeAllEvents (bus : Bus) (writes : List (Word × Byte)) :
    Event.targets (bus.writeAllEvents writes) = writes.map Prod.fst := by
  induction writes generalizing bus with
  | nil => rfl
  | cons w writes ih =>
      simp only [writeAllEvents, Event.targets_append, Event.targets_writeEvents, ih,
        List.map_cons, List.singleton_append]

end Bus

namespace Machine

/-! ## Pushing -/

theorem write_eq (m : Machine) (address : Word) (v : Byte) :
    write address v m =
      ⟨.ok (), ⟨m.cpu, m.bus.write address v⟩, m.bus.writeEvents address v⟩ := by
  show Outcome.mk _ _ (m.bus.writeEvents address v ++ []) = _
  rw [List.append_nil]

theorem pushByte_eq (m : Machine) (v : Byte) :
    pushByte v m =
      ⟨.ok (), ⟨{ m.cpu with sp := m.cpu.sp - 1 }, m.bus.write (m.cpu.sp - 1) v⟩,
        m.bus.writeEvents (m.cpu.sp - 1) v⟩ := by
  have hmove : modifyCpu (fun cpu => { cpu with sp := cpu.sp - 1 }) m =
      ⟨.ok (), ⟨{ m.cpu with sp := m.cpu.sp - 1 }, m.bus⟩, []⟩ := rfl
  have hview : viewCpu Cpu.sp ⟨{ m.cpu with sp := m.cpu.sp - 1 }, m.bus⟩ =
      ⟨.ok (m.cpu.sp - 1), ⟨{ m.cpu with sp := m.cpu.sp - 1 }, m.bus⟩, []⟩ := rfl
  rw [pushByte, Action.bind_of_silent hmove, Action.bind_of_silent hview, write_eq]

/-- The writes by which a word comes onto the stack, the high byte first. -/
def pushWrites (m : Machine) (v : Word) : List (Word × Byte) :=
  [(m.cpu.sp - 1, Word.high v), (m.cpu.sp - 1 - 1, Word.low v)]

theorem push_eq (m : Machine) (v : Word) :
    push v m =
      ⟨.ok (), ⟨{ m.cpu with sp := m.cpu.sp - 1 - 1 }, m.bus.writeAll (m.pushWrites v)⟩,
        m.bus.writeAllEvents (m.pushWrites v)⟩ := by
  rw [push, Action.bind_of_ok (pushByte_eq m (Word.high v)), pushByte_eq]
  simp only [pushWrites, Bus.writeAllEvents, Bus.writeAll_cons, Bus.writeAll_nil,
    List.append_nil]

theorem callTo_eq (m : Machine) (address : Word) :
    callTo address m =
      ⟨.ok (), ⟨{ m.cpu with sp := m.cpu.sp - 1 - 1, pc := address },
        m.bus.writeAll (m.pushWrites m.cpu.pc)⟩,
        m.bus.writeAllEvents (m.pushWrites m.cpu.pc)⟩ := by
  have hview : viewCpu Cpu.pc m = ⟨.ok m.cpu.pc, m, []⟩ := rfl
  rw [callTo, Action.bind_of_silent hview, Action.bind_of_ok (push_eq m m.cpu.pc)]
  show Outcome.mk _ _ (_ ++ []) = _
  rw [List.append_nil]
  rfl

/-! ## Accepting -/

/-- The machine that has accepted an interrupt and is about to run its handler. -/
def accepting (m : Machine) (k : Interrupt) : Machine :=
  ⟨{ m.cpu with halted := false, sp := m.cpu.sp - 1 - 1, pc := k.vector },
    (m.bus.mapInterrupts (·.accept k)).writeAll (m.pushWrites m.cpu.pc)⟩

/-- What is reported of the acceptance. -/
def acceptingEvents (m : Machine) (k : Interrupt) : List Event :=
  .accepting k :: (m.bus.mapInterrupts (·.accept k)).writeAllEvents (m.pushWrites m.cpu.pc)

theorem accept_eq (m : Machine) (k : Interrupt) :
    accept k m = ⟨.ok acceptTicks, m.accepting k, m.acceptingEvents k⟩ := by
  have hreport : Action.report (fun _ => [.accepting k]) m = ⟨.ok (), m, [.accepting k]⟩ := rfl
  have hcontrol : modifyInterrupts (·.accept k) m =
      ⟨.ok (), ⟨m.cpu, m.bus.mapInterrupts (·.accept k)⟩, []⟩ := rfl
  have hwake : modifyCpu (fun cpu => { cpu with halted := false })
        ⟨m.cpu, m.bus.mapInterrupts (·.accept k)⟩ =
      ⟨.ok (), ⟨{ m.cpu with halted := false }, m.bus.mapInterrupts (·.accept k)⟩, []⟩ := rfl
  rw [accept, Action.bind_of_ok hreport, Action.bind_of_silent hcontrol,
    Action.bind_of_silent hwake, Action.bind_of_ok (callTo_eq _ k.vector)]
  show Outcome.mk _ _ ([.accepting k] ++ (_ ++ [])) = _
  rw [List.append_nil]
  rfl

theorem targets_acceptingEvents (m : Machine) (k : Interrupt) :
    Event.targets (m.acceptingEvents k) = (m.pushWrites m.cpu.pc).map Prod.fst := by
  show Event.targets (Bus.writeAllEvents _ _) = _
  rw [Bus.targets_writeAllEvents]

/-- An accepted interrupt leaves the master switch off, whatever the writes to the stack
overwrite. -/
@[simp] theorem switch_accepting (m : Machine) (k : Interrupt) :
    (m.accepting k).bus.interrupts.switch = (false, none) := by
  rw [accepting, Bus.switch_writeAll]
  rfl

theorem counter_accepting {m : Machine} (k : Interrupt)
    (hwrites : Timer.Register.dividerAddress ∉ (m.pushWrites m.cpu.pc).map Prod.fst) :
    (m.accepting k).bus.timer.counter = m.bus.timer.counter :=
  Bus.counter_writeAll _ hwrites

end Machine

end Handheld
