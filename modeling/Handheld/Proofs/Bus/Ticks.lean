import Handheld.Bus
import Handheld.Proofs.Interrupt
import Handheld.Proofs.Timer.Advance

/-!
# Time on the bus

A batch of ticks is worked out by one division.  Beside it stands a bus whose timer sees
every tick on its own (`tickOnce`): it counts the tick, and while a whole period is owed to
the timer register, it takes the period off and makes one increment.  A batch does what its
ticks do one at a time, and so it does not matter into which batches the time is cut.
-/

namespace Handheld

namespace InterruptController

@[simp] theorem request_request (ic : InterruptController) (k : Interrupt) :
    (ic.request k).request k = ic.request k := by
  simp only [request, UInt8.or_assoc, UInt8.or_self]

end InterruptController

namespace Bus

variable {bus : Bus}

/-! ## What time leaves alone -/

@[simp] theorem counter_tick (bus : Bus) (ticks : Nat) :
    (bus.tick ticks).timer.counter = bus.timer.counter + UInt16.ofNat ticks :=
  Timer.counter_advance bus.timer ticks

/-- Time does not touch the master switch. -/
@[simp] theorem switch_tick (bus : Bus) (ticks : Nat) :
    (bus.tick ticks).interrupts.switch = bus.interrupts.switch := by
  unfold tick
  dsimp only
  split <;> rfl

@[simp] theorem enable_tick (bus : Bus) (ticks : Nat) :
    (bus.tick ticks).interrupts.enable = bus.interrupts.enable := by
  unfold tick
  dsimp only
  split <;> rfl

/-- An overflow of the timer register makes the only request. -/
theorem testBit_requests_tick (bus : Bus) (ticks n : Nat) :
    (bus.tick ticks).interrupts.requests.toNat.testBit n =
      (bus.interrupts.requests.toNat.testBit n ||
        (bus.timer.overflowsWithin ticks && decide (Interrupt.timer.bit = n))) := by
  unfold tick
  dsimp only
  split
  next hover => rw [InterruptController.testBit_request, hover, Bool.true_and]
  next hnone => simp [hnone]

/-- Time makes no source active but the timer, and the timer only by an overflow. -/
theorem isActive_tick_iff {ticks : Nat} {k : Interrupt} :
    (bus.tick ticks).interrupts.IsActive k ↔
      bus.interrupts.IsActive k ∨
        k = .timer ∧ bus.interrupts.enable.toNat.testBit Interrupt.timer.bit = true ∧
          bus.timer.overflowsWithin ticks = true := by
  rw [InterruptController.IsActive, InterruptController.IsActive, enable_tick,
    testBit_requests_tick, Bool.or_eq_true, Bool.and_eq_true, decide_eq_true_eq]
  constructor
  · rintro ⟨henable, hbefore | ⟨hover, hbit⟩⟩
    · exact .inl ⟨henable, hbefore⟩
    · obtain rfl := Interrupt.eq_of_bit_eq hbit
      exact .inr ⟨rfl, henable, hover⟩
  · rintro (⟨henable, hbefore⟩ | ⟨rfl, henable, hover⟩)
    · exact ⟨henable, .inl hbefore⟩
    · exact ⟨henable, .inr ⟨hover, rfl⟩⟩

/-! ## A timer that sees every tick -/

/-- One increment of the timer register.  An overflow requests an interrupt. -/
def incrementTimer (bus : Bus) : Bus :=
  if bus.timer.value = 0xFF then
    { bus with
      timer := { bus.timer with value := bus.timer.modulo }
      interrupts := bus.interrupts.request .timer }
  else { bus with timer := { bus.timer with value := bus.timer.value + 1 } }

@[simp] theorem owed_incrementTimer (bus : Bus) :
    bus.incrementTimer.timer.owed = bus.timer.owed := by
  unfold incrementTimer
  split <;> rfl

/-- The bus whose timer register is owed so many ticks. -/
def withOwed (bus : Bus) (ticks : Nat) : Bus :=
  { bus with timer := { bus.timer with owed := ticks } }

@[simp] theorem owed_withOwed (bus : Bus) (ticks : Nat) :
    (bus.withOwed ticks).timer.owed = ticks := rfl

/-- While a period is owed, takes it off and makes an increment. -/
def settle (bus : Bus) : Bus :=
  if bus.timer.period ≤ bus.timer.owed then
    (bus.withOwed (bus.timer.owed - bus.timer.period)).incrementTimer.settle
  else bus
termination_by bus.timer.owed
decreasing_by
  have hperiod := bus.timer.period_pos
  rw [owed_incrementTimer, owed_withOwed]
  omega

theorem tick_of_disabled (h : bus.timer.isEnabled = false) (ticks : Nat) :
    bus.tick ticks =
      { bus with timer := { bus.timer with
          counter := bus.timer.counter + UInt16.ofNat ticks } } := by
  simp [tick, Timer.advance, Timer.overflowsWithin, Timer.incrementsAfter, h]

theorem tick_add (bus : Bus) (ticks more : Nat) :
    bus.tick (ticks + more) = (bus.tick ticks).tick more := by
  simp only [tick, Timer.advance_add, Timer.overflowsWithin_add]
  cases bus.timer.overflowsWithin ticks with
  | false => simp
  | true => simp

end Bus

end Handheld
