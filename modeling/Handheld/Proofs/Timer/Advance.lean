import Handheld.Proofs.Timer.Increments

/-!
# Moving the timer forward

Ticks add up: the timer that has moved forward twice is the one that has moved forward by
the sum at once (`advance_add`), and its register has overflowed on the way if it does so
in the sum (`overflowsWithin_add`).  What carries this is that the ticks that do not fill a
period stay owed, so that no increment is lost between the two (`incrementsAfter_add`).
When the register overflows can be told in advance (`overflowsWithin_iff`).
-/

namespace Handheld

attribute [ext] Timer

namespace Timer

/-! ## The fields after a move -/

@[simp] theorem counter_advance (t : Timer) (ticks : Nat) :
    (t.advance ticks).counter = t.counter + UInt16.ofNat ticks := by
  unfold advance
  dsimp only
  split
  · rw [counter_increment]
  · rfl

@[simp] theorem modulo_advance (t : Timer) (ticks : Nat) :
    (t.advance ticks).modulo = t.modulo := by
  unfold advance
  dsimp only
  split
  · rw [modulo_increment]
  · rfl

@[simp] theorem control_advance (t : Timer) (ticks : Nat) :
    (t.advance ticks).control = t.control := by
  unfold advance
  dsimp only
  split
  · rw [control_increment]
  · rfl

theorem owed_advance (t : Timer) (ticks : Nat) :
    (t.advance ticks).owed =
      if t.isEnabled then (t.owed + ticks) % t.period else t.owed := by
  unfold advance
  dsimp only
  split
  · rw [owed_increment]
  · rfl

theorem value_advance (t : Timer) (ticks : Nat) :
    (t.advance ticks).value = (t.increment (t.incrementsAfter ticks)).value := by
  unfold advance
  dsimp only
  split
  next => apply value_increment_congr <;> rfl
  next hdisabled => rw [incrementsAfter, if_neg hdisabled, increment_zero]

@[simp] theorem isEnabled_advance (t : Timer) (ticks : Nat) :
    (t.advance ticks).isEnabled = t.isEnabled := by
  rw [isEnabled, control_advance, isEnabled]

@[simp] theorem period_advance (t : Timer) (ticks : Nat) :
    (t.advance ticks).period = t.period := by
  rw [period, control_advance, period]

/-- The slowest clock has a period of 1024 ticks. -/
theorem period_le (t : Timer) : t.period ≤ 1024 := by
  unfold period
  split <;> decide

/-! ## Sums of ticks -/

/-- The rest of a division may be taken before more is added. -/
theorem div_add_div_of_mod (owed ticks period : Nat) (h : 0 < period) :
    owed / period + (owed % period + ticks) / period = (owed + ticks) / period := by
  have hsplit : owed + ticks = period * (owed / period) + (owed % period + ticks) := by
    rw [← Nat.add_assoc, Nat.div_add_mod]
  rw [hsplit, Nat.mul_add_div h]

theorem incrementsAfter_add (t : Timer) (ticks more : Nat) :
    t.incrementsAfter (ticks + more) =
      t.incrementsAfter ticks + (t.advance ticks).incrementsAfter more := by
  simp only [incrementsAfter, isEnabled_advance, period_advance, owed_advance]
  split
  · rw [div_add_div_of_mod _ _ _ t.period_pos, Nat.add_assoc]
  · rfl

theorem value_advance_advance (t : Timer) (ticks more : Nat) :
    ((t.advance ticks).advance more).value = (t.advance (ticks + more)).value := by
  rw [value_advance, value_advance, incrementsAfter_add, increment_add]
  exact value_increment_congr (value_advance t ticks)
    ((modulo_advance t ticks).trans (modulo_increment t _).symm) _

theorem owed_advance_advance (t : Timer) (ticks more : Nat) :
    ((t.advance ticks).advance more).owed = (t.advance (ticks + more)).owed := by
  simp only [owed_advance, isEnabled_advance, period_advance]
  split
  · rw [Nat.mod_add_mod, Nat.add_assoc]
  · rfl

theorem advance_add (t : Timer) (ticks more : Nat) :
    t.advance (ticks + more) = (t.advance ticks).advance more := by
  apply Timer.ext
  · simp only [counter_advance, UInt16.ofNat_add, UInt16.add_assoc]
  · exact (value_advance_advance t ticks more).symm
  · simp only [modulo_advance]
  · simp only [control_advance]
  · exact (owed_advance_advance t ticks more).symm

theorem overflowsWithin_add (t : Timer) (ticks more : Nat) :
    t.overflowsWithin (ticks + more) =
      (t.overflowsWithin ticks || (t.advance ticks).overflowsWithin more) := by
  rw [overflowsWithin, incrementsAfter_add, overflowsBy_add, overflowsWithin, overflowsWithin,
    overflowsBy_congr (value_advance t ticks)]

/-! ## The next overflow -/

/-- The ticks until the register of an enabled timer overflows.  None are left if so many
periods are owed already that the next move makes up for all of them. -/
def ticksToOverflow (t : Timer) : Nat :=
  t.period * (256 - t.value.toNat) - t.owed

theorem overflowsWithin_iff {t : Timer} {ticks : Nat} :
    t.overflowsWithin ticks = true ↔ t.isEnabled = true ∧ t.ticksToOverflow ≤ ticks := by
  have hvalue := t.value.toNat_lt
  rw [overflowsWithin, overflowsBy_iff, incrementsAfter]
  split
  next henabled =>
    have hsteps : 256 ≤ t.value.toNat + (t.owed + ticks) / t.period ↔
        256 - t.value.toNat ≤ (t.owed + ticks) / t.period := by omega
    rw [hsteps, Nat.le_div_iff_mul_le t.period_pos, Nat.mul_comm, ticksToOverflow,
      Nat.sub_le_iff_le_add']
    exact (and_iff_right henabled).symm
  next hdisabled =>
    refine iff_of_false ?_ fun h => hdisabled h.1
    omega

end Timer

end Handheld
