import Mathlib.Logic.Function.Iterate
import Handheld.Timer

/-!
# Increments of the timer register

The timer makes any number of increments at once, by a division that leaves out the rounds
from the modulo to the greatest value.  Increments nevertheless add up: so many and then so
many more come to the same register as all of them at once (`increment_add`), and the
register overflows in one of the two batches if it overflows in their sum
(`overflowsBy_add`).  So a batch is as many single increments (`increment_eq_iterate`).
-/

namespace Handheld.Timer

variable {t t' : Timer}

/-! ## What increments leave alone -/

@[simp] theorem counter_increment (t : Timer) (steps : Nat) :
    (t.increment steps).counter = t.counter := by
  unfold increment
  split <;> rfl

@[simp] theorem modulo_increment (t : Timer) (steps : Nat) :
    (t.increment steps).modulo = t.modulo := by
  unfold increment
  split <;> rfl

@[simp] theorem control_increment (t : Timer) (steps : Nat) :
    (t.increment steps).control = t.control := by
  unfold increment
  split <;> rfl

@[simp] theorem owed_increment (t : Timer) (steps : Nat) :
    (t.increment steps).owed = t.owed := by
  unfold increment
  split <;> rfl

/-- Increments change the timer register only. -/
theorem increment_eq (t : Timer) (steps : Nat) :
    t.increment steps = { t with value := (t.increment steps).value } := by
  unfold increment
  split <;> rfl

/-! ## The register after a batch -/

theorem toNat_value_increment_of_lt {steps : Nat} (h : t.value.toNat + steps < 256) :
    (t.increment steps).value.toNat = t.value.toNat + steps := by
  rw [increment, dif_pos h]
  exact UInt8.toNat_ofNatLT

theorem toNat_value_increment_of_le {steps : Nat} (h : 256 ≤ t.value.toNat + steps) :
    (t.increment steps).value.toNat =
      t.modulo.toNat + (steps - (256 - t.value.toNat)) % (256 - t.modulo.toNat) := by
  rw [increment, dif_neg (Nat.not_lt.mpr h)]
  exact UInt8.toNat_ofNatLT

/-- The register and the modulo are all that a batch reads. -/
theorem value_increment_congr (hvalue : t.value = t'.value) (hmodulo : t.modulo = t'.modulo)
    (steps : Nat) : (t.increment steps).value = (t'.increment steps).value := by
  unfold increment
  simp only [hvalue, hmodulo]
  split <;> rfl

/-- The rounds that the first number fills are left out, and so is the one that both fill. -/
theorem add_mod_eq_of_le {x y span : Nat} (hspan : 0 < span) (h : span ≤ x % span + y) :
    (x + y) % span = (y - (span - x % span)) % span := by
  have hlt := Nat.mod_lt x hspan
  have hrest : y - (span - x % span) = x % span + y - span := by omega
  rw [hrest, ← Nat.mod_eq_sub_mod h, Nat.mod_add_mod]

theorem value_increment_add (t : Timer) (steps more : Nat) :
    (t.increment (steps + more)).value = ((t.increment steps).increment more).value := by
  have hvalue := t.value.toNat_lt
  have hmodulo := t.modulo.toNat_lt
  apply UInt8.toNat_inj.mp
  by_cases hfirst : t.value.toNat + steps < 256
  · have hbetween := toNat_value_increment_of_lt hfirst
    by_cases hall : t.value.toNat + (steps + more) < 256
    · rw [toNat_value_increment_of_lt hall, toNat_value_increment_of_lt (by omega), hbetween,
        Nat.add_assoc]
    · rw [toNat_value_increment_of_le (by omega), toNat_value_increment_of_le (by omega),
        modulo_increment, hbetween]
      congr 2
      omega
  · -- The first batch has overflowed, and has left the register `past % span` above the modulo.
    have hbetween := toNat_value_increment_of_le (Nat.not_lt.mp hfirst)
    have hsum : steps + more - (256 - t.value.toNat) =
        steps - (256 - t.value.toNat) + more := by omega
    rw [toNat_value_increment_of_le (by omega), hsum]
    by_cases hsecond : (t.increment steps).value.toNat + more < 256
    · rw [toNat_value_increment_of_lt hsecond, hbetween, ← Nat.mod_add_mod,
        Nat.mod_eq_of_lt (by omega), Nat.add_assoc]
    · have hpast : 256 - t.modulo.toNat ≤
          (steps - (256 - t.value.toNat)) % (256 - t.modulo.toNat) + more := by omega
      rw [toNat_value_increment_of_le (by omega), modulo_increment, hbetween,
        add_mod_eq_of_le (by omega) hpast]
      congr 3
      omega

theorem increment_add (t : Timer) (steps more : Nat) :
    t.increment (steps + more) = (t.increment steps).increment more := by
  rw [increment_eq t, value_increment_add, increment_eq (t.increment steps), increment_eq t steps]

@[simp] theorem increment_zero (t : Timer) : t.increment 0 = t := by
  have hvalue : (t.increment 0).value = t.value :=
    UInt8.toNat_inj.mp (toNat_value_increment_of_lt t.value.toNat_lt)
  rw [increment_eq, hvalue]

/-! ## Overflows -/

theorem overflowsBy_iff {steps : Nat} :
    t.overflowsBy steps = true ↔ 256 ≤ t.value.toNat + steps :=
  decide_eq_true_iff

theorem overflowsBy_congr (hvalue : t.value = t'.value) (steps : Nat) :
    t.overflowsBy steps = t'.overflowsBy steps := by
  rw [overflowsBy, overflowsBy, hvalue]

@[simp] theorem overflowsBy_zero (t : Timer) : t.overflowsBy 0 = false := by
  rw [← Bool.not_eq_true, overflowsBy_iff, Nat.not_le]
  exact t.value.toNat_lt

theorem overflowsBy_add (t : Timer) (steps more : Nat) :
    t.overflowsBy (steps + more) = (t.overflowsBy steps || (t.increment steps).overflowsBy more) := by
  rw [Bool.eq_iff_iff, Bool.or_eq_true]
  simp only [overflowsBy_iff]
  by_cases hfirst : t.value.toNat + steps < 256
  · rw [toNat_value_increment_of_lt hfirst]
    omega
  · omega

/-! ## Single increments -/

/-- One increment.  Past its greatest value, the register restarts from the modulo. -/
def incrementOnce (t : Timer) : Timer :=
  if t.value = 0xFF then { t with value := t.modulo } else { t with value := t.value + 1 }

theorem overflowsBy_one : t.overflowsBy 1 = true ↔ t.value = 0xFF := by
  have hvalue := t.value.toNat_lt
  have hgreatest : (0xFF : Byte).toNat = 255 := rfl
  rw [overflowsBy_iff, ← UInt8.toNat_inj, hgreatest]
  omega

theorem increment_one (t : Timer) : t.increment 1 = t.incrementOnce := by
  have hlt := t.value.toNat_lt
  rw [increment_eq, incrementOnce]
  split
  next hgreatest =>
    have hvalue : (t.increment 1).value = t.modulo := by
      apply UInt8.toNat_inj.mp
      rw [toNat_value_increment_of_le (overflowsBy_iff.mp (overflowsBy_one.mpr hgreatest)),
        hgreatest]
      simp
    rw [hvalue]
  next hless =>
    have hroom : t.value.toNat + 1 < 256 := by
      rw [← overflowsBy_one, overflowsBy_iff] at hless
      omega
    have hvalue : (t.increment 1).value = t.value + 1 := by
      apply UInt8.toNat_inj.mp
      rw [toNat_value_increment_of_lt hroom, UInt8.toNat_add, UInt8.toNat_one,
        Nat.mod_eq_of_lt hroom]
    rw [hvalue]

/-- A batch is as many single increments. -/
theorem increment_eq_iterate (t : Timer) (steps : Nat) :
    t.increment steps = incrementOnce^[steps] t := by
  induction steps with
  | zero => exact increment_zero t
  | succ steps ih => rw [increment_add, ih, increment_one, Function.iterate_succ_apply']

end Handheld.Timer
