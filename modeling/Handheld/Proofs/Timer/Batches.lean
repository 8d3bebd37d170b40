import Handheld.Proofs.Timer.Increments

/-!
# Batches of increments in numbers of a fixed width

How many increments a batch has is any number of 64 bits, and the register has eight.  Here a
batch is worked out once more in numbers of these widths (`incrementInWidth`).  A difference
below zero, a remainder by zero, a sum of bytes past the greatest byte and a number that loses
bits as it is made a byte are all `none`.  None of them occurs, for any batch of any timer
(`incrementInWidth_eq`), and a batch overflows if and only if one of its increments starts from
the greatest value (`overflowsBy_iff_exists`).
-/

namespace Handheld

/-! ## Operations within a width -/

namespace Width

/-- The difference, if it is not below zero. -/
def sub (a b : UInt64) : Option UInt64 :=
  if b ≤ a then some (a - b) else none

/-- The remainder, if there is something to divide by. -/
def mod (a b : UInt64) : Option UInt64 :=
  if b = 0 then none else some (a % b)

/-- The number as a byte, if it is one. -/
def toByte (a : UInt64) : Option Byte :=
  if a ≤ 0xFF then some a.toUInt8 else none

/-- The sum, if it is a byte. -/
def addBytes (a b : Byte) : Option Byte :=
  if a.toNat + b.toNat ≤ 0xFF then some (a + b) else none

theorem exists_sub {a b : UInt64} (h : b.toNat ≤ a.toNat) :
    ∃ d, sub a b = some d ∧ d.toNat = a.toNat - b.toNat := by
  have hle : b ≤ a := UInt64.le_iff_toNat_le.mpr h
  exact ⟨a - b, if_pos hle, UInt64.toNat_sub_of_le a b hle⟩

theorem exists_mod {a b : UInt64} (h : 0 < b.toNat) :
    ∃ r, mod a b = some r ∧ r.toNat = a.toNat % b.toNat := by
  refine ⟨a % b, if_neg ?_, UInt64.toNat_mod a b⟩
  rintro rfl
  exact Nat.lt_irrefl 0 h

theorem exists_toByte {a : UInt64} (h : a.toNat < 256) :
    ∃ b, toByte a = some b ∧ b.toNat = a.toNat := by
  have hle : a ≤ 0xFF := UInt64.le_iff_toNat_le.mpr (Nat.le_of_lt_succ h)
  refine ⟨a.toUInt8, if_pos hle, ?_⟩
  rw [UInt64.toNat_toUInt8]
  exact Nat.mod_eq_of_lt h

theorem exists_addBytes {a b : Byte} (h : a.toNat + b.toNat < 256) :
    ∃ s, addBytes a b = some s ∧ s.toNat = a.toNat + b.toNat := by
  refine ⟨a + b, if_pos (Nat.le_of_lt_succ h), ?_⟩
  rw [UInt8.toNat_add]
  exact Nat.mod_eq_of_lt h

end Width

namespace Timer

variable {t : Timer} {steps : UInt64}

/-! ## A batch within its width -/

/-- Increments the timer register so many times, and says whether it has overflowed. -/
def incrementInWidth (t : Timer) (steps : UInt64) : Option (Timer × Bool) := do
  let toOverflow ← Width.sub 0x100 t.value.toUInt64
  if steps < toOverflow then
    let value ← Width.addBytes t.value (← Width.toByte steps)
    return ({ t with value }, false)
  else
    let span ← Width.sub 0x100 t.modulo.toUInt64
    let past ← Width.mod (← Width.sub steps toOverflow) span
    let value ← Width.addBytes t.modulo (← Width.toByte past)
    return ({ t with value }, true)

/-- A byte is less than what it is taken from. -/
theorem exists_distance (b : Byte) :
    ∃ d, Width.sub 0x100 b.toUInt64 = some d ∧ d.toNat = 256 - b.toNat :=
  Width.exists_sub (a := 0x100) (b := b.toUInt64) (Nat.le_of_lt b.toNat_lt)

/-- Of a batch, only the register after it has to be found. -/
theorem eq_increment_of_toNat {value : Byte} {n : Nat}
    (h : value.toNat = (t.increment n).value.toNat) : { t with value } = t.increment n := by
  rw [increment_eq, UInt8.toNat_inj.mp h]

theorem incrementInWidth_of_lt (h : t.value.toNat + steps.toNat < 256) :
    t.incrementInWidth steps = some (t.increment steps.toNat, false) := by
  obtain ⟨toOverflow, hsub, hdistance⟩ := exists_distance t.value
  have hfew : steps < toOverflow := by
    rw [UInt64.lt_iff_toNat_lt, hdistance]
    omega
  obtain ⟨more, hbyte, hmore⟩ := Width.exists_toByte (a := steps) (by omega)
  obtain ⟨value, hadd, hvalue⟩ := Width.exists_addBytes (a := t.value) (b := more) (by omega)
  have hafter : { t with value } = t.increment steps.toNat := by
    apply eq_increment_of_toNat
    rw [toNat_value_increment_of_lt h, hvalue, hmore]
  simp only [incrementInWidth, hsub, hfew, if_true, hbyte, hadd, Option.bind_eq_bind,
    Option.bind_some, hafter]
  rfl

/-- Past the overflow, what is left of the batch is taken modulo the number of values from the
modulo on, of which there is one at least. -/
theorem incrementInWidth_of_le (h : 256 ≤ t.value.toNat + steps.toNat) :
    t.incrementInWidth steps = some (t.increment steps.toNat, true) := by
  have hmodulo := t.modulo.toNat_lt
  obtain ⟨toOverflow, hsub, hdistance⟩ := exists_distance t.value
  obtain ⟨span, hsubSpan, hspan⟩ := exists_distance t.modulo
  have hmany : ¬ steps < toOverflow := by
    rw [UInt64.lt_iff_toNat_lt, hdistance]
    omega
  obtain ⟨left, hsubLeft, hleft⟩ := Width.exists_sub (a := steps) (b := toOverflow) (by omega)
  obtain ⟨past, hmod, hpast⟩ := Width.exists_mod (a := left) (b := span) (by omega)
  have hround : past.toNat < 256 - t.modulo.toNat := by
    rw [hpast, hspan]
    exact Nat.mod_lt _ (by omega)
  obtain ⟨more, hbyte, hmore⟩ := Width.exists_toByte (a := past) (by omega)
  obtain ⟨value, hadd, hvalue⟩ := Width.exists_addBytes (a := t.modulo) (b := more) (by omega)
  have hafter : { t with value } = t.increment steps.toNat := by
    apply eq_increment_of_toNat
    rw [toNat_value_increment_of_le h, hvalue, hmore, hpast, hleft, hdistance, hspan]
  simp only [incrementInWidth, hsub, hmany, if_false, hsubSpan, hsubLeft, hmod, hbyte, hadd,
    Option.bind_eq_bind, Option.bind_some, hafter]
  rfl

theorem incrementInWidth_eq (t : Timer) (steps : UInt64) :
    t.incrementInWidth steps = some (t.increment steps.toNat, t.overflowsBy steps.toNat) := by
  by_cases h : t.overflowsBy steps.toNat = true
  · rw [incrementInWidth_of_le (overflowsBy_iff.mp h), h]
  · have hless : t.value.toNat + steps.toNat < 256 := by
      rw [overflowsBy_iff] at h
      exact Nat.not_le.mp h
    rw [incrementInWidth_of_lt hless, Bool.eq_false_iff.mpr h]

/-! ## The overflows of a batch -/

/-- One more increment overflows if the ones before it have brought the register to its greatest
value.  The induction takes the last increment off. -/
theorem overflowsBy_iff_exists (t : Timer) (n : Nat) :
    t.overflowsBy n = true ↔ ∃ k < n, (incrementOnce^[k] t).value = 0xFF := by
  induction n with
  | zero => simp
  | succ n ih =>
      rw [overflowsBy_add, Bool.or_eq_true, ih, overflowsBy_one, increment_eq_iterate,
        Nat.exists_lt_succ_right]

/-- Once it has overflowed, the register holds no value below the modulo. -/
theorem modulo_le_value_increment {n : Nat} (h : t.overflowsBy n = true) :
    t.modulo ≤ (t.increment n).value := by
  rw [UInt8.le_iff_toNat_le, toNat_value_increment_of_le (overflowsBy_iff.mp h)]
  exact Nat.le_add_right _ _

/-- A batch of any number of 64 bits leaves the timer that as many single increments leave, and
changes the timer register only.  It reports an overflow if and only if one of these increments
has passed the greatest value, and if it does, the register lies between the modulo and the
greatest value from then on.  In working it out, no number leaves its width or loses a bit. -/
theorem batches_are_single_increments (t : Timer) (steps : UInt64) :
    t.increment steps.toNat = incrementOnce^[steps.toNat] t ∧
    t.increment steps.toNat = { t with value := (t.increment steps.toNat).value } ∧
    (t.overflowsBy steps.toNat = true ↔
      ∃ k < steps.toNat, (incrementOnce^[k] t).value = 0xFF) ∧
    (t.overflowsBy steps.toNat = true →
      t.modulo ≤ (t.increment steps.toNat).value ∧ (t.increment steps.toNat).value ≤ 0xFF) ∧
    t.incrementInWidth steps = some (t.increment steps.toNat, t.overflowsBy steps.toNat) := by
  refine ⟨increment_eq_iterate t _, increment_eq t _, overflowsBy_iff_exists t _, ?_,
    incrementInWidth_eq t steps⟩
  intro hover
  refine ⟨modulo_le_value_increment hover, ?_⟩
  exact UInt8.le_iff_toNat_le.mpr (Nat.le_of_lt_succ (UInt8.toNat_lt _))

/-- A timer close to its greatest value, and one round of which is one increment. -/
def narrow : Timer :=
  ⟨0, 0xFD, 0xFF, 0x05, 0⟩

/-- Two increments reach the greatest value, a third one overflows, and as many as there can be
end there. -/
theorem batches_of_narrow_are_single_increments :
    narrow.incrementInWidth 2 = some ({ narrow with value := 0xFF }, false) ∧
    narrow.overflowsBy 0xFFFFFFFFFFFFFFFF = true ∧
    narrow.incrementInWidth 0xFFFFFFFFFFFFFFFF = some ({ narrow with value := 0xFF }, true) ∧
    (∃ k < 0xFFFFFFFFFFFFFFFF, (incrementOnce^[k] narrow).value = 0xFF) ∧
    (0xFF : Byte) ≤ (narrow.increment 0xFFFFFFFFFFFFFFFF).value := by
  obtain ⟨_, _, _, _, hfew⟩ := batches_are_single_increments narrow 2
  obtain ⟨_, _, hexists, hbounds, hmany⟩ :=
    batches_are_single_increments narrow 0xFFFFFFFFFFFFFFFF
  have hover : narrow.overflowsBy 0xFFFFFFFFFFFFFFFF = true := by decide
  refine ⟨hfew.trans (by decide), hover, hmany.trans (by decide), hexists.mp hover, ?_⟩
  exact (hbounds hover).1

end Timer

end Handheld
