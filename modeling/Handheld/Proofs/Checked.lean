import Mathlib.Data.Nat.Bitwise
import Handheld.Console
import Handheld.Proofs.Timer.Advance

/-!
# Arithmetic that cannot leave its range

Where numbers wrap around, the arithmetic unit and the timer say so; all other sums and
differences are meant to stay in the range of the type that holds them.  Here they are
computed once more, with every intermediate result checked against that range, and a
result that leaves it is `none`.  It never is: each checked computation yields what the
unchecked one does, whatever the registers hold (`Exact`).
-/

namespace Handheld

namespace Checked

/-! ## Checked operations -/

/-- The sum, if it is below the size of the type. -/
def add (size a b : Nat) : Option Nat :=
  if a + b < size then some (a + b) else none

/-- The difference, if it is not below zero. -/
def sub (a b : Nat) : Option Nat :=
  if b ≤ a then some (a - b) else none

/-- The remainder, if there is something to divide by. -/
def mod (a b : Nat) : Option Nat :=
  if b = 0 then none else some (a % b)

/-- The quotient, if there is something to divide by. -/
def div (a b : Nat) : Option Nat :=
  if b = 0 then none else some (a / b)

/-- The shifted number, if the distance is less than the width. -/
def shiftLeft (width a distance : Nat) : Option Nat :=
  if distance < width then some (a <<< distance % 2 ^ width) else none

theorem add_of_lt {size a b : Nat} (h : a + b < size) : add size a b = some (a + b) :=
  if_pos h

theorem sub_of_le {a b : Nat} (h : b ≤ a) : sub a b = some (a - b) :=
  if_pos h

theorem mod_of_pos {a b : Nat} (h : 0 < b) : mod a b = some (a % b) :=
  if_neg (Nat.ne_of_gt h)

theorem div_of_pos {a b : Nat} (h : 0 < b) : div a b = some (a / b) :=
  if_neg (Nat.ne_of_gt h)

theorem shiftLeft_of_lt {width a distance : Nat} (h : distance < width) :
    shiftLeft width a distance = some (a <<< distance % 2 ^ width) :=
  if_pos h

end Checked

open Checked

/-! ## The arithmetic unit -/

namespace Alu

def addChecked (a b : Byte) (carry : Bool) : Option AluResult := do
  let sum ← Checked.add 0x10000 (← Checked.add 0x10000 a.toNat b.toNat) carry.toNat
  let half ← Checked.add 0x100 (← Checked.add 0x100 (a.toNat % 16) (b.toNat % 16)) carry.toNat
  let value := UInt8.ofNat sum
  return ⟨value, ⟨value == 0, false, decide (15 < half), decide (255 < sum)⟩⟩

theorem addChecked_eq (a b : Byte) (carry : Bool) :
    addChecked a b carry = some (add a b carry) := by
  have ha := a.toNat_lt
  have hb := b.toNat_lt
  have hcarry := carry.toNat_le
  have hsum : Checked.add 0x10000 a.toNat b.toNat = some (a.toNat + b.toNat) :=
    add_of_lt (by omega)
  have hsum' : Checked.add 0x10000 (a.toNat + b.toNat) carry.toNat =
      some (a.toNat + b.toNat + carry.toNat) := add_of_lt (by omega)
  have hhalf : Checked.add 0x100 (a.toNat % 16) (b.toNat % 16) =
      some (a.toNat % 16 + b.toNat % 16) := add_of_lt (by omega)
  have hhalf' : Checked.add 0x100 (a.toNat % 16 + b.toNat % 16) carry.toNat =
      some (a.toNat % 16 + b.toNat % 16 + carry.toNat) := add_of_lt (by omega)
  simp only [addChecked, hsum, hsum', hhalf, hhalf', Option.bind_eq_bind, Option.bind_some]
  rfl

/-- The difference itself wraps around. -/
def subChecked (a b : Byte) (carry : Bool) : Option AluResult := do
  let half ← Checked.add 0x100 (b.toNat % 16) carry.toNat
  let taken ← Checked.add 0x10000 b.toNat carry.toNat
  let value := a - b - Byte.ofBool carry
  return ⟨value, ⟨value == 0, true, decide (a.toNat % 16 < half), decide (a.toNat < taken)⟩⟩

theorem value_sub (a b : Byte) (carry : Bool) :
    (sub a b carry).value = a - b - Byte.ofBool carry := by
  have ha := a.toNat_lt
  have hb := b.toNat_lt
  apply UInt8.toNat_inj.mp
  cases carry with
  | false => simp [sub, Byte.ofBool, UInt8.toNat_sub]; omega
  | true => simp [sub, Byte.ofBool, UInt8.toNat_sub]; omega

theorem subChecked_eq (a b : Byte) (carry : Bool) :
    subChecked a b carry = some (sub a b carry) := by
  have hb := b.toNat_lt
  have hcarry := carry.toNat_le
  have hhalf : Checked.add 0x100 (b.toNat % 16) carry.toNat =
      some (b.toNat % 16 + carry.toNat) := add_of_lt (by omega)
  have htaken : Checked.add 0x10000 b.toNat carry.toNat = some (b.toNat + carry.toNat) :=
    add_of_lt (by omega)
  simp only [subChecked, hhalf, htaken, Option.bind_eq_bind, Option.bind_some, ← value_sub]
  rfl

/-- The value itself wraps around. -/
def addWordChecked (a b : Word) : Option AluWordResult := do
  let half ← Checked.add 0x10000 (a.toNat % 0x1000) (b.toNat % 0x1000)
  return ⟨a + b, decide (0xFFF < half), decide (0xFFFF < a.toNat + b.toNat)⟩

theorem addWordChecked_eq (a b : Word) : addWordChecked a b = some (addWord a b) := by
  have hhalf : Checked.add 0x10000 (a.toNat % 0x1000) (b.toNat % 0x1000) =
      some (a.toNat % 0x1000 + b.toNat % 0x1000) := add_of_lt (by omega)
  simp only [addWordChecked, hhalf, Option.bind_eq_bind, Option.bind_some]
  rfl

/-- The value itself wraps around. -/
def addSignedChecked (a : Word) (offset : Byte) : Option AluWordResult := do
  let half ← Checked.add 0x100 (a.toNat % 16) (offset.toNat % 16)
  let low ← Checked.add 0x10000 (a.toNat % 256) offset.toNat
  return ⟨a.displace offset, decide (15 < half), decide (255 < low)⟩

theorem addSignedChecked_eq (a : Word) (offset : Byte) :
    addSignedChecked a offset = some (addSigned a offset) := by
  have hoffset := offset.toNat_lt
  have hhalf : Checked.add 0x100 (a.toNat % 16) (offset.toNat % 16) =
      some (a.toNat % 16 + offset.toNat % 16) := add_of_lt (by omega)
  have hlow : Checked.add 0x10000 (a.toNat % 256) offset.toNat =
      some (a.toNat % 256 + offset.toNat) := add_of_lt (by omega)
  simp only [addSignedChecked, hhalf, hlow, Option.bind_eq_bind, Option.bind_some]
  rfl

/-- The test of a bit by a mask that is shifted into place. -/
def bitChecked (a : Byte) (index : Nat) : Option AluResult := do
  let mask ← Checked.shiftLeft 8 1 index
  return ⟨a, ⟨a.toNat &&& mask == 0, false, true, false⟩⟩

theorem bitChecked_eq (a : Byte) (index : Fin 8) :
    bitChecked a index = some (bit a index) := by
  have hmask : Checked.shiftLeft 8 1 index = some (2 ^ index.val) := by
    have hpow : 2 ^ index.val < 2 ^ 8 := Nat.pow_lt_pow_right (by decide) index.isLt
    rw [shiftLeft_of_lt index.isLt, Nat.one_shiftLeft, Nat.mod_eq_of_lt hpow]
  simp only [bitChecked, hmask, Option.bind_eq_bind, Option.bind_some, Nat.and_two_pow]
  cases htest : a.toNat.testBit index with
  | true => simp [bit, htest]
  | false => simp [bit, htest]

end Alu

namespace Machine

theorem bitMask_checked (index : Fin 8) :
    Checked.shiftLeft 8 1 index = some (bitMask index).toNat := by
  revert index
  decide

end Machine

/-! ## The timer -/

namespace Timer

/-- Increments the timer register so many times, and says whether it has overflowed. -/
def incrementChecked (t : Timer) (steps : Nat) : Option (Timer × Bool) := do
  let toOverflow ← Checked.sub 0x100 t.value.toNat
  if steps < toOverflow then
    let value ← Checked.add 0x100 t.value.toNat (steps % 0x100)
    return ({ t with value := UInt8.ofNat value }, false)
  else
    let span ← Checked.sub 0x100 t.modulo.toNat
    let past ← Checked.sub steps toOverflow
    let pastRestart ← Checked.mod past span
    let value ← Checked.add 0x100 t.modulo.toNat (pastRestart % 0x100)
    return ({ t with value := UInt8.ofNat value }, true)

theorem incrementChecked_of_lt {t : Timer} {steps : Nat} (h : t.value.toNat + steps < 0x100) :
    t.incrementChecked steps = some (t.increment steps, false) := by
  have htoOverflow : Checked.sub 0x100 t.value.toNat = some (0x100 - t.value.toNat) :=
    sub_of_le (by omega)
  have hfew : steps < 0x100 - t.value.toNat := by omega
  have hvalue : Checked.add 0x100 t.value.toNat (steps % 0x100) =
      some (t.value.toNat + steps) := by
    rw [Nat.mod_eq_of_lt (by omega)]
    exact add_of_lt h
  simp only [incrementChecked, htoOverflow, hfew, if_true, hvalue, Option.bind_eq_bind,
    Option.bind_some, increment, dif_pos h, UInt8.ofNatLT_eq_ofNat]
  rfl

/-- Past the overflow, the register goes around the values from the modulo on, of which
there is one at least. -/
theorem incrementChecked_of_le {t : Timer} {steps : Nat} (h : 0x100 ≤ t.value.toNat + steps) :
    t.incrementChecked steps = some (t.increment steps, true) := by
  have hmodulo := t.modulo.toNat_lt
  have hvalue := t.value.toNat_lt
  have htoOverflow : Checked.sub 0x100 t.value.toNat = some (0x100 - t.value.toNat) :=
    sub_of_le (by omega)
  have hmany : ¬ steps < 0x100 - t.value.toNat := by omega
  have hspan : Checked.sub 0x100 t.modulo.toNat = some (0x100 - t.modulo.toNat) :=
    sub_of_le (by omega)
  have hpast : Checked.sub steps (0x100 - t.value.toNat) =
      some (steps - (0x100 - t.value.toNat)) := sub_of_le (by omega)
  have hspanPos : 0 < 0x100 - t.modulo.toNat := by omega
  have hlt := Nat.mod_lt (steps - (0x100 - t.value.toNat)) hspanPos
  have hrestart : Checked.add 0x100 t.modulo.toNat
        ((steps - (0x100 - t.value.toNat)) % (0x100 - t.modulo.toNat) % 0x100) =
      some (t.modulo.toNat + (steps - (0x100 - t.value.toNat)) % (0x100 - t.modulo.toNat)) := by
    rw [Nat.mod_eq_of_lt (Nat.lt_of_lt_of_le hlt (Nat.sub_le _ _))]
    exact add_of_lt (by omega)
  simp only [incrementChecked, htoOverflow, hmany, if_false, hspan, hpast,
    mod_of_pos hspanPos, hrestart, Option.bind_eq_bind, Option.bind_some, increment,
    dif_neg (Nat.not_lt.mpr h), UInt8.ofNatLT_eq_ofNat]
  rfl

theorem incrementChecked_eq (t : Timer) (steps : Nat) :
    t.incrementChecked steps = some (t.increment steps, t.overflowsBy steps) := by
  by_cases h : 0x100 ≤ t.value.toNat + steps
  · rw [incrementChecked_of_le h, overflowsBy, decide_eq_true h]
  · rw [incrementChecked_of_lt (Nat.not_le.mp h), overflowsBy, decide_eq_false h]

/-- Moves the timer forward, and says whether its register has overflowed.  The ticks that
are owed fit in 32 bits, and so does the time of a step. -/
def advanceChecked (t : Timer) (ticks : Nat) : Option (Timer × Bool) := do
  let moved := { t with counter := t.counter + UInt16.ofNat ticks }
  if t.isEnabled then
    let total ← Checked.add (2 ^ 64) t.owed ticks
    let owed ← Checked.mod total t.period
    let steps ← Checked.div total t.period
    { moved with owed := owed % 2 ^ 32 }.incrementChecked steps
  else return (moved, false)

theorem advanceChecked_eq {t : Timer} {ticks : Nat} (howed : t.owed < 2 ^ 32)
    (hticks : ticks < 2 ^ 32) :
    t.advanceChecked ticks = some (t.advance ticks, t.overflowsWithin ticks) := by
  have htotal : Checked.add (2 ^ 64) t.owed ticks = some (t.owed + ticks) :=
    add_of_lt (by omega)
  have hkept : (t.owed + ticks) % t.period % 2 ^ 32 = (t.owed + ticks) % t.period := by
    have hlt := Nat.mod_lt (t.owed + ticks) t.period_pos
    have hle := t.period_le
    exact Nat.mod_eq_of_lt (by omega)
  unfold advanceChecked advance overflowsWithin incrementsAfter
  cases henabled : t.isEnabled with
  | false =>
      have hvalue := t.value.toNat_lt
      have hover : t.overflowsBy 0 = false := by
        rw [overflowsBy, decide_eq_false_iff_not]
        omega
      simp [hover]
  | true =>
      simp only [if_true, htotal, mod_of_pos t.period_pos, div_of_pos t.period_pos,
        Option.bind_eq_bind, Option.bind_some, hkept, incrementChecked_eq]
      rfl

end Timer

/-! ## The delay of the master switch -/

namespace InterruptController

/-- The end of an instruction, which counts the delay of an armed switch down. -/
def finishChecked (ic : InterruptController) : Option InterruptController :=
  match ic.delay? with
  | none => some ic
  | some n =>
    if n ≤ 1 then some ic.turnOn
    else do
      let left ← Checked.sub n 1
      return { ic with delay? := some left }

theorem finishChecked_eq (ic : InterruptController) :
    ic.finishChecked = some ic.finishInstruction := by
  unfold finishChecked finishInstruction
  cases ic.delay? with
  | none => rfl
  | some n =>
      by_cases hdue : n ≤ 1
      · simp only [hdue, if_true]
      · have hleft : Checked.sub n 1 = some (n - 1) := sub_of_le (by omega)
        simp only [hdue, if_false, hleft, Option.bind_eq_bind, Option.bind_some]
        rfl

end InterruptController

/-! ## All together -/

/-- Whatever the registers hold, every checked computation of a step stays in its range and
yields what the unchecked one does. -/
structure Checked.Exact : Prop where
  add : ∀ a b carry, Alu.addChecked a b carry = some (Alu.add a b carry)
  sub : ∀ a b carry, Alu.subChecked a b carry = some (Alu.sub a b carry)
  addWord : ∀ a b, Alu.addWordChecked a b = some (Alu.addWord a b)
  addSigned : ∀ a offset, Alu.addSignedChecked a offset = some (Alu.addSigned a offset)
  bit : ∀ a (index : Fin 8), Alu.bitChecked a index = some (Alu.bit a index)
  bitMask : ∀ index : Fin 8,
    Checked.shiftLeft 8 1 index = some (Machine.bitMask index).toNat
  timer : ∀ (t : Timer) (ticks : Nat), t.owed < 2 ^ 32 → ticks < 2 ^ 32 →
    t.advanceChecked ticks = some (t.advance ticks, t.overflowsWithin ticks)
  delay : ∀ ic : InterruptController, ic.finishChecked = some ic.finishInstruction
  /-- Where the operand bytes of an instruction start. -/
  operands : ∀ op : Opcode,
    Checked.sub op.bytes op.operandLength = some (op.bytes - op.operandLength)

theorem Checked.exact : Exact where
  add := Alu.addChecked_eq
  sub := Alu.subChecked_eq
  addWord := Alu.addWordChecked_eq
  addSigned := Alu.addSignedChecked_eq
  bit := Alu.bitChecked_eq
  bitMask := Machine.bitMask_checked
  timer := fun _ _ howed hticks => Timer.advanceChecked_eq howed hticks
  delay := InterruptController.finishChecked_eq
  operands := fun op => Checked.sub_of_le (Nat.sub_le op.bytes op.page.codeLength)

end Handheld
