import Handheld.Alu

/-!
# The operations by what they compute

The eight ways to combine a byte with the accumulator and the eight shifts, each with what
its value and its flags have to satisfy.  A sum and a difference are given by an equation of
natural numbers, with the carry or borrow as the digit that does not fit the byte; a shift is
given bit by bit.  The operations of the unit satisfy this for all operands
(`computes_result`, `moves_result`).
-/

namespace Handheld.Alu

/-! ## Sums and differences -/

/-- The value and the flags are those of `a + b`, with the given carry coming in. -/
structure IsSum (a b : Byte) (carry : Bool) (v : Byte) (flags : Flags) : Prop where
  exact : a.toNat + b.toNat + carry.toNat = v.toNat + 256 * flags.c.toNat
  half : flags.h = decide (16 ≤ a.toNat % 16 + b.toNat % 16 + carry.toNat)
  zero : flags.z = decide (v = 0)
  negative : flags.n = false

/-- The value and the flags are those of `a - b`, with the given borrow coming in. -/
structure IsDifference (a b : Byte) (borrow : Bool) (v : Byte) (flags : Flags) : Prop where
  exact : (a.toNat : Int) - b.toNat - borrow.toNat = v.toNat - 256 * flags.c.toNat
  half : flags.h = decide ((a.toNat % 16 : Int) - (b.toNat % 16 : Nat) - borrow.toNat < 0)
  zero : flags.z = decide (v = 0)
  negative : flags.n = true

theorem isSum_add (a b : Byte) (carry : Bool) :
    IsSum a b carry (add a b carry).value (add a b carry).flags where
  exact := toNat_add a b carry
  half := rfl
  zero := rfl
  negative := rfl

theorem isDifference_sub (a b : Byte) (borrow : Bool) :
    IsDifference a b borrow (sub a b borrow).value (sub a b borrow).flags where
  exact := by
    have hsub := toNat_sub a b borrow
    omega
  half := by
    show decide _ = decide _
    rw [decide_eq_decide]
    omega
  zero := rfl
  negative := rfl

/-! ## Combining with the accumulator -/

inductive Combination where
  | add
  | adc
  | sub
  | sbc
  | and
  | xor
  | or
  | cp
  deriving DecidableEq

namespace Combination

/-- What the operation makes of the accumulator, an operand and the carry flag. -/
def result : Combination → Byte → Byte → Bool → AluResult
  | add => fun a b _ => Alu.add a b false
  | adc => Alu.add
  | sub | cp => fun a b _ => Alu.sub a b false
  | sbc => Alu.sub
  | and => fun a b _ => Alu.and a b
  | xor => fun a b _ => Alu.xor a b
  | or => fun a b _ => Alu.or a b

/-- The value and the flags are what the operation is to compute. -/
def Computes (op : Combination) (a b : Byte) (carry : Bool) (v : Byte) (flags : Flags) : Prop :=
  match op with
  | add => IsSum a b false v flags
  | adc => IsSum a b carry v flags
  | sub | cp => IsDifference a b false v flags
  | sbc => IsDifference a b carry v flags
  | and => v = a &&& b ∧ flags = ⟨v == 0, false, true, false⟩
  | xor => v = a ^^^ b ∧ flags = ⟨v == 0, false, false, false⟩
  | or => v = a ||| b ∧ flags = ⟨v == 0, false, false, false⟩

theorem computes_result (op : Combination) (a b : Byte) (carry : Bool) :
    op.Computes a b carry (op.result a b carry).value (op.result a b carry).flags := by
  cases op with
  | add | adc => exact isSum_add a b _
  | sub | sbc | cp => exact isDifference_sub a b _
  | and | xor | or => exact ⟨rfl, rfl⟩

end Combination

/-! ## Bits of shifted bytes -/

theorem topBit_eq_testBit (a : Byte) : topBit a = a.toNat.testBit 7 := by
  have ha := a.toNat_lt
  rw [topBit, Nat.testBit_eq_decide_div_mod_eq]
  exact decide_eq_decide.mpr (by omega)

theorem bottomBit_eq_testBit (a : Byte) : bottomBit a = a.toNat.testBit 0 := by
  rw [bottomBit, Nat.testBit_zero]
  rfl

theorem toNat_testBit_top (a : Byte) : (a.toNat.testBit 7).toNat = a.toNat / 128 := by
  have ha := a.toNat_lt
  rw [← topBit_eq_testBit, topBit]
  by_cases h : 128 ≤ a.toNat
  · rw [decide_eq_true h, Bool.toNat_true]
    omega
  · rw [decide_eq_false h, Bool.toNat_false]
    omega

theorem toNat_testBit_bottom (a : Byte) : (a.toNat.testBit 0).toNat = a.toNat % 2 := by
  rw [Nat.testBit_zero]
  rcases Nat.mod_two_eq_zero_or_one a.toNat with h | h <;> rw [h] <;> rfl

/-- The bits of a shifted byte are the lower ones of the number that was formed. -/
theorem testBit_shifted (v : Nat) (c : Bool) (n : Fin 8) :
    (shifted v c).value.toNat.testBit n = v.testBit n := by
  show (UInt8.ofNat v).toNat.testBit n = _
  rw [UInt8.toNat_ofNat', Nat.testBit_mod_two_pow, decide_eq_true n.isLt, Bool.true_and]

/-- Shifting left, a bit comes in at the bottom. -/
theorem testBit_mul_two_add (a : Nat) (b : Bool) (n : Nat) :
    (a * 2 + b.toNat).testBit n = if n = 0 then b else a.testBit (n - 1) := by
  have hb := b.toNat_le
  cases n with
  | zero => cases b <;> simp [Nat.testBit_zero]
  | succ n =>
    have hhalf : (a * 2 + b.toNat) / 2 = a := by omega
    rw [Nat.testBit_succ, hhalf]
    rfl

/-- Shifting right, a bit comes in at the top. -/
theorem testBit_div_two_add (a : Byte) (b : Bool) (n : Fin 8) :
    (a.toNat / 2 + b.toNat * 128).testBit n =
      if n.val = 7 then b else a.toNat.testBit (n + 1) := by
  have ha := a.toNat_lt
  have hn := n.isLt
  have hlow : a.toNat / 2 < 2 ^ 7 := by omega
  have hsum : a.toNat / 2 + b.toNat * 128 = 2 ^ 7 * b.toNat + a.toNat / 2 := by omega
  rw [hsum, Nat.testBit_two_pow_mul_add _ hlow]
  by_cases htop : n.val = 7
  · rw [if_neg (by omega), if_pos htop, htop]
    cases b <;> rfl
  · rw [if_pos (by omega), if_neg htop, Nat.testBit_succ]

/-- Exchanging the halves of a byte moves every bit by four places. -/
theorem testBit_exchange (a : Byte) (n : Fin 8) :
    (a.toNat % 16 * 16 + a.toNat / 16).testBit n = a.toNat.testBit ((n.val + 4) % 8) := by
  have ha := a.toNat_lt
  have hn := n.isLt
  have hhigh : a.toNat / 16 < 2 ^ 4 := by omega
  rw [Nat.mul_comm, Nat.testBit_two_pow_mul_add _ hhigh]
  by_cases hlow : n.val < 4
  · rw [if_pos hlow, Nat.mod_eq_of_lt (by omega)]
    exact Nat.testBit_div_two_pow (n := 4) a.toNat n.val
  · have hplace : (n.val + 4) % 8 = n.val - 4 := by omega
    have hkept := Nat.testBit_mod_two_pow a.toNat 4 (n.val - 4)
    rw [decide_eq_true (by omega), Bool.true_and] at hkept
    rw [if_neg hlow, hplace]
    exact hkept

/-! ## Shifting -/

inductive Shift where
  | rlc
  | rrc
  | rl
  | rr
  | sla
  | sra
  | swap
  | srl
  deriving DecidableEq

namespace Shift

/-- What the operation makes of a byte and the carry flag. -/
def result : Shift → Byte → Bool → AluResult
  | rlc => fun a _ => Alu.rlc a
  | rrc => fun a _ => Alu.rrc a
  | rl => Alu.rl
  | rr => Alu.rr
  | sla => fun a _ => Alu.sla a
  | sra => fun a _ => Alu.sra a
  | swap => fun a _ => Alu.swap a
  | srl => fun a _ => Alu.srl a

/-- The bit that stands at place `n` afterwards. -/
def bit (op : Shift) (a : Byte) (carry : Bool) (n : Nat) : Bool :=
  match op with
  | rlc => a.toNat.testBit ((n + 7) % 8)
  | rrc => a.toNat.testBit ((n + 1) % 8)
  | rl => if n = 0 then carry else a.toNat.testBit (n - 1)
  | rr => if n = 7 then carry else a.toNat.testBit (n + 1)
  | sla => if n = 0 then false else a.toNat.testBit (n - 1)
  | sra => if n = 7 then a.toNat.testBit 7 else a.toNat.testBit (n + 1)
  | swap => a.toNat.testBit ((n + 4) % 8)
  | srl => if n = 7 then false else a.toNat.testBit (n + 1)

/-- The bit that is shifted out. -/
def out (op : Shift) (a : Byte) : Bool :=
  match op with
  | rlc | rl | sla => a.toNat.testBit 7
  | rrc | rr | sra | srl => a.toNat.testBit 0
  | swap => false

/-- Every bit of the value is what the operation moves to its place. -/
def Moves (op : Shift) (a : Byte) (carry : Bool) (v : Byte) : Prop :=
  ∀ n : Fin 8, v.toNat.testBit n = op.bit a carry n

theorem moves_result (op : Shift) (a : Byte) (carry : Bool) :
    op.Moves a carry (op.result a carry).value := by
  intro n
  have hn := n.isLt
  cases op with
  | rlc =>
    refine (testBit_shifted _ _ n).trans ?_
    rw [← toNat_testBit_top, testBit_mul_two_add]
    show _ = a.toNat.testBit ((n.val + 7) % 8)
    split
    next hzero => rw [hzero]
    next hpos =>
      have hplace : n.val - 1 = (n.val + 7) % 8 := by omega
      rw [hplace]
  | rrc =>
    refine (testBit_shifted _ _ n).trans ?_
    rw [← toNat_testBit_bottom, testBit_div_two_add]
    show _ = a.toNat.testBit ((n.val + 1) % 8)
    split
    next hlast => rw [hlast]
    next hlower => rw [Nat.mod_eq_of_lt (by omega)]
  | rl => exact (testBit_shifted _ _ n).trans (testBit_mul_two_add _ carry n)
  | rr => exact (testBit_shifted _ _ n).trans (testBit_div_two_add a carry n)
  | sla => exact (testBit_shifted _ _ n).trans (testBit_mul_two_add _ false n)
  | sra =>
    refine (testBit_shifted _ _ n).trans ?_
    rw [← toNat_testBit_top]
    exact testBit_div_two_add a _ n
  | swap => exact (testBit_shifted _ _ n).trans (testBit_exchange a n)
  | srl => exact (testBit_shifted _ _ n).trans (testBit_div_two_add a false n)

/-- The carry is the bit shifted out, and the other flags but Z are clear. -/
theorem flags_result (op : Shift) (a : Byte) (carry : Bool) :
    (op.result a carry).flags =
      ⟨(op.result a carry).value == 0, false, false, op.out a⟩ := by
  cases op with
  | rlc | rl | sla => rw [out, ← topBit_eq_testBit]; rfl
  | rrc | rr | sra | srl => rw [out, ← bottomBit_eq_testBit]; rfl
  | swap => rfl

end Shift

end Handheld.Alu
