import Handheld.Proofs.Alu.Chains

/-!
# Wide integers

Integers of any number of bytes are added, subtracted and shifted by one bit with the
operations on bytes, the carry of each byte going into the next one.  A sum, a difference and a
shift to the left start at the least significant byte.  A shift to the right starts at the most
significant one, and its carry is the bit that falls out of a byte into the one below it.
-/

namespace Handheld.Alu

/-- The integer that bytes stand for, the least significant one first. -/
def integer (bytes : List Byte) : Nat :=
  number 256 UInt8.toNat bytes

/-! ## Shifting one byte -/

theorem toNat_rl (a : Byte) (carry : Bool) :
    (rl a carry).value.toNat + (rl a carry).flags.c.toNat * 256 = 2 * a.toNat + carry.toNat := by
  have hvalue : (rl a carry).value.toNat = (a.toNat * 2 + carry.toNat) % 256 :=
    UInt8.toNat_ofNat'
  have hcarry : (rl a carry).flags.c.toNat = a.toNat / 128 := by
    rw [← toNat_testBit_top, ← topBit_eq_testBit]
    rfl
  have ha := a.toNat_lt
  have hc := carry.toNat_le
  omega

theorem toNat_rr (a : Byte) (carry : Bool) :
    2 * (rr a carry).value.toNat + (rr a carry).flags.c.toNat = a.toNat + carry.toNat * 256 := by
  have hvalue : (rr a carry).value.toNat = (a.toNat / 2 + carry.toNat * 128) % 256 :=
    UInt8.toNat_ofNat'
  have hcarry : (rr a carry).flags.c.toNat = a.toNat % 2 := by
    rw [← toNat_testBit_bottom, ← bottomBit_eq_testBit]
    rfl
  have ha := a.toNat_lt
  have hc := carry.toNat_le
  omega

/-! ## Shifting integers -/

/-- Rotating to the left doubles each byte, so a chain of it doubles the integer. -/
theorem integer_chain_rl (as : List Byte) (carry : Bool) :
    integer (chain rl as carry).1 + (chain rl as carry).2.toNat * 256 ^ as.length =
      2 * integer as + carry.toNat := by
  have hplace : ∀ a ∈ as, ∀ carry : Bool,
      ((rl a carry).value.toNat : Int) + 1 * ((rl a carry).flags.c.toNat * (256 : Nat)) =
        a.toNat + 1 * (a.toNat + carry.toNat) := by
    intro a _ carry
    have ha := toNat_rl a carry
    omega
  have hchain := number_chain id id hplace carry
  rw [List.map_id] at hchain
  unfold integer
  zify
  linear_combination hchain

/-- The bytes stand from the most significant one on, and so do the values.  The induction is on
the bytes below the first one, which the carry of the first one goes into. -/
theorem integer_chain_rr (as : List Byte) (carry : Bool) :
    2 * integer (chain rr as carry).1.reverse + (chain rr as carry).2.toNat =
      integer as.reverse + carry.toNat * 256 ^ as.length := by
  induction as generalizing carry with
  | nil => simp [chain, integer]
  | cons a as ih =>
    have hplace := toNat_rr a carry
    have hlower := ih (rr a carry).flags.c
    simp only [integer, chain, number_reverse_cons, length_chain, List.length_cons, pow_succ]
      at hlower ⊢
    linear_combination hlower + 256 ^ as.length * hplace

/-! ## The law -/

/-- Chains of the operations on bytes are the operations on integers.  The sum of two integers
of `n` bytes and a carry is what the values stand for, with the last carry standing for
`256 ^ n`; their difference is what the values stand for less so much.  A chain of rotations to
the left from the least significant byte on shifts the integer by one bit, the first carry
coming in at the bottom and the last one being the bit that falls out at the top; a chain of
rotations to the right from the most significant byte on shifts it the other way. -/
theorem chains_compute_wide_integers {as bs : List Byte} (hlength : as.length = bs.length)
    (carry : Bool) :
    (let (rs, last) := chain₂ add as bs carry
     rs.length = as.length ∧
      integer rs + last.toNat * 256 ^ as.length = integer as + integer bs + carry.toNat) ∧
    (let (rs, last) := chain₂ sub as bs carry
     rs.length = as.length ∧
      (integer rs : Int) - last.toNat * 256 ^ as.length =
        integer as - integer bs - carry.toNat) ∧
    (let (rs, last) := chain rl as carry
     rs.length = as.length ∧
      integer rs + last.toNat * 256 ^ as.length = 2 * integer as + carry.toNat) ∧
    (let (rs, last) := chain rr as.reverse carry
     rs.length = as.length ∧
      2 * integer rs.reverse + last.toNat = integer as + carry.toNat * 256 ^ as.length) := by
  refine ⟨⟨length_chain₂ hlength carry, ?_⟩, ⟨length_chain₂ hlength carry, ?_⟩,
    ⟨length_chain as carry, integer_chain_rl as carry⟩, ?_, ?_⟩
  · refine number_chain₂_of_sum hlength ?_ carry
    intro a _ b _ carry
    rw [Nat.mul_comm]
    exact (toNat_add a b carry).symm
  · refine number_chain₂_of_difference hlength ?_ carry
    intro a _ b _ carry
    have hplace := (isDifference_sub a b carry).exact
    linear_combination -hplace
  · exact (length_chain _ carry).trans List.length_reverse
  · have hchain := integer_chain_rr as.reverse carry
    rw [List.reverse_reverse, List.length_reverse] at hchain
    exact hchain

/-- Two integers of two bytes, the lower bytes of which give a carry only because one comes in.
The sum and the shift to the left go beyond the two bytes. -/
theorem two_bytes_compute_wide_integers :
    [(0x34 : Byte), 0x92].length = [(0xFF : Byte), 0x6D].length ∧
      (chain₂ add [0x34, 0x92] [0xFF, 0x6D] true = ([0x34, 0x00], true) ∧
        integer [0x34, 0x00] + 1 * 256 ^ 2 = integer [0x34, 0x92] + integer [0xFF, 0x6D] + 1) ∧
      (chain₂ sub [0x34, 0x92] [0xFF, 0x6D] true = ([0x34, 0x24], false) ∧
        (integer [0x34, 0x24] : Int) - 0 * 256 ^ 2 =
          integer [0x34, 0x92] - integer [0xFF, 0x6D] - 1) ∧
      (chain rl [0x34, 0x92] true = ([0x69, 0x24], true) ∧
        integer [0x69, 0x24] + 1 * 256 ^ 2 = 2 * integer [0x34, 0x92] + 1) ∧
      chain rr [0x92, 0x34] true = ([0xC9, 0x1A], false) ∧
        2 * integer [0x1A, 0xC9] + 0 = integer [0x34, 0x92] + 1 * 256 ^ 2 := by
  have hlength : [(0x34 : Byte), 0x92].length = [(0xFF : Byte), 0x6D].length := rfl
  obtain ⟨⟨-, hsum⟩, ⟨-, hdifference⟩, ⟨-, hleft⟩, -, hright⟩ :=
    chains_compute_wide_integers hlength true
  exact ⟨hlength, ⟨by decide, hsum⟩, ⟨by decide, hdifference⟩, ⟨by decide, hleft⟩, by decide,
    hright⟩

end Handheld.Alu
