import Handheld.Alu

/-!
# Words by bytes

The operations on words agree with the addition of bytes.  A sum of words is the sum of the low
bytes and then that of the high bytes, with the carry of the first one coming in.  A word moved
by a signed byte is such a sum as well: what is added to its high byte is the sign of the other
byte, in all eight bits.  Only where the carries are taken from differs.
-/

namespace Handheld.Alu

/-! ## The sum of the bytes -/

/-- The sum of the low bytes. -/
def lowSum (a b : Word) : AluResult :=
  add (Word.low a) (Word.low b) false

/-- The sum of the high bytes and the carry from below. -/
def highSum (a b : Word) : AluResult :=
  add (Word.high a) (Word.high b) (lowSum a b).flags.c

variable (a b : Word)

/-- What is carried from the low bytes to the high ones. -/
theorem toNat_lowSum :
    a.toNat % 256 + b.toNat % 256 =
      (lowSum a b).value.toNat + 256 * (lowSum a b).flags.c.toNat := by
  have hsum := toNat_add (Word.low a) (Word.low b) false
  rw [Word.toNat_low, Word.toNat_low] at hsum
  exact hsum

theorem toNat_highSum :
    a.toNat / 256 + b.toNat / 256 + (lowSum a b).flags.c.toNat =
      (highSum a b).value.toNat + 256 * (highSum a b).flags.c.toNat := by
  have hsum := toNat_add (Word.high a) (Word.high b) (lowSum a b).flags.c
  rw [Word.toNat_high, Word.toNat_high] at hsum
  exact hsum

theorem ofBytes_highSum_lowSum :
    Word.ofBytes (highSum a b).value (lowSum a b).value = a + b := by
  have hlow := toNat_lowSum a b
  have hhigh := toNat_highSum a b
  have hlowValue := (lowSum a b).value.toNat_lt
  have hhighValue := (highSum a b).value.toNat_lt
  apply UInt16.toNat_inj.mp
  rw [Word.toNat_ofBytes, UInt16.toNat_add]
  omega

/-- The carries of a sum of words are those of the high bytes. -/
theorem carries_addWord :
    (addWord a b).h = (highSum a b).flags.h ∧ (addWord a b).c = (highSum a b).flags.c := by
  have hlow := toNat_lowSum a b
  have hvalue := (lowSum a b).value.toNat_lt
  constructor
  · show decide (0xFFF < a.toNat % 0x1000 + b.toNat % 0x1000) =
      decide (15 < (Word.high a).toNat % 16 + (Word.high b).toNat % 16 +
        (lowSum a b).flags.c.toNat)
    rw [decide_eq_decide, Word.toNat_high, Word.toNat_high]
    omega
  · show decide (0xFFFF < a.toNat + b.toNat) =
      decide (255 < (Word.high a).toNat + (Word.high b).toNat + (lowSum a b).flags.c.toNat)
    rw [decide_eq_decide, Word.toNat_high, Word.toNat_high]
    omega

/-! ## Signed bytes as words -/

/-- The byte that holds the sign of another one in all of its bits. -/
def signByte (offset : Byte) : Byte :=
  if offset.toSigned < 0 then 0xFF else 0x00

theorem toNat_signByte (offset : Byte) :
    (signByte offset).toNat = if offset.toNat < 128 then 0 else 255 := by
  have hoffset := offset.toNat_lt
  by_cases hpositive : offset.toNat < 128
  · have hsigned : ¬ offset.toSigned < 0 := by
      rw [Byte.toSigned, if_pos hpositive]
      omega
    rw [signByte, if_neg hsigned, if_pos hpositive]
    rfl
  · have hsigned : offset.toSigned < 0 := by
      rw [Byte.toSigned, if_neg hpositive]
      omega
    rw [signByte, if_pos hsigned, if_neg hpositive]
    rfl

/-- A word is moved by adding the word that the signed byte extends to. -/
theorem displace_eq_add_ofBytes (offset : Byte) :
    a.displace offset = a + Word.ofBytes (signByte offset) offset := by
  have hoffset := offset.toNat_lt
  have hword := a.toNat_lt
  apply UInt16.toNat_inj.mp
  rw [UInt16.toNat_add, Word.toNat_ofBytes, toNat_signByte, Word.displace]
  split
  · rw [UInt16.toNat_add, UInt16.toNat_ofNat']
    omega
  · rw [UInt16.toNat_sub, UInt16.toNat_ofNat']
    omega

/-- The carries of a word moved by a signed byte are those of the low bytes. -/
theorem carries_addSigned (offset : Byte) :
    (addSigned a offset).h = (add (Word.low a) offset false).flags.h ∧
      (addSigned a offset).c = (add (Word.low a) offset false).flags.c := by
  constructor
  · show decide (15 < a.toNat % 16 + offset.toNat % 16) =
      decide (15 < (Word.low a).toNat % 16 + offset.toNat % 16 + 0)
    rw [decide_eq_decide, Word.toNat_low]
    omega
  · show decide (255 < a.toNat % 256 + offset.toNat) =
      decide (255 < (Word.low a).toNat + offset.toNat + 0)
    rw [Word.toNat_low, Nat.add_zero]

/-! ## The law -/

/-- A sum of words has the bytes that the sums of their bytes have, and the carries of the sum
of the high bytes.  A word moved by a signed byte has the bytes of the sum with the word that
the byte extends to, but the carries are those of the sum of the low bytes. -/
theorem words_agree_with_bytes :
    (∀ a b : Word,
      let low := add (Word.low a) (Word.low b) false
      let high := add (Word.high a) (Word.high b) low.flags.c
      addWord a b = ⟨Word.ofBytes high.value low.value, high.flags.h, high.flags.c⟩) ∧
    ∀ (sp : Word) (offset : Byte),
      let low := add (Word.low sp) offset false
      let high := add (Word.high sp) (if offset.toSigned < 0 then 0xFF else 0x00) low.flags.c
      addSigned sp offset =
        ⟨Word.ofBytes high.value low.value, low.flags.h, low.flags.c⟩ := by
  constructor
  · intro a b
    obtain ⟨hhalf, hcarry⟩ := carries_addWord a b
    show _ = AluWordResult.mk (Word.ofBytes (highSum a b).value (lowSum a b).value)
      (highSum a b).flags.h (highSum a b).flags.c
    rw [ofBytes_highSum_lowSum, ← hhalf, ← hcarry]
    rfl
  · intro sp offset
    have hvalue := ofBytes_highSum_lowSum sp (Word.ofBytes (signByte offset) offset)
    rw [← displace_eq_add_ofBytes, highSum, lowSum, Word.low_ofBytes, Word.high_ofBytes] at hvalue
    obtain ⟨hhalf, hcarry⟩ := carries_addSigned sp offset
    show _ = AluWordResult.mk (Word.ofBytes (add (Word.high sp) (signByte offset) _).value _) _ _
    rw [hvalue, ← hhalf, ← hcarry]
    rfl

end Handheld.Alu
