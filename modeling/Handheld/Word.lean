/-!
# Bytes and words

The machine handles eight-bit bytes and sixteen-bit words.  Both wrap around
silently.  A word is a high and a low byte (`ofBytes`, `high`, `low` are inverse
to each other), and a byte doubles as a signed displacement.
-/

namespace Handheld

abbrev Byte := UInt8

abbrev Word := UInt16

namespace Byte

/-- The byte read as a two's complement number, from -128 to 127. -/
def toSigned (b : Byte) : Int :=
  if b.toNat < 128 then b.toNat else (b.toNat : Int) - 256

/-- One when the bit is set, zero when it is clear. -/
def ofBool (bit : Bool) : Byte :=
  if bit then 1 else 0

/-- A property of all bytes, from the 256 numbers that they are. -/
theorem forall_of_fin {p : Byte → Prop} (h : ∀ i : Fin 256, p (UInt8.ofNat i.val))
    (b : Byte) : p b := by
  have := h ⟨b.toNat, b.toNat_lt⟩
  simpa using this

theorem toNat_and_upper (b : Byte) : (b &&& 0xF0).toNat = b.toNat / 16 * 16 := by
  revert b
  exact forall_of_fin (by decide +kernel)

end Byte

namespace Word

/-- The word with the given high and low bytes. -/
def ofBytes (high low : Byte) : Word :=
  UInt16.ofNat (high.toNat * 256 + low.toNat)

def high (w : Word) : Byte :=
  UInt8.ofNat (w.toNat / 256)

def low (w : Word) : Byte :=
  UInt8.ofNat (w.toNat % 256)

/-- The word moved by a signed byte, around the end of the address space if need be. -/
def displace (w : Word) (offset : Byte) : Word :=
  if offset.toNat < 128 then w + UInt16.ofNat offset.toNat
  else w - UInt16.ofNat (256 - offset.toNat)

@[simp] theorem toNat_ofBytes (high low : Byte) :
    (ofBytes high low).toNat = high.toNat * 256 + low.toNat := by
  have := high.toNat_lt
  have := low.toNat_lt
  simp only [ofBytes, UInt16.toNat_ofNat']
  omega

@[simp] theorem toNat_high (w : Word) : (high w).toNat = w.toNat / 256 := by
  have := w.toNat_lt
  simp only [high, UInt8.toNat_ofNat']
  omega

@[simp] theorem toNat_low (w : Word) : (low w).toNat = w.toNat % 256 := by
  simp only [low, UInt8.toNat_ofNat']
  omega

@[simp] theorem high_ofBytes (high low : Byte) : Word.high (ofBytes high low) = high := by
  apply UInt8.toNat_inj.mp
  have := low.toNat_lt
  simp only [toNat_high, toNat_ofBytes]
  omega

@[simp] theorem low_ofBytes (high low : Byte) : Word.low (ofBytes high low) = low := by
  apply UInt8.toNat_inj.mp
  have := low.toNat_lt
  simp only [toNat_low, toNat_ofBytes]
  omega

@[simp] theorem ofBytes_high_low (w : Word) : ofBytes (high w) (low w) = w := by
  apply UInt16.toNat_inj.mp
  simp only [toNat_ofBytes, toNat_high, toNat_low]
  omega

end Word

end Handheld
