import Handheld.Proofs.Bus.ReadBack

/-!
# A cartridge on the bus

A cartridge fills the lower half of memory and touches nothing else.  A write to the upper half
does not reach it, so such writes might as well come first (`insert_writeAll`).  All the writes of
the boot sequence are of this kind: a machine that has just started a cartridge is one that has
started without any, into which the cartridge is put afterwards (`withCartridge_eq`).
-/

namespace Handheld

namespace Cartridge

variable {cartridge cartridge' : Cartridge}

theorem getElem?_window (cartridge : Cartridge) {i : Nat} (h : i < 0x8000) :
    cartridge.window[i]? = cartridge.image[i]? := by
  have hfills := cartridge.fills
  have hwithin : i < min windowSize cartridge.image.size - 0 := by
    rw [windowSize]
    omega
  rw [window, Array.getElem?_extract, if_pos hwithin, Nat.zero_add]

/-- Images that agree in the window look the same through it. -/
theorem window_congr (h : ∀ i < 0x8000, cartridge.image[i]? = cartridge'.image[i]?) :
    cartridge.window = cartridge'.window := by
  apply Array.ext_getElem?
  intro i
  by_cases hi : i < 0x8000
  · rw [getElem?_window cartridge hi, getElem?_window cartridge' hi, h i hi]
  · have hpast : ∀ c : Cartridge, c.window.size ≤ i := by
      intro c
      rw [size_window]
      exact Nat.not_lt.mp hi
    rw [Array.getElem?_eq_none (hpast _), Array.getElem?_eq_none (hpast _)]

end Cartridge

namespace Bus

variable (bus : Bus) (cartridge : Cartridge) {a : Word}

/-! ## What is where -/

@[simp] theorem interrupts_insert : (bus.insert cartridge).interrupts = bus.interrupts := by
  rw [insert]

@[simp] theorem timer_insert : (bus.insert cartridge).timer = bus.timer := by
  rw [insert]

@[simp] theorem sent_insert : (bus.insert cartridge).sent = bus.sent := by
  rw [insert]

theorem memory_insert (a : Word) :
    (bus.insert cartridge).memory.read a =
      cartridge.window.getD a.toNat (bus.memory.read a) :=
  Memory.read_overlay _ _ a

theorem memory_insert_of_lt (h : a.toNat < 0x8000) :
    some ((bus.insert cartridge).memory.read a) = cartridge.image[a.toNat]? := by
  have hsize := cartridge.fills
  rw [memory_insert, Array.getD_eq_getD_getElem?, Cartridge.getElem?_window cartridge h,
    Array.getElem?_eq_getElem (h.trans_le hsize)]
  rfl

theorem memory_insert_of_le (h : 0x8000 ≤ a.toNat) :
    (bus.insert cartridge).memory.read a = bus.memory.read a := by
  have hpast : cartridge.window.size ≤ a.toNat := by
    rw [cartridge.size_window]
    exact h
  rw [memory_insert, Array.getD_eq_getD_getElem?, Array.getElem?_eq_none hpast]
  rfl

/-! ## Writes past the window -/

theorem memory_insert_write (h : 0x8000 ≤ a.toNat) (v : Byte) :
    ((bus.insert cartridge).write a v).memory = ((bus.write a v).insert cartridge).memory := by
  apply Memory.ext_read
  intro b
  by_cases hb : b = a
  · subst hb
    rw [memory_insert_of_le _ _ h, memory_write, memory_write]
    split
    · rw [Memory.read_write_self, Memory.read_write_self]
    · exact memory_insert_of_le bus cartridge h
  · rw [read_memory_write_of_ne _ _ hb]
    by_cases hwindow : b.toNat < 0x8000
    · apply Option.some.inj
      rw [memory_insert_of_lt _ _ hwindow, memory_insert_of_lt _ _ hwindow]
    · have hpast : 0x8000 ≤ b.toNat := Nat.not_lt.mp hwindow
      rw [memory_insert_of_le _ _ hpast, memory_insert_of_le _ _ hpast,
        read_memory_write_of_ne _ _ hb]

theorem insert_write (h : 0x8000 ≤ a.toNat) (v : Byte) :
    (bus.insert cartridge).write a v = (bus.write a v).insert cartridge := by
  have hdata : (bus.insert cartridge).serialData = bus.serialData :=
    memory_insert_of_le bus cartridge (by decide)
  apply Bus.ext
  · exact memory_insert_write bus cartridge h v
  · rw [interrupts_insert, interrupts_write, interrupts_write, interrupts_insert]
  · rw [timer_insert, timer_write, timer_write, timer_insert]
  · rw [sent_insert, sent_write, sent_write, sent_insert, hdata]

theorem insert_writeAll {writes : List (Word × Byte)} (h : ∀ w ∈ writes, 0x8000 ≤ w.1.toNat) :
    (bus.insert cartridge).writeAll writes = (bus.writeAll writes).insert cartridge := by
  induction writes generalizing bus with
  | nil => rfl
  | cons w writes ih =>
      rw [List.forall_mem_cons] at h
      rw [writeAll_cons, writeAll_cons, insert_write bus cartridge h.1, ih _ h.2]

theorem mapInterrupts_insert (f : InterruptController → InterruptController) :
    (bus.insert cartridge).mapInterrupts f = (bus.mapInterrupts f).insert cartridge := by
  rw [insert, insert, mapInterrupts, mapInterrupts]

theorem finishBoot_eq :
    bus.finishBoot = (bus.writeAll bootWrites).mapInterrupts fun ic => { ic with enable := 0 } :=
  rfl

/-- The boot sequence does not reach the cartridge. -/
theorem finishBoot_insert : (bus.insert cartridge).finishBoot = bus.finishBoot.insert cartridge := by
  have hpast : ∀ w ∈ bootWrites, 0x8000 ≤ w.1.toNat := by simp [bootWrites]
  rw [finishBoot_eq, finishBoot_eq, insert_writeAll bus cartridge hpast, mapInterrupts_insert]

theorem withCartridge_eq : withCartridge cartridge = initial.finishBoot.insert cartridge :=
  finishBoot_insert initial cartridge

end Bus

end Handheld
