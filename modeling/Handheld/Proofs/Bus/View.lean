import Handheld.Proofs.Bus.Regular

/-!
# What can be seen of the bus

A processor sees of the bus what the addresses read as, and the master switch.  Two buses that
agree on these look alike, and they may still differ: in the cells that no address leads to, in
the low byte of the counter, in the ticks owed to the timer register and in the bytes sent.
`looksLike_iff` says that they differ in nothing else.  Whatever is written to two buses that
look alike, they look alike afterwards.  Where an address leads to a plain cell, a write does
nothing that cannot be seen by reading that cell.
-/

namespace Handheld.Bus

/-! ## Where memory can be reached -/

theorem isHidden_of_isMemory {a : Word} (h : (Region.ofAddress a).isMemory = false) :
    IsHidden a := by
  cases hregion : Region.ofAddress a with
  | unusable => exact .inl (Region.ofAddress_eq_unusable_iff.mp hregion)
  | timer r =>
      obtain rfl : r.address = a := Region.address_of_eq hregion rfl
      exact .inr (.inl r.address_mem_range)
  | interruptRequests => exact .inr (.inr (.inl (Region.address_of_eq hregion rfl).symm))
  | interruptEnable => exact .inr (.inr (.inr (Region.address_of_eq hregion rfl).symm))
  | cell | serialControl =>
      rw [hregion] at h
      cases h

theorem not_isHidden_iff {a : Word} :
    ¬ IsHidden a ↔ (Region.ofAddress a).isMemory = true := by
  rw [← Bool.not_eq_false]
  exact not_congr ⟨isMemory_of_isHidden, isHidden_of_isMemory⟩

theorem read_of_not_isHidden (bus : Bus) {a : Word} (h : ¬ IsHidden a) :
    bus.read a = bus.memory.read a := by
  have hmemory := not_isHidden_iff.mp h
  rw [read]
  cases hregion : Region.ofAddress a with
  | cell | serialControl => rfl
  | _ =>
      rw [hregion] at hmemory
      cases hmemory

theorem read_register (bus : Bus) (r : Timer.Register) : bus.read r.address = bus.timer.read r := by
  rw [read, Region.ofAddress_register]

/-! ## Plain cells -/

/-- The address leads to a cell, and a write to it does nothing but store the byte. -/
def IsPlain (a : Word) : Prop :=
  ¬ IsHidden a ∧ a ≠ 0xFF02

theorem ofAddress_of_isPlain {a : Word} (h : IsPlain a) : Region.ofAddress a = .cell := by
  obtain ⟨hvisible, hserial⟩ := h
  have hmemory := not_isHidden_iff.mp hvisible
  cases hregion : Region.ofAddress a with
  | cell => rfl
  | serialControl => exact absurd (Region.address_of_eq hregion rfl).symm hserial
  | unusable | timer _ | interruptRequests | interruptEnable =>
      rw [hregion] at hmemory
      cases hmemory

theorem write_of_isPlain {a : Word} (h : IsPlain a) (bus : Bus) (v : Byte) :
    bus.write a v = { bus with memory := bus.memory.write a v } := by
  rw [write, ofAddress_of_isPlain h]

theorem read_of_isPlain {a : Word} (h : IsPlain a) (bus : Bus) :
    bus.read a = bus.memory.read a :=
  read_of_not_isHidden bus h.1

theorem readBack_of_isPlain {a : Word} (h : IsPlain a) (v : Byte) : readBack a v = v := by
  rw [← readBack_ofAddress, ofAddress_of_isPlain h]
  rfl

/-! ## Buses that look alike -/

/-- The buses agree at every address and in the master switch with its delay. -/
structure LooksLike (bus bus' : Bus) : Prop where
  read : ∀ a, bus.read a = bus'.read a
  switch : bus.interrupts.switch = bus'.interrupts.switch

namespace LooksLike

variable {bus bus' : Bus}

theorem symm (h : bus.LooksLike bus') : bus'.LooksLike bus :=
  ⟨fun a => (h.read a).symm, h.switch.symm⟩

/-- The interrupt controller holds nothing that cannot be seen. -/
theorem interrupts (h : bus.LooksLike bus') : bus.interrupts = bus'.interrupts := by
  obtain ⟨hmaster, hdelay⟩ := Prod.mk.inj h.switch
  have henable : bus.interrupts.enable = bus'.interrupts.enable := h.read interruptEnableAddress
  have hrequests : bus.interrupts.requests = bus'.interrupts.requests :=
    h.read interruptRequestsAddress
  calc
    bus.interrupts = ⟨bus.interrupts.enable, bus.interrupts.requests, bus.interrupts.master,
        bus.interrupts.delay?⟩ := rfl
    _ = ⟨bus'.interrupts.enable, bus'.interrupts.requests, bus'.interrupts.master,
        bus'.interrupts.delay?⟩ := by rw [henable, hrequests, hmaster, hdelay]
    _ = bus'.interrupts := rfl

theorem readWord (h : bus.LooksLike bus') (a : Word) : bus.readWord a = bus'.readWord a := by
  rw [Bus.readWord, Bus.readWord, h.read, h.read]

theorem write (h : bus.LooksLike bus') (a : Word) (v : Byte) :
    (bus.write a v).LooksLike (bus'.write a v) where
  read := by
    intro b
    by_cases hb : b = a
    · subst hb
      rw [read_write_self, read_write_self]
    · rw [read_write_of_ne _ _ hb, read_write_of_ne _ _ hb, h.read]
  switch := by
    rw [switch_write, switch_write, h.switch]

/-- What a transfer sends and a log tells of a write can be seen before the write. -/
theorem writeEvents (h : bus.LooksLike bus') (a : Word) (v : Byte) :
    bus.writeEvents a v = bus'.writeEvents a v := by
  have hdata : bus.serialData = bus'.serialData := h.read serialDataAddress
  simp only [Bus.writeEvents, hdata]

theorem mapInterrupts (h : bus.LooksLike bus') (f : InterruptController → InterruptController) :
    (bus.mapInterrupts f).LooksLike (bus'.mapInterrupts f) where
  read := by
    intro a
    have hread := h.read a
    rw [Bus.read, Bus.read] at hread ⊢
    cases hregion : Region.ofAddress a with
    | unusable => rfl
    | interruptRequests | interruptEnable =>
        simp only [interrupts_mapInterrupts, h.interrupts]
    | timer r | serialControl | cell =>
        rw [hregion] at hread
        exact hread
  switch := by
    rw [interrupts_mapInterrupts, interrupts_mapInterrupts, h.interrupts]

end LooksLike

/-! ## What cannot be seen -/

/-- Buses look alike if and only if they differ at most in the cells that no address leads to,
in the low byte of the counter, in the ticks owed to the timer register and in what was sent. -/
theorem looksLike_iff {bus bus' : Bus} :
    bus.LooksLike bus' ↔
      (∀ a, ¬ IsHidden a → bus.memory.read a = bus'.memory.read a) ∧
      bus.interrupts = bus'.interrupts ∧
      ∀ r, bus.timer.read r = bus'.timer.read r := by
  constructor
  · intro h
    refine ⟨?_, h.interrupts, ?_⟩
    · intro a ha
      rw [← read_of_not_isHidden bus ha, ← read_of_not_isHidden bus' ha, h.read]
    · intro r
      rw [← read_register, ← read_register, h.read]
  · rintro ⟨hmemory, hinterrupts, htimer⟩
    constructor
    · intro a
      by_cases ha : IsHidden a
      · have hpast := isMemory_of_isHidden ha
        rw [read, read]
        cases hregion : Region.ofAddress a with
        | unusable => rfl
        | timer r => exact htimer r
        | interruptRequests | interruptEnable => simp only [hinterrupts]
        | cell | serialControl =>
            rw [hregion] at hpast
            cases hpast
      · rw [read_of_not_isHidden bus ha, read_of_not_isHidden bus' ha, hmemory a ha]
    · rw [hinterrupts]

end Handheld.Bus
