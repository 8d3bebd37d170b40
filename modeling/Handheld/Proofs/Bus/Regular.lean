import Handheld.Proofs.Bus.Insertion
import Handheld.Proofs.Bus.Ticks

/-!
# Regular states of the bus

What holds of the bus when a cartridge is started, and stays so whatever is written to it and
however many instructions' worth of time passes: the timer keeps a multiple of four ticks, its
control register three bits, the cells that the bus leads past stay as they were, and a serial
transfer never stays under way.
-/

namespace Handheld

/-! ## The timer -/

/-- What a timer keeps that is written to and sees instructions pass. -/
structure Timer.Regular (t : Timer) : Prop where
  counter : 4 ∣ t.counter.toNat
  owed : 4 ∣ t.owed
  owed_lt : t.owed < 1024
  control : t.control ≤ 7

namespace Timer

variable {t : Timer}

theorem regular_initial : initial.Regular where
  counter := by decide
  owed := by decide
  owed_lt := by decide
  control := by decide

/-- Every clock counts in fours. -/
theorem four_dvd_period (t : Timer) : 4 ∣ t.period := by
  unfold period
  split <;> decide

namespace Regular

theorem write (h : t.Regular) (r : Register) (v : Byte) : (t.write r v).Regular where
  counter := by
    cases r with
    | divider => exact Nat.dvd_zero 4
    | value | modulo | control => exact h.counter
  owed := by
    cases r with
    | divider | value | modulo | control => exact h.owed
  owed_lt := by
    cases r with
    | divider | value | modulo | control => exact h.owed_lt
  control := by
    cases r with
    | divider | value | modulo => exact h.control
    | control =>
        have hmasked : ∀ v : Byte, v &&& 0x07 ≤ 7 := Byte.forall_of_fin (by decide +kernel)
        exact hmasked v

theorem advance (h : t.Regular) {ticks : Nat} (hticks : 4 ∣ ticks) : (t.advance ticks).Regular where
  counter := by
    have hfour : (4 : Nat) ∣ 2 ^ 16 := by decide
    rw [counter_advance, UInt16.toNat_add, UInt16.toNat_ofNat', Nat.dvd_mod_iff hfour]
    exact Nat.dvd_add h.counter ((Nat.dvd_mod_iff hfour).mpr hticks)
  owed := by
    rw [owed_advance]
    split
    · rw [Nat.dvd_mod_iff t.four_dvd_period]
      exact Nat.dvd_add h.owed hticks
    · exact h.owed
  owed_lt := by
    rw [owed_advance]
    split
    · exact Nat.lt_of_lt_of_le (Nat.mod_lt _ t.period_pos) t.period_le
    · exact h.owed_lt
  control := by
    rw [control_advance]
    exact h.control

end Regular

end Timer

/-! ## The bus -/

namespace Bus

/-- The cell cannot be reached, since its address leads past memory. -/
def IsHidden (a : Word) : Prop :=
  0xFEA0 ≤ a ∧ a ≤ 0xFEFF ∨ 0xFF04 ≤ a ∧ a ≤ 0xFF07 ∨ a = 0xFF0F ∨ a = 0xFFFF

theorem isMemory_of_isHidden {a : Word} (h : IsHidden a) :
    (Region.ofAddress a).isMemory = false := by
  rcases h with hwindow | ⟨hfirst, hlast⟩ | rfl | rfl
  · rw [Region.ofAddress_eq_unusable_iff.mpr hwindow]
    rfl
  · obtain ⟨r, hr⟩ := Timer.Register.at?_of_le hfirst hlast
    rw [← Timer.Register.address_of_at? hr, Region.ofAddress_register]
    rfl
  · rfl
  · rfl

/-- No hidden cell lies where the cartridge is. -/
theorem le_of_isHidden {a : Word} (h : IsHidden a) : 0x8000 ≤ a.toNat := by
  have hle : ∀ b : Word, b ≤ a → b.toNat ≤ a.toNat := fun b => UInt16.le_iff_toNat_le.mp
  rcases h with ⟨hfirst, _⟩ | ⟨hfirst, _⟩ | rfl | rfl
  · exact Nat.le_trans (by decide) (hle _ hfirst)
  · exact Nat.le_trans (by decide) (hle _ hfirst)
  · decide
  · decide

/-- What a bus keeps that is written to and sees instructions pass. -/
structure Regular (bus : Bus) : Prop where
  timer : bus.timer.Regular
  hidden : ∀ a, IsHidden a → bus.memory.read a = 0
  /-- A transfer is complete at once. -/
  serial : bus.memory.read serialControlAddress ≠ transferStart

namespace Regular

variable {bus : Bus}

theorem write (h : bus.Regular) (address : Word) (v : Byte) : (bus.write address v).Regular where
  timer := by
    rw [timer_write]
    cases Region.ofAddress address with
    | timer r => exact h.timer.write r v
    | cell | unusable | interruptRequests | interruptEnable | serialControl => exact h.timer
  hidden := by
    intro a ha
    have hpast := isMemory_of_isHidden ha
    rw [memory_write]
    split
    next hmemory =>
      have hne : a ≠ address := by
        rintro rfl
        rw [hpast] at hmemory
        cases hmemory
      rw [Memory.read_write_of_ne _ _ hne]
      exact h.hidden a ha
    next => exact h.hidden a ha
  serial := by
    by_cases haddress : serialControlAddress = address
    · subst haddress
      have hread : (bus.write serialControlAddress v).memory.read serialControlAddress =
          readBack serialControlAddress v := read_write_self bus serialControlAddress v
      have hdone : ∀ v : Byte, readBack serialControlAddress v ≠ transferStart :=
        Byte.forall_of_fin (by decide +kernel)
      rw [hread]
      exact hdone v
    · rw [read_memory_write_of_ne _ _ haddress]
      exact h.serial

theorem writeAll (h : bus.Regular) (writes : List (Word × Byte)) :
    (bus.writeAll writes).Regular := by
  induction writes generalizing bus with
  | nil => exact h
  | cons w writes ih => exact ih (h.write w.1 w.2)

theorem mapInterrupts (h : bus.Regular) (f : InterruptController → InterruptController) :
    (bus.mapInterrupts f).Regular :=
  ⟨h.timer, h.hidden, h.serial⟩

theorem tick (h : bus.Regular) {ticks : Nat} (hticks : 4 ∣ ticks) : (bus.tick ticks).Regular :=
  ⟨h.timer.advance hticks, h.hidden, h.serial⟩

end Regular

/-- Past its window the cartridge leaves memory as it was. -/
theorem read_insert_initial (cartridge : Cartridge) {a : Word} (h : 0x8000 ≤ a.toNat) :
    (initial.insert cartridge).memory.read a = 0 := by
  rw [memory_insert_of_le initial cartridge h]
  simp [Memory.read, Memory.zero, initial]

theorem regular_withCartridge (cartridge : Cartridge) : (withCartridge cartridge).Regular := by
  have hinserted : (initial.insert cartridge).Regular := by
    constructor
    · exact Timer.regular_initial
    · intro a ha
      exact read_insert_initial cartridge (le_of_isHidden ha)
    · rw [read_insert_initial cartridge (by decide)]
      decide
  exact (hinserted.writeAll bootWrites).mapInterrupts fun ic => { ic with enable := 0 }

end Bus

end Handheld
