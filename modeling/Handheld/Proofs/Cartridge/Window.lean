import Handheld.Console
import Handheld.Proofs.Bus.Insertion
import Handheld.Proofs.Bus.View
import Handheld.Proofs.Cartridge.Header

/-!
# Nothing past the window

An image is a cartridge if it fills the window, however long it is.  From then on only the bytes
in the window count: a header lies well inside it, and the bus holds no other byte of the image.
So images that agree in the window start consoles that do the same for good.
-/

namespace Handheld

namespace Bus

variable (bus : Bus) (cartridge : Cartridge) {a : Word}

/-- All of the window leads to memory. -/
theorem read_insert_of_lt (h : a.toNat < 0x8000) :
    some ((bus.insert cartridge).read a) = cartridge.image[a.toNat]? := by
  have hvisible : ¬ IsHidden a := fun hhidden => absurd (le_of_isHidden hhidden) (Nat.not_le.mpr h)
  rw [read_of_not_isHidden _ hvisible, memory_insert_of_lt _ _ h]

theorem read_insert_of_le (h : 0x8000 ≤ a.toNat) :
    (bus.insert cartridge).read a = bus.read a := by
  rw [read, read, interrupts_insert, timer_insert, memory_insert_of_le _ _ h]

end Bus

namespace Cartridge

variable {image : Array Byte} {cartridge cartridge' : Cartridge}

theorem ofImage_eq_error_iff {e : LoadError} :
    ofImage image = .error e ↔ image.size < 0x8000 ∧ e = .tooShort 0x8000 image.size := by
  by_cases h : 0x8000 ≤ image.size
  · rw [ofImage_of_le h]
    constructor
    · intro hok
      cases hok
    · rintro ⟨hshort, _⟩
      exact absurd h (Nat.not_le.mpr hshort)
  · rw [ofImage, dif_neg h, windowSize, Except.error.injEq, eq_comm,
      and_iff_right (Nat.not_le.mp h)]

section Agreement

variable (h : ∀ i < 0x8000, cartridge.image[i]? = cartridge'.image[i]?)
include h

theorem header_congr : cartridge.header = cartridge'.header := by
  have hfits : ∀ c : Cartridge, Header.endOffset ≤ c.image.size :=
    fun c => Nat.le_trans (by decide) c.fills
  apply Header.ofImage_congr (hfits cartridge) (hfits cartridge')
  intro i _ hend
  exact h i (hend.trans (by decide))

theorem insert_congr (bus : Bus) : bus.insert cartridge = bus.insert cartridge' := by
  rw [Bus.insert, Bus.insert, window_congr h]

theorem start_congr : Console.start cartridge = Console.start cartridge' := by
  rw [Console.start, Console.start, Bus.withCartridge, Bus.withCartridge, insert_congr h]

theorem startEvents_congr : Console.startEvents cartridge = Console.startEvents cartridge' := by
  rw [Console.startEvents, Console.startEvents, header_congr h, insert_congr h]

end Agreement

theorem bus_start (cartridge : Cartridge) :
    (Console.start cartridge).machine.bus = Bus.initial.finishBoot.insert cartridge :=
  Bus.withCartridge_eq cartridge

/-- An image is refused if and only if it does not fill the window.  Otherwise a console that has
just started it reads the image in the window, and past the window what it would read without any
cartridge; and images that agree in the window have one header and start one and the same console.
Whatever is on the bus before, a cartridge that is put into it replaces what the window reads as,
and nothing else. -/
theorem only_the_window_matters :
    (∀ (image : Array Byte) (e : LoadError),
      ofImage image = .error e ↔ image.size < 0x8000 ∧ e = .tooShort 0x8000 image.size) ∧
    (∀ image : Array Byte, 0x8000 ≤ image.size →
      ∃ cartridge, ofImage image = .ok cartridge ∧
        ∀ a : Word,
          (a.toNat < 0x8000 →
            some ((Console.start cartridge).machine.bus.read a) = image[a.toNat]?) ∧
          (0x8000 ≤ a.toNat →
            (Console.start cartridge).machine.bus.read a = Bus.initial.finishBoot.read a)) ∧
    (∀ image image' : Array Byte, 0x8000 ≤ image.size → 0x8000 ≤ image'.size →
      (∀ i < 0x8000, image[i]? = image'[i]?) →
      ∃ cartridge cartridge',
        ofImage image = .ok cartridge ∧ ofImage image' = .ok cartridge' ∧
        cartridge.header = cartridge'.header ∧
        Console.start cartridge = Console.start cartridge' ∧
        Console.startEvents cartridge = Console.startEvents cartridge' ∧
        ∀ (filter : Event → Bool) (budget : Nat),
          Console.runFor filter budget (Console.start cartridge) =
            Console.runFor filter budget (Console.start cartridge')) ∧
    ∀ (bus : Bus) (cartridge : Cartridge),
      (∀ a : Word, a.toNat < 0x8000 →
        some ((bus.insert cartridge).read a) = cartridge.image[a.toNat]?) ∧
      (∀ a : Word, 0x8000 ≤ a.toNat →
        (bus.insert cartridge).read a = bus.read a ∧
          (bus.insert cartridge).memory.read a = bus.memory.read a) ∧
      (bus.insert cartridge).timer = bus.timer ∧
      (bus.insert cartridge).interrupts = bus.interrupts ∧
      (bus.insert cartridge).sent = bus.sent := by
  refine ⟨fun _ _ => ofImage_eq_error_iff, ?_, ?_, ?_⟩
  · intro image hfills
    refine ⟨⟨image, hfills⟩, ofImage_of_le hfills, fun a => ?_⟩
    rw [bus_start]
    exact ⟨Bus.read_insert_of_lt _ _, Bus.read_insert_of_le _ _⟩
  · intro image image' hfills hfills' hagree
    have hstart : Console.start ⟨image, hfills⟩ = Console.start ⟨image', hfills'⟩ :=
      start_congr hagree
    refine ⟨⟨image, hfills⟩, ⟨image', hfills'⟩, ofImage_of_le hfills, ofImage_of_le hfills',
      header_congr hagree, hstart, startEvents_congr hagree, ?_⟩
    intro filter budget
    rw [hstart]
  · intro bus cartridge
    refine ⟨fun a => Bus.read_insert_of_lt bus cartridge, ?_, bus.timer_insert cartridge,
      bus.interrupts_insert cartridge, bus.sent_insert cartridge⟩
    intro a ha
    exact ⟨Bus.read_insert_of_le bus cartridge ha, Bus.memory_insert_of_le bus cartridge ha⟩

/-- The smallest image there is, with an undefined opcode in every place. -/
def smallestImage : Array Byte :=
  Array.replicate 0x8000 0xD3

/-- One byte less is refused, one byte more is not seen. -/
theorem smallestImage_fills_window :
    ofImage smallestImage.pop = .error (.tooShort 0x8000 0x7FFF) ∧
      0x8000 ≤ smallestImage.size ∧ 0x8000 ≤ (smallestImage.push 0x12).size ∧
      (∀ i < 0x8000, smallestImage[i]? = (smallestImage.push 0x12)[i]?) ∧
      ∃ cartridge cartridge',
        ofImage smallestImage = .ok cartridge ∧ ofImage (smallestImage.push 0x12) = .ok cartridge' ∧
        Console.start cartridge = Console.start cartridge' ∧
        (Console.start cartridge).machine.bus.read 0x7FFF = 0xD3 ∧
        (Console.start cartridge).machine.bus.read 0xFF07 = 0 ∧
        (Bus.initial.insert cartridge).read 0xFF07 = Bus.initial.read 0xFF07 := by
  obtain ⟨hrefused, hstarted, hagreeing, hinserted⟩ := only_the_window_matters
  have hsize : smallestImage.size = 0x8000 := Array.size_replicate
  have hshort : smallestImage.pop.size = 0x7FFF := by rw [Array.size_pop, hsize]
  have hfills : 0x8000 ≤ smallestImage.size := hsize.ge
  have hfills' : 0x8000 ≤ (smallestImage.push 0x12).size := by
    rw [Array.size_push, hsize]
    decide
  have hagree : ∀ i < 0x8000, smallestImage[i]? = (smallestImage.push 0x12)[i]? := by
    intro i hi
    rw [Array.getElem?_push_lt (hi.trans_le hfills), Array.getElem?_eq_getElem]
  obtain ⟨cartridge, hok, hread⟩ := hstarted smallestImage hfills
  obtain ⟨other, cartridge', hother, hok', -, hstart, -⟩ := hagreeing _ _ hfills hfills' hagree
  obtain rfl : cartridge = other := Except.ok.inj (hok.symm.trans hother)
  refine ⟨?_, hfills, hfills', hagree, cartridge, cartridge', hok, hok', hstart, ?_, ?_, ?_⟩
  · rw [hrefused, hshort]
    exact ⟨by decide, rfl⟩
  · have hlast : smallestImage[0x7FFF]? = some 0xD3 := by
      rw [smallestImage, Array.getElem?_replicate, if_pos (by decide)]
    exact Option.some.inj (((hread 0x7FFF).1 (by decide)).trans hlast)
  · exact ((hread 0xFF07).2 (by decide)).trans (by decide)
  · exact ((hinserted Bus.initial cartridge).2.1 0xFF07 (by decide)).1

end Cartridge

end Handheld
