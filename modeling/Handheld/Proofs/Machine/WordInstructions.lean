import Handheld.Proofs.Machine.Words

/-!
# Words, the stack and the accumulator's loads and stores

The codes in the first quarter of the base page that do not work on a byte place, and the
regular columns of its last quarter, move words and exchange the accumulator with a cell.
For each family of such codes one statement says what a step leaves.  Sums of words wrap
around, and what is carried out of them is said on natural numbers, where nothing does.
-/

namespace Handheld.Machine

open Opcode

variable {m : Machine}

/-! ## What the families do -/

/-- The flag byte after the stack pointer has been moved by a byte.  It tells of the unsigned
addition of the two low bytes, whichever way the pointer is moved. -/
def offsetFlags (sp : Word) (offset : Byte) : Byte :=
  Flags.toByte
    ⟨false, false, decide (16 ≤ sp.toNat % 16 + offset.toNat % 16),
      decide (256 ≤ sp.toNat % 256 + offset.toNat)⟩

/-- The flag byte after two words have been added.  Whether the last result was zero stays
known. -/
def sumFlags (z : Bool) (a b : Word) : Byte :=
  Flags.toByte
    ⟨z, false, decide (2 ^ 12 ≤ a.toNat % 2 ^ 12 + b.toNat % 2 ^ 12),
      decide (2 ^ 16 ≤ a.toNat + b.toNat)⟩

/-- What a step does, by the code at the program counter and the field in it. -/
structure KeepsToWordFields (m : Machine) : Prop where
  loadImmediate : ∀ p : Fin 4, (m.bus.read m.cpu.pc).toNat = 0x01 + 16 * p.val →
    step.Yields m 12
      (((m.awakeAt (m.cpu.pc + 3)).setWord (.ofField p) (m.bus.readWord (m.cpu.pc + 1))).ended
        (m.cpu.f &&& 0xF0))
  increment : ∀ p : Fin 4, (m.bus.read m.cpu.pc).toNat = 0x03 + 16 * p.val →
    step.Yields m 8
      (((m.awakeAt (m.cpu.pc + 1)).setWord (.ofField p) (m.word (.ofField p) + 1)).ended
        (m.cpu.f &&& 0xF0))
  decrement : ∀ p : Fin 4, (m.bus.read m.cpu.pc).toNat = 0x0B + 16 * p.val →
    step.Yields m 8
      (((m.awakeAt (m.cpu.pc + 1)).setWord (.ofField p) (m.word (.ofField p) - 1)).ended
        (m.cpu.f &&& 0xF0))
  /-- The field may name HL itself. -/
  addToHL : ∀ p : Fin 4, (m.bus.read m.cpu.pc).toNat = 0x09 + 16 * p.val →
    step.Yields m 8
      (((m.awakeAt (m.cpu.pc + 1)).setWord .hl
        (m.word .hl + m.word (.ofField p))).ended
          (sumFlags m.cpu.flags.z (m.word .hl) (m.word (.ofField p))))
  addToSP : (m.bus.read m.cpu.pc).toNat = 0xE8 →
    step.Yields m 16
      (((m.awakeAt (m.cpu.pc + 2)).setWord .sp
        (m.cpu.sp + UInt16.ofInt (m.bus.read (m.cpu.pc + 1)).toSigned)).ended
          (offsetFlags m.cpu.sp (m.bus.read (m.cpu.pc + 1))))
  loadOffset : (m.bus.read m.cpu.pc).toNat = 0xF8 →
    step.Yields m 12
      (((m.awakeAt (m.cpu.pc + 2)).setWord .hl
        (m.cpu.sp + UInt16.ofInt (m.bus.read (m.cpu.pc + 1)).toSigned)).ended
          (offsetFlags m.cpu.sp (m.bus.read (m.cpu.pc + 1))))
  copyHL : (m.bus.read m.cpu.pc).toNat = 0xF9 →
    step.Yields m 8
      (((m.awakeAt (m.cpu.pc + 1)).setWord .sp (m.word .hl)).ended (m.cpu.f &&& 0xF0))
  /-- The low byte goes to the address that follows the code, the high byte to the next one. -/
  storeSP : (m.bus.read m.cpu.pc).toNat = 0x08 →
    step.Yields m 20
      ((((m.awakeAt (m.cpu.pc + 3)).stored (m.bus.readWord (m.cpu.pc + 1))
        (Word.low m.cpu.sp)).stored (m.bus.readWord (m.cpu.pc + 1) + 1)
          (Word.high m.cpu.sp)).ended (m.cpu.f &&& 0xF0))
  /-- The high byte goes below the top of the stack, the low byte below that. -/
  push : ∀ p : Fin 4, (m.bus.read m.cpu.pc).toNat = 0xC5 + 16 * p.val →
    step.Yields m 16
      (((m.awakeAt (m.cpu.pc + 1)).pushed (m.word (.ofStackField p))).ended
        (m.cpu.f &&& 0xF0))
  /-- The low byte is at the top of the stack.  Of AF it is the flag byte. -/
  pop : ∀ p : Fin 4, (m.bus.read m.cpu.pc).toNat = 0xC1 + 16 * p.val →
    step.Yields m 12
      (((m.awakeAt (m.cpu.pc + 1)).popped.setWord (.ofStackField p)
        (m.bus.readWord m.cpu.sp)).ended
          ((if p = 3 then m.bus.read m.cpu.sp else m.cpu.f) &&& 0xF0))
  loadPointed : ∀ p : Fin 4, (m.bus.read m.cpu.pc).toNat = 0x0A + 16 * p.val →
    step.Yields m 8
      ((((m.awakeAt (m.cpu.pc + 1)).pastPointer p).setAccumulator
        (m.bus.read (m.pointed p))).ended (m.cpu.f &&& 0xF0))
  storePointed : ∀ p : Fin 4, (m.bus.read m.cpu.pc).toNat = 0x02 + 16 * p.val →
    step.Yields m 8
      ((((m.awakeAt (m.cpu.pc + 1)).pastPointer p).stored (m.pointed p) m.cpu.a).ended
        (m.cpu.f &&& 0xF0))
  loadAbsolute : (m.bus.read m.cpu.pc).toNat = 0xFA →
    step.Yields m 16
      (((m.awakeAt (m.cpu.pc + 3)).setAccumulator
        (m.bus.read (m.bus.readWord (m.cpu.pc + 1)))).ended (m.cpu.f &&& 0xF0))
  storeAbsolute : (m.bus.read m.cpu.pc).toNat = 0xEA →
    step.Yields m 16
      (((m.awakeAt (m.cpu.pc + 3)).stored (m.bus.readWord (m.cpu.pc + 1)) m.cpu.a).ended
        (m.cpu.f &&& 0xF0))
  loadHighPage : (m.bus.read m.cpu.pc).toNat = 0xF0 →
    step.Yields m 12
      (((m.awakeAt (m.cpu.pc + 2)).setAccumulator
        (m.bus.read (0xFF00 + UInt16.ofNat (m.bus.read (m.cpu.pc + 1)).toNat))).ended
          (m.cpu.f &&& 0xF0))
  storeHighPage : (m.bus.read m.cpu.pc).toNat = 0xE0 →
    step.Yields m 12
      (((m.awakeAt (m.cpu.pc + 2)).stored
        (0xFF00 + UInt16.ofNat (m.bus.read (m.cpu.pc + 1)).toNat) m.cpu.a).ended
          (m.cpu.f &&& 0xF0))
  loadHighPageC : (m.bus.read m.cpu.pc).toNat = 0xF2 →
    step.Yields m 8
      (((m.awakeAt (m.cpu.pc + 1)).setAccumulator
        (m.bus.read (0xFF00 + UInt16.ofNat m.cpu.c.toNat))).ended (m.cpu.f &&& 0xF0))
  storeHighPageC : (m.bus.read m.cpu.pc).toNat = 0xE2 →
    step.Yields m 8
      (((m.awakeAt (m.cpu.pc + 1)).stored (0xFF00 + UInt16.ofNat m.cpu.c.toNat) m.cpu.a).ended
        (m.cpu.f &&& 0xF0))

/-! ## What becomes of the flags -/

/-- Only the pop of AF brings flags along, and it clears the lower half of the byte. -/
theorem resolve_pop (p : Fin 4) (m : Machine) (v : Word) :
    (popFlagSpec p).resolve (m.setWord (.ofStackField p) v).cpu.f
        (m.setWord (.ofStackField p) v).cpu.flags =
      (if p = 3 then Word.low v else m.cpu.f) &&& 0xF0 := by
  match p with
  | 0 | 1 | 2 => exact resolve_untouched m.cpu.f _
  | 3 =>
      have hcleared : Word.low v &&& 0xF0 &&& 0xF0 = Word.low v &&& 0xF0 := by
        rw [UInt8.and_assoc]
        rfl
      exact (Flags.toByte_ofByte _).trans hcleared

/-! ## The steps -/

/-- A processor that does not sleep on executes every instruction on words, on the stack and on
the accumulator and a cell by its field. -/
theorem keepsToWordFields_of_awake (hawake : m.isIdle = false) : m.KeepsToWordFields where
  loadImmediate p hcode := by
    refine step_yields_base hawake hcode (lookup?_loadWord p)
      (load_yields rfl (readOperand_immediate16 _ _) ?_) rfl ?_
    · rw [operandAt_eq_readWord rfl rfl]
      exact writeOperand_register16 _ _ _ _
    · rw [f_setWord]
      exact resolve_untouched _ _
  increment p hcode := by
    rw [← word_awakeAt m (m.cpu.pc + 1)]
    refine step_yields_base hawake hcode (lookup?_incrementWord p) (stepOperand_word 1 _ rfl) rfl ?_
    rw [f_setWord]
    exact resolve_untouched _ _
  decrement p hcode := by
    rw [← word_awakeAt m (m.cpu.pc + 1), UInt16.sub_eq_add_neg]
    refine step_yields_base hawake hcode (lookup?_decrementWord p) (stepOperand_word (-1) _ rfl)
      rfl ?_
    rw [f_setWord]
    exact resolve_untouched _ _
  addToHL p hcode := by
    rw [← word_awakeAt m (m.cpu.pc + 1) (.ofField p)]
    exact step_yields_base hawake hcode (lookup?_addWord p) (addOperand_word rfl) rfl rfl
  addToSP hcode :=
    step_yields_base hawake hcode lookup?_addSigned (addOperand_signed rfl rfl _ rfl) rfl rfl
  loadOffset hcode :=
    step_yields_base hawake hcode lookup?_loadOffset (load_offset rfl rfl _ rfl) rfl rfl
  copyHL hcode :=
    step_yields_base hawake hcode lookup?_copyHL
      (load_yields rfl (readOperand_register16_word _ _ .hl) (writeOperand_register16 _ _ .sp _)) rfl
      (resolve_untouched _ _)
  storeSP hcode :=
    step_yields_base hawake hcode lookup?_storeStackPointer
      (load_yields rfl (readOperand_register16_word _ _ .sp)
        (writeOperand_absolute_word rfl m _ _ rfl _)) rfl (resolve_untouched _ _)
  push p hcode := by
    rw [← word_awakeAt m (m.cpu.pc + 1)]
    exact step_yields_base hawake hcode (lookup?_push p) (pushOperand_yields rfl) rfl
      (resolve_untouched _ _)
  pop p hcode := by
    have hlow : Word.low (m.bus.readWord m.cpu.sp) = m.bus.read m.cpu.sp := Word.low_ofBytes _ _
    rw [← hlow]
    exact step_yields_base hawake hcode (lookup?_pop p) (popOperand_yields rfl) rfl
      (resolve_pop p _ _)
  loadPointed p hcode := by
    rw [← pointed_awakeAt m (m.cpu.pc + 1)]
    refine step_yields_base hawake hcode (lookup?_loadPointed p)
      (load_accumulator rfl (readOperand_pointer _ _ p)) rfl ?_
    rw [setAccumulator, f_pastPointer]
    exact resolve_untouched _ _
  storePointed p hcode := by
    rw [← pointed_awakeAt m (m.cpu.pc + 1)]
    refine step_yields_base hawake hcode (lookup?_storePointed p)
      (store_accumulator rfl (writeOperand_pointer _ _ p _)) rfl ?_
    rw [stored, f_pastPointer]
    exact resolve_untouched _ _
  loadAbsolute hcode :=
    step_yields_base hawake hcode lookup?_loadAbsolute
      (load_accumulator rfl (readOperand_absolute rfl m _ _ rfl)) rfl (resolve_untouched _ _)
  storeAbsolute hcode :=
    step_yields_base hawake hcode lookup?_storeAbsolute
      (store_accumulator rfl (writeOperand_absolute rfl m _ _ rfl _)) rfl (resolve_untouched _ _)
  loadHighPage hcode := by
    rw [← highPageAddress_eq_add]
    exact step_yields_base hawake hcode lookup?_loadHighPage
      (load_accumulator rfl (readOperand_highPage rfl m _ _ rfl)) rfl (resolve_untouched _ _)
  storeHighPage hcode := by
    rw [← highPageAddress_eq_add]
    exact step_yields_base hawake hcode lookup?_storeHighPage
      (store_accumulator rfl (writeOperand_highPage rfl m _ _ rfl _)) rfl (resolve_untouched _ _)
  loadHighPageC hcode := by
    rw [← highPageAddress_eq_add]
    exact step_yields_base hawake hcode lookup?_loadHighPageRegister
      (load_accumulator rfl (readOperand_highPageRegister _ _ .c)) rfl (resolve_untouched _ _)
  storeHighPageC hcode := by
    rw [← highPageAddress_eq_add]
    exact step_yields_base hawake hcode lookup?_storeHighPageRegister
      (store_accumulator rfl (writeOperand_highPageRegister _ _ .c _)) rfl (resolve_untouched _ _)

/-- A machine that is to write its stack pointer around the end of the address space, the low
byte to the interrupt enable register. -/
def spilling : Machine :=
  running { Cpu.initial with sp := 0x1204 } [0x08, 0xFF, 0xFF]

/-- A machine that is to increment BC, from a word with a full low byte. -/
def carrying : Machine :=
  running { Cpu.initial with b := 0x12, c := 0xFF } [0x03]

/-- The carry goes into B, and the flag byte does not tell of it. -/
theorem keepsToWordFields_of_spilling_and_carrying :
    (spilling.isIdle = false ∧ (spilling.bus.read spilling.cpu.pc).toNat = 0x08 ∧
      step.Yields spilling 20
        ((((spilling.awakeAt 0x0103).stored 0xFFFF 0x04).stored 0x0000 0x12).ended 0xB0)) ∧
    carrying.isIdle = false ∧ (carrying.bus.read carrying.cpu.pc).toNat = 0x03 ∧
      step.Yields carrying 8
        ⟨{ Cpu.initial with b := 0x13, c := 0x00, pc := 0x0101 },
          carrying.bus.mapInterrupts .finishInstruction⟩ := by
  refine ⟨?spilling, ?carrying⟩
  case spilling =>
    have hawake : spilling.isIdle = false := by decide +kernel
    have hcode : (spilling.bus.read spilling.cpu.pc).toNat = 0x08 := by decide +kernel
    have htarget : spilling.bus.readWord (spilling.cpu.pc + 1) = 0xFFFF := by decide +kernel
    have hstep := (keepsToWordFields_of_awake hawake).storeSP hcode
    rw [htarget] at hstep
    exact ⟨hawake, hcode, hstep⟩
  case carrying =>
    have hawake : carrying.isIdle = false := by decide +kernel
    have hcode : (carrying.bus.read carrying.cpu.pc).toNat = 0x03 := by decide +kernel
    have hword : carrying.word .bc + 1 = 0x1300 := by decide +kernel
    have hstep := (keepsToWordFields_of_awake hawake).increment 0 hcode
    rw [show Register16.ofField 0 = .bc from rfl, hword] at hstep
    exact ⟨hawake, hcode, hstep⟩

end Handheld.Machine
