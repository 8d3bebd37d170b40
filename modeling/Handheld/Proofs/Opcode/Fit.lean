import Handheld.Fault

/-!
# Operand lists that fit their operation

A handler expects certain operands of its opcode: a first or a last one, a byte or a
word in it, a place that takes what is written.  `Opcode.fits` says for each mnemonic
what its handler expects.  Every entry of the two tables fits (`fits_of_lookup?`), and
its times are multiples of four between 4 and 24 (`ticks_of_lookup?`).
-/

namespace Handheld

/-! ## What an operand holds and takes -/

/-- The size of a value. -/
inductive Width where
  | byte
  | word
  deriving DecidableEq

def OperandValue.width : OperandValue → Width
  | byte _ => .byte
  | word _ => .word

namespace Operand

/-- The size of the value that an operand stands for, if it stands for one. -/
def width? : Operand → Option Width
  | register16 _ | immediate16 | vector _ => some .word
  | stackPointerOffset | condition _ => none
  | _ => some .byte

/-- Whether the operand is a place for a value of the size. -/
def takes : Operand → Width → Bool
  | register8 _, .byte => true
  | register16 _, .word => true
  | absolute, _ => true
  | highPage, .byte => true
  | highPageRegister _, .byte => true
  | indirect _, .byte => true
  | indirectDecrement _, .byte => true
  | indirectIncrement _, .byte => true
  | _, _ => false

/-- A place that a byte can be read from and written back to. -/
def isByteCell (operand : Operand) : Bool :=
  operand.width? == some .byte && operand.takes .byte

/-- Whether what one operand stands for can be written to the other. -/
def copiesTo (source target : Operand) : Bool :=
  source.width?.any target.takes

def isWordRegister : Operand → Bool
  | register16 _ => true
  | _ => false

def isBit : Operand → Bool
  | bit _ => true
  | _ => false

theorem takes_of_copiesTo {source target : Operand} (h : source.copiesTo target = true) :
    ∃ width, source.width? = some width ∧ target.takes width = true :=
  (Option.any_eq_true _ _).mp h

theorem eq_of_isWordRegister {operand : Operand} (h : operand.isWordRegister = true) :
    ∃ r, operand = .register16 r := by
  cases operand with
  | register16 r => exact ⟨r, rfl⟩
  | _ => cases h

theorem eq_of_isBit {operand : Operand} (h : operand.isBit = true) :
    ∃ index, operand = .bit index := by
  cases operand with
  | bit index => exact ⟨index, rfl⟩
  | _ => cases h

theorem width?_of_isByteCell {operand : Operand} (h : operand.isByteCell = true) :
    operand.width? = some .byte := by
  simp only [isByteCell, Bool.and_eq_true, beq_iff_eq] at h
  exact h.1

theorem takes_of_isByteCell {operand : Operand} (h : operand.isByteCell = true) :
    operand.takes .byte = true := by
  simp only [isByteCell, Bool.and_eq_true] at h
  exact h.2

end Operand

namespace Opcode

/-! ## What a handler expects -/

/-- Whether there is a first operand, and it is of the given kind. -/
def firstIs (op : Opcode) (p : Operand → Bool) : Bool :=
  op.operands.head?.any p

/-- Whether there is a last operand, and it is of the given kind. -/
def lastIs (op : Opcode) (p : Operand → Bool) : Bool :=
  op.operands.getLast?.any p

/-- Whether the handler of the mnemonic can work on the operands. -/
def fits (op : Opcode) : Bool :=
  match op.mnemonic with
  | .ld | .ldh =>
    op.operands.length == 3 ||
      op.firstIs fun target => op.lastIs fun source => source.copiesTo target
  | .push | .rst => op.firstIs (·.width?.isSome)
  | .pop => op.firstIs (·.takes .word)
  | .inc | .dec => op.firstIs fun target => target.isWordRegister || target.isByteCell
  | .add =>
    op.firstIs fun target =>
      target == .register16 .sp ||
        op.lastIs fun source =>
          if target = .register16 .hl then source.width?.isSome else source.width? == some .byte
  | .adc | .sub | .sbc | .and | .or | .xor | .cp => op.lastIs (·.width? == some .byte)
  | .rlc | .rrc | .rl | .rr | .sla | .sra | .swap | .srl => op.firstIs Operand.isByteCell
  | .bit => op.firstIs Operand.isBit && op.lastIs (·.width? == some .byte)
  | .res | .set => op.firstIs Operand.isBit && op.lastIs Operand.isByteCell
  | .jp => op.lastIs (·.width?.isSome)
  | _ => true

theorem firstOperand_of_firstIs {op : Opcode} {p : Operand → Bool}
    (h : op.firstIs p = true) :
    ∃ operand, op.firstOperand = .ok operand ∧ p operand = true := by
  unfold firstIs at h
  unfold firstOperand
  cases hoperands : op.operands with
  | nil => simp [hoperands] at h
  | cons operand rest => exact ⟨operand, rfl, by simpa [hoperands] using h⟩

theorem lastOperand_of_lastIs {op : Opcode} {p : Operand → Bool}
    (h : op.lastIs p = true) :
    ∃ operand, op.lastOperand = .ok operand ∧ p operand = true := by
  unfold lastIs at h
  unfold lastOperand
  cases hlast : op.operands.getLast? with
  | none => simp [hlast] at h
  | some operand => exact ⟨operand, rfl, by simpa [hlast] using h⟩

/-! ## The tables -/

/-- What holds in all places of the two tables holds of every entry that is found. -/
theorem of_lookup? {p : OpcodePage → Byte → Opcode → Bool}
    (hbase : ∀ n : Fin 256,
      (lookup? .base (UInt8.ofNat n.val)).all (p .base (UInt8.ofNat n.val)) = true)
    (hextended : ∀ n : Fin 256,
      (lookup? .extended (UInt8.ofNat n.val)).all (p .extended (UInt8.ofNat n.val)) = true)
    {page : OpcodePage} {code : Byte} {op : Opcode} (h : lookup? page code = some op) :
    p page code op = true := by
  have hplaces : ∀ code : Byte, (lookup? page code).all (p page code) = true := by
    cases page with
    | base => exact Byte.forall_of_fin hbase
    | extended => exact Byte.forall_of_fin hextended
  simpa only [h, Option.all_some] using hplaces code

/-- Every entry of a table gives its handler operands that it can work on. -/
theorem fits_of_lookup? {page : OpcodePage} {code : Byte} {op : Opcode}
    (h : lookup? page code = some op) : op.fits = true :=
  of_lookup? (p := fun _ _ op => op.fits) (by decide +kernel) (by decide +kernel) h

/-- A time that an operation may take. -/
def isPossibleTime (ticks : Nat) : Bool :=
  ticks % 4 == 0 && decide (4 ≤ ticks) && decide (ticks ≤ 24)

theorem ticks_of_lookup? {page : OpcodePage} {code : Byte} {op : Opcode}
    (h : lookup? page code = some op) {ticks : Nat} (hticks : ticks ∈ op.timing.toList) :
    4 ∣ ticks ∧ 4 ≤ ticks ∧ ticks ≤ 24 := by
  have hall : op.timing.toList.all isPossibleTime = true :=
    of_lookup? (p := fun _ _ op => op.timing.toList.all isPossibleTime)
      (by decide +kernel) (by decide +kernel) h
  have htime := List.all_eq_true.mp hall ticks hticks
  simp only [isPossibleTime, Bool.and_eq_true, beq_iff_eq, decide_eq_true_eq] at htime
  exact ⟨Nat.dvd_of_mod_eq_zero htime.1.1, htime.1.2, htime.2⟩

/-- The code of DI. -/
def diCode : Byte := 0xF3

/-- The code of EI. -/
def eiCode : Byte := 0xFB

/-- The code of RETI. -/
def retiCode : Byte := 0xD9

/-- DI, EI and RETI have one code each, on the base page. -/
theorem mnemonic_of_lookup? {page : OpcodePage} {code : Byte} {op : Opcode}
    (h : lookup? page code = some op) :
    (op.mnemonic = .di ↔ page = .base ∧ code = diCode) ∧
      (op.mnemonic = .ei ↔ page = .base ∧ code = eiCode) ∧
      (op.mnemonic = .reti ↔ page = .base ∧ code = retiCode) := by
  have hcodes := of_lookup?
    (p := fun page code op =>
      decide (op.mnemonic = .di ↔ page = .base ∧ code = diCode) &&
        (decide (op.mnemonic = .ei ↔ page = .base ∧ code = eiCode) &&
          decide (op.mnemonic = .reti ↔ page = .base ∧ code = retiCode)))
    (by decide +kernel) (by decide +kernel) h
  simpa only [Bool.and_eq_true, decide_eq_true_eq] using hcodes

end Opcode

end Handheld
