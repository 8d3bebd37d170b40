import Handheld.Proofs.Alu.Chains

/-!
# Decimal arithmetic

A byte in packed form holds two decimal digits.  The operations on bytes know nothing of them:
a sum of two packed bytes has to be adjusted wherever a digit went past nine, and a difference
wherever one was borrowed for.  The flags of the operation and the byte that it left tell where
this was, and the adjustment also proposes the decimal carry.  So an adjusted sum and an
adjusted difference are exact (`exact_addDecimal`, `exact_subDecimal`), and chains of them
compute with decimal numbers of any length.
-/

namespace Handheld.Alu

/-! ## Packed bytes -/

/-- Both halves of the byte are decimal digits. -/
def IsPacked (a : Byte) : Prop :=
  a.toNat / 16 ≤ 9 ∧ a.toNat % 16 ≤ 9

instance (a : Byte) : Decidable (IsPacked a) :=
  inferInstanceAs (Decidable (_ ∧ _))

/-- The number of two digits that a packed byte holds. -/
def decimal (a : Byte) : Nat :=
  a.toNat / 16 * 10 + a.toNat % 16

/-- Adds two packed bytes and adjusts the sum. -/
def addDecimal (a b : Byte) (carry : Bool) : AluResult :=
  let sum := add a b carry
  daa sum.value false sum.flags.h sum.flags.c

/-- Subtracts a packed byte from another one and adjusts the difference. -/
def subDecimal (a b : Byte) (borrow : Bool) : AluResult :=
  let difference := sub a b borrow
  daa difference.value true difference.flags.h difference.flags.c

/-! ## The adjustment -/

theorem toNat_daa_sum (a : Byte) (h c : Bool) :
    (daa a false h c).value.toNat =
      (a.toNat + 6 * (h || decide (9 < a.toNat % 16)).toNat +
        96 * (c || decide (0x99 < a.toNat)).toNat) % 256 := by
  simp only [daa, Bool.not_false, Bool.true_and]
  generalize (h || decide (9 < a.toNat % 16)) = units
  generalize (c || decide (0x99 < a.toNat)) = tens
  cases units <;> cases tens <;> simp [UInt8.toNat_add]

theorem toNat_daa_difference (a : Byte) (h c : Bool) :
    (daa a true h c).value.toNat = (a.toNat + 256 - 6 * h.toNat - 96 * c.toNat) % 256 := by
  have ha := a.toNat_lt
  simp only [daa, Bool.not_true, Bool.false_and, Bool.or_false]
  cases h <;> cases c <;> simp [UInt8.toNat_sub] <;> omega

/-! ## One byte -/

/-- What a decision counts for, as a number. -/
theorem toNat_decide_cases (p : Prop) [Decidable p] :
    p ∧ (decide p).toNat = 1 ∨ ¬ p ∧ (decide p).toNat = 0 := by
  by_cases h : p
  · exact .inl ⟨h, by rw [decide_eq_true h, Bool.toNat_true]⟩
  · exact .inr ⟨h, by rw [decide_eq_false h, Bool.toNat_false]⟩

section Byte

variable {a b : Byte} (ha : IsPacked a) (hb : IsPacked b) (carry : Bool)
include ha hb

/-- The lower digit of a sum is adjusted if and only if the lower digits add up to more than
nine. -/
theorem units_of_sum :
    ((add a b carry).flags.h || decide (9 < (add a b carry).value.toNat % 16)) =
      decide (9 < a.toNat % 16 + b.toNat % 16 + carry.toNat) := by
  have hsum := toNat_add a b carry
  have hcarry := carry.toNat_le
  unfold IsPacked at ha hb
  show (decide (15 < a.toNat % 16 + b.toNat % 16 + carry.toNat) || _) = _
  rw [← Bool.decide_or, decide_eq_decide]
  omega

/-- The upper digit of a sum is adjusted if and only if the sum has a third digit. -/
theorem tens_of_sum :
    ((add a b carry).flags.c || decide (0x99 < (add a b carry).value.toNat)) =
      decide (99 < decimal a + decimal b + carry.toNat) := by
  have hsum : (add a b carry).value.toNat = (a.toNat + b.toNat + carry.toNat) % 256 :=
    UInt8.toNat_ofNat'
  have hcarry := carry.toNat_le
  unfold IsPacked at ha hb
  show (decide (255 < a.toNat + b.toNat + carry.toNat) || _) = _
  rw [hsum, ← Bool.decide_or, decide_eq_decide, decimal, decimal]
  omega

/-- An adjusted sum of packed bytes is packed, and exact if the carry stands for 100. -/
theorem exact_addDecimal :
    IsPacked (addDecimal a b carry).value ∧
      decimal (addDecimal a b carry).value + (addDecimal a b carry).flags.c.toNat * 100 =
        decimal a + decimal b + carry.toNat := by
  have hsum := toNat_add a b carry
  have hadjusted : (addDecimal a b carry).value.toNat = _ := toNat_daa_sum _ _ _
  rw [units_of_sum ha hb, tens_of_sum ha hb] at hadjusted
  have hlast : (addDecimal a b carry).flags.c = _ := tens_of_sum ha hb carry
  have hunits := toNat_decide_cases (9 < a.toNat % 16 + b.toNat % 16 + carry.toNat)
  have htens := toNat_decide_cases (99 < decimal a + decimal b + carry.toNat)
  have hcarry := carry.toNat_le
  -- Whatever is adjusted, value and carry are linear in the four digits now.
  rw [hlast]
  unfold IsPacked decimal at *
  omega

/-- The borrow of a difference of packed bytes is that of the decimal numbers. -/
theorem borrow_of_difference :
    (sub a b carry).flags.c = decide (decimal a < decimal b + carry.toNat) := by
  have hcarry := carry.toNat_le
  unfold IsPacked at ha hb
  show decide (a.toNat < b.toNat + carry.toNat) = _
  rw [decide_eq_decide, decimal, decimal]
  omega

/-- An adjusted difference of packed bytes is packed, and exact if the borrow stands for 100. -/
theorem exact_subDecimal :
    IsPacked (subDecimal a b carry).value ∧
      (decimal (subDecimal a b carry).value : Int) -
          (subDecimal a b carry).flags.c.toNat * 100 =
        decimal a - decimal b - carry.toNat := by
  have hdifference := toNat_sub a b carry
  have hadjusted : (subDecimal a b carry).value.toNat = _ := toNat_daa_difference _ _ _
  -- After a difference only the flags decide, so the carry passes through the adjustment.
  have hlast : (subDecimal a b carry).flags.c = (sub a b carry).flags.c := Bool.or_false _
  have hhalf : (sub a b carry).flags.h =
      decide (a.toNat % 16 < b.toNat % 16 + carry.toNat) := rfl
  rw [hhalf] at hadjusted
  rw [borrow_of_difference ha hb] at hadjusted hdifference hlast
  have hunits := toNat_decide_cases (a.toNat % 16 < b.toNat % 16 + carry.toNat)
  have htens := toNat_decide_cases (decimal a < decimal b + carry.toNat)
  have hcarry := carry.toNat_le
  rw [hlast]
  unfold IsPacked decimal at *
  omega

end Byte

/-! ## The law -/

/-- Let two decimal numbers of `n` packed bytes be given, the least significant byte first.  The
chain of adjusted sums yields packed bytes, and they stand for the sum of the numbers and the
first carry, with the last carry standing for `100 ^ n`.  The chain of adjusted differences
yields packed bytes too, and they stand for the difference less so much. -/
theorem chains_compute_decimal_numbers {as bs : List Byte} (hlength : as.length = bs.length)
    (has : ∀ a ∈ as, IsPacked a) (hbs : ∀ b ∈ bs, IsPacked b) (carry : Bool) :
    (let (rs, last) := chain₂ addDecimal as bs carry
     rs.length = as.length ∧ (∀ r ∈ rs, IsPacked r) ∧
      number 100 decimal rs + last.toNat * 100 ^ as.length =
        number 100 decimal as + number 100 decimal bs + carry.toNat) ∧
    (let (rs, last) := chain₂ subDecimal as bs carry
     rs.length = as.length ∧ (∀ r ∈ rs, IsPacked r) ∧
      (number 100 decimal rs : Int) - last.toNat * 100 ^ as.length =
        number 100 decimal as - number 100 decimal bs - carry.toNat) := by
  refine ⟨⟨length_chain₂ hlength carry, ?_, ?_⟩, length_chain₂ hlength carry, ?_, ?_⟩
  · exact forall_mem_chain₂
      (fun a ha b hb carry => (exact_addDecimal (has a ha) (hbs b hb) carry).1) carry
  · exact number_chain₂_of_sum hlength
      (fun a ha b hb carry => (exact_addDecimal (has a ha) (hbs b hb) carry).2) carry
  · exact forall_mem_chain₂
      (fun a ha b hb carry => (exact_subDecimal (has a ha) (hbs b hb) carry).1) carry
  · exact number_chain₂_of_difference hlength
      (fun a ha b hb carry => (exact_subDecimal (has a ha) (hbs b hb) carry).2) carry

/-- 4599 and 5401 add up to 10000, and the second one is 802 more than the first one. -/
theorem four_digits_compute_decimal_numbers :
    [(0x99 : Byte), 0x45].length = [(0x01 : Byte), 0x54].length ∧
      (∀ a ∈ [(0x99 : Byte), 0x45], IsPacked a) ∧ (∀ b ∈ [(0x01 : Byte), 0x54], IsPacked b) ∧
      (chain₂ addDecimal [0x99, 0x45] [0x01, 0x54] false = ([0x00, 0x00], true) ∧
        number 100 decimal [0x00, 0x00] + 1 * 100 ^ 2 =
          number 100 decimal [0x99, 0x45] + number 100 decimal [0x01, 0x54] + 0) ∧
      chain₂ subDecimal [0x99, 0x45] [0x01, 0x54] false = ([0x98, 0x91], true) ∧
        (number 100 decimal [0x98, 0x91] : Int) - 1 * 100 ^ 2 =
          number 100 decimal [0x99, 0x45] - number 100 decimal [0x01, 0x54] - 0 := by
  have hlength : [(0x99 : Byte), 0x45].length = [(0x01 : Byte), 0x54].length := rfl
  have has : ∀ a ∈ [(0x99 : Byte), 0x45], IsPacked a := by
    rw [List.forall_mem_cons, List.forall_mem_singleton]
    decide
  have hbs : ∀ b ∈ [(0x01 : Byte), 0x54], IsPacked b := by
    rw [List.forall_mem_cons, List.forall_mem_singleton]
    decide
  obtain ⟨⟨-, -, hsum⟩, -, -, hdifference⟩ := chains_compute_decimal_numbers hlength has hbs false
  exact ⟨hlength, has, hbs, ⟨by decide, hsum⟩, by decide, hdifference⟩

end Handheld.Alu
