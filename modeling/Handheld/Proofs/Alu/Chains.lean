import Mathlib.Data.Nat.Digits.Defs
import Mathlib.Tactic.LinearCombination
import Handheld.Proofs.Alu.Operations

/-!
# Chains of operations

Numbers of more than one byte are worked on place by place, and the carry that an operation
proposes goes into the same operation at the next place.  Going up from the least significant
byte, a chain is as exact as the operation is at one place: if the carry out of a place stands
for the base there, then the last carry stands for what the place after the last one would be
worth (`number_chain`).  This is shown once, for every base and every way to read bytes as
digits, for sums as well as for differences (`number_chain₂_of_sum` and
`number_chain₂_of_difference`).  Going down from the most significant byte there is no such law
for all operations; what a chain does there starts from `number_reverse_cons`.
-/

namespace Handheld.Alu

/-! ## Carrying on -/

section Chain

variable {ι : Type} {op : ι → Bool → AluResult} {places : List ι}

/-- Performs an operation at one place after the other, the carry of each going into the next.
Yields the values in their order, and the carry of the last place. -/
def chain (op : ι → Bool → AluResult) : List ι → Bool → List Byte × Bool
  | [], carry => ([], carry)
  | place :: places, carry =>
    let r := op place carry
    let later := chain op places r.flags.c
    (r.value :: later.1, later.2)

@[simp] theorem length_chain (places : List ι) (carry : Bool) :
    (chain op places carry).1.length = places.length := by
  induction places generalizing carry with
  | nil => rfl
  | cons place places ih => rw [chain, List.length_cons, ih, List.length_cons]

theorem forall_mem_chain {p : Byte → Prop}
    (hop : ∀ place ∈ places, ∀ carry, p (op place carry).value) (carry : Bool) :
    ∀ v ∈ (chain op places carry).1, p v := by
  induction places generalizing carry with
  | nil => nofun
  | cons place places ih =>
    rw [List.forall_mem_cons] at hop
    rw [chain, List.forall_mem_cons]
    exact ⟨hop.1 carry, ih hop.2 _⟩

end Chain

/-- A chain over the places of two operands. -/
def chain₂ (op : Byte → Byte → Bool → AluResult) (as bs : List Byte) : Bool → List Byte × Bool :=
  chain (Function.uncurry op) (as.zip bs)

theorem forall_mem_chain₂ {op : Byte → Byte → Bool → AluResult} {as bs : List Byte}
    {p : Byte → Prop} (hop : ∀ a ∈ as, ∀ b ∈ bs, ∀ carry, p (op a b carry).value)
    (carry : Bool) : ∀ v ∈ (chain₂ op as bs carry).1, p v :=
  forall_mem_chain
    (fun _ hplace => hop _ (List.of_mem_zip hplace).1 _ (List.of_mem_zip hplace).2) carry

/-! ## Numbers of many bytes -/

/-- The number that bytes stand for as digits, the least significant one first. -/
def number (base : Nat) (digit : Byte → Nat) (bytes : List Byte) : Nat :=
  Nat.ofDigits base (bytes.map digit)

section Number

variable {base : Nat} {digit : Byte → Nat}

@[simp] theorem number_nil : number base digit [] = 0 := rfl

@[simp] theorem number_cons (a : Byte) (as : List Byte) :
    number base digit (a :: as) = digit a + base * number base digit as :=
  Nat.ofDigits_cons

theorem number_reverse_cons (a : Byte) (as : List Byte) :
    number base digit (a :: as).reverse =
      number base digit as.reverse + base ^ as.length * digit a := by
  rw [number, List.map_reverse, List.map_cons, Nat.ofDigits_reverse_cons, List.length_map,
    ← List.map_reverse]
  rfl

/-- Suppose that at every place the operation adds (`sign` is 1) or subtracts (it is -1) two
digits, and that its carry stands for the base.  Then the chain does so to the numbers that
have these digits. -/
theorem number_chain {ι : Type} {op : ι → Bool → AluResult} {places : List ι}
    (first second : ι → Byte) {sign : Int}
    (hop : ∀ place ∈ places, ∀ carry,
      (digit (op place carry).value : Int) + sign * ((op place carry).flags.c.toNat * base) =
        digit (first place) + sign * (digit (second place) + carry.toNat))
    (carry : Bool) :
    (number base digit (chain op places carry).1 : Int) +
        sign * ((chain op places carry).2.toNat * base ^ places.length) =
      number base digit (places.map first) +
        sign * (number base digit (places.map second) + carry.toNat) := by
  induction places generalizing carry with
  | nil => simp [chain]
  | cons place places ih =>
    rw [List.forall_mem_cons] at hop
    have hplace := hop.1 carry
    have hlater := ih hop.2 (op place carry).flags.c
    simp only [chain, List.map_cons, number_cons, List.length_cons, Nat.cast_add, Nat.cast_mul,
      pow_succ]
    linear_combination hplace + base * hlater

section Operands

variable {op : Byte → Byte → Bool → AluResult} {as bs : List Byte}
  (hlength : as.length = bs.length)
include hlength

theorem length_chain₂ (carry : Bool) : (chain₂ op as bs carry).1.length = as.length := by
  rw [chain₂, length_chain, List.length_zip, ← hlength, Nat.min_self]

theorem number_chain₂ {sign : Int}
    (hop : ∀ a ∈ as, ∀ b ∈ bs, ∀ carry,
      (digit (op a b carry).value : Int) + sign * ((op a b carry).flags.c.toNat * base) =
        digit a + sign * (digit b + carry.toNat))
    (carry : Bool) :
    (number base digit (chain₂ op as bs carry).1 : Int) +
        sign * ((chain₂ op as bs carry).2.toNat * base ^ as.length) =
      number base digit as + sign * (number base digit bs + carry.toNat) := by
  have hplaces : ∀ place ∈ as.zip bs, ∀ carry, _ :=
    fun _ hplace => hop _ (List.of_mem_zip hplace).1 _ (List.of_mem_zip hplace).2
  have hchain := number_chain Prod.fst Prod.snd hplaces carry
  rw [List.map_fst_zip hlength.le, List.map_snd_zip hlength.ge, List.length_zip, ← hlength,
    Nat.min_self] at hchain
  exact hchain

/-- A chain of an operation that adds digits adds numbers. -/
theorem number_chain₂_of_sum
    (hop : ∀ a ∈ as, ∀ b ∈ bs, ∀ carry,
      digit (op a b carry).value + (op a b carry).flags.c.toNat * base =
        digit a + digit b + carry.toNat)
    (carry : Bool) :
    number base digit (chain₂ op as bs carry).1 +
        (chain₂ op as bs carry).2.toNat * base ^ as.length =
      number base digit as + number base digit bs + carry.toNat := by
  have hadds : ∀ a ∈ as, ∀ b ∈ bs, ∀ carry,
      (digit (op a b carry).value : Int) + 1 * ((op a b carry).flags.c.toNat * base) =
        digit a + 1 * (digit b + carry.toNat) := by
    intro a ha b hb carry
    have hplace := hop a ha b hb carry
    zify at hplace
    linear_combination hplace
  have hchain := number_chain₂ hlength hadds carry
  zify
  linear_combination hchain

/-- A chain of an operation that subtracts digits subtracts numbers. -/
theorem number_chain₂_of_difference
    (hop : ∀ a ∈ as, ∀ b ∈ bs, ∀ carry,
      (digit (op a b carry).value : Int) - (op a b carry).flags.c.toNat * base =
        digit a - digit b - carry.toNat)
    (carry : Bool) :
    (number base digit (chain₂ op as bs carry).1 : Int) -
        (chain₂ op as bs carry).2.toNat * base ^ as.length =
      number base digit as - number base digit bs - carry.toNat := by
  have hsubtracts : ∀ a ∈ as, ∀ b ∈ bs, ∀ carry,
      (digit (op a b carry).value : Int) + -1 * ((op a b carry).flags.c.toNat * base) =
        digit a + -1 * (digit b + carry.toNat) := by
    intro a ha b hb carry
    linear_combination hop a ha b hb carry
  have hchain := number_chain₂ hlength hsubtracts carry
  linear_combination hchain

end Operands

end Number

end Handheld.Alu
