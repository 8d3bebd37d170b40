import Mathlib.Data.Nat.Bitwise
import Handheld.Interrupt

/-!
# Pending interrupts and the master switch

`Pending` says which interrupt is to be accepted without a search: the most urgent of
those that are both enabled and requested, while the master switch is on.  The search
finds it (`pending?_eq_some_iff`).  To make a request and to accept it each change its one
bit, so the active sources, in the order of their bits, lose the first one when it is accepted
(`activeSources_accept`).  The master switch and its delay change only together, so they are
looked at as a pair, and so are the two bytes that are apart from them.
-/

namespace Handheld

namespace Interrupt

/-- The list of all sources is in the order of their bits. -/
theorem bit_getElem_all (n : Nat) (h : n < all.length) : all[n].bit = n := by
  match n, h with
  | 0, _ | 1, _ | 2, _ | 3, _ | 4, _ => rfl

theorem bit_lt_length_all (k : Interrupt) : k.bit < all.length := by
  cases k <;> decide

theorem getElem_all_bit (k : Interrupt) (h : k.bit < all.length) : all[k.bit] = k := by
  cases k <;> rfl

theorem eq_of_bit_eq {j k : Interrupt} (h : j.bit = k.bit) : j = k := by
  have hj := bit_lt_length_all j
  have hk := bit_lt_length_all k
  calc
    j = all[j.bit] := (getElem_all_bit j hj).symm
    _ = all[k.bit] := by simp only [h]
    _ = k := getElem_all_bit k hk

/-- A search finds the first source in the order of the bits. -/
theorem find?_all_eq_some_iff {p : Interrupt → Bool} {k : Interrupt} :
    all.find? p = some k ↔ p k = true ∧ ∀ j : Interrupt, j.bit < k.bit → p j = false := by
  rw [List.find?_eq_some_iff_getElem]
  refine and_congr_right fun _ => ?_
  constructor
  · rintro ⟨n, hn, rfl, hbefore⟩ j hj
    rw [bit_getElem_all] at hj
    have hnot := hbefore j.bit hj
    rw [getElem_all_bit] at hnot
    simpa using hnot
  · intro hbefore
    refine ⟨k.bit, bit_lt_length_all k, getElem_all_bit k _, fun n hn => ?_⟩
    have hlt : n < all.length := Nat.lt_trans hn (bit_lt_length_all k)
    have hfalse := hbefore all[n] (by rwa [bit_getElem_all n hlt])
    simpa using hfalse

end Interrupt

namespace InterruptController

variable {ic : InterruptController} {k : Interrupt}

/-! ## The pending interrupt -/

/-- The source is enabled and has asked to interrupt. -/
def IsActive (ic : InterruptController) (k : Interrupt) : Prop :=
  ic.enable.toNat.testBit k.bit = true ∧ ic.requests.toNat.testBit k.bit = true

/-- The interrupt is to be accepted. -/
structure Pending (ic : InterruptController) (k : Interrupt) : Prop where
  master : ic.master = true
  active : ic.IsActive k
  /-- No source goes before it. -/
  first : ∀ j : Interrupt, j.bit < k.bit → ¬ ic.IsActive j

theorem active_and_mask_ne_zero_iff (ic : InterruptController) (k : Interrupt) :
    ic.active &&& k.mask ≠ 0 ↔ ic.IsActive k := by
  have hsource : (31 : Nat).testBit k.bit = true := by cases k <;> rfl
  have hvalue : (ic.active &&& k.mask).toNat =
      (ic.enable.toNat.testBit k.bit && ic.requests.toNat.testBit k.bit).toNat * 2 ^ k.bit := by
    rw [UInt8.toNat_and, Interrupt.toNat_mask, Nat.one_shiftLeft, Nat.and_two_pow]
    simp [active, sourceMask, hsource]
  rw [Ne, ← UInt8.toNat_inj, hvalue, IsActive]
  simp

theorem pending?_eq_some_iff : ic.pending? = some k ↔ ic.Pending k := by
  have hsearch : ic.mostUrgent? = some k ↔
      ic.IsActive k ∧ ∀ j : Interrupt, j.bit < k.bit → ¬ ic.IsActive j := by
    rw [mostUrgent?, Interrupt.find?_all_eq_some_iff]
    simp only [bne_iff_ne, bne_eq_false_iff_eq, ← active_and_mask_ne_zero_iff, Ne, not_not]
  unfold pending?
  split
  next hmaster =>
    rw [hsearch]
    exact ⟨fun ⟨hactive, hfirst⟩ => ⟨hmaster, hactive, hfirst⟩,
      fun h => ⟨h.active, h.first⟩⟩
  next hmaster =>
    constructor
    · intro h
      cases h
    · intro h
      exact absurd h.master hmaster

/-- A byte that is not zero in the bits of the sources has one of their bits. -/
theorem exists_mask_of_ne_zero (v : Byte) (h : v &&& sourceMask ≠ 0) :
    ∃ k : Interrupt, v &&& sourceMask &&& k.mask ≠ 0 := by
  have hbytes : ∀ v : Byte, v &&& sourceMask ≠ 0 →
      (Interrupt.all.any fun k => v &&& sourceMask &&& k.mask != 0) = true :=
    Byte.forall_of_fin (by decide +kernel)
  obtain ⟨k, -, hk⟩ := List.any_eq_true.mp (hbytes v h)
  exact ⟨k, bne_iff_ne.mp hk⟩

theorem exists_pending_iff :
    (∃ k, ic.Pending k) ↔
      ic.master = true ∧ ic.enable &&& ic.requests &&& sourceMask ≠ 0 := by
  constructor
  · rintro ⟨k, hmaster, hactive, -⟩
    refine ⟨hmaster, fun hzero => ?_⟩
    rw [← active_and_mask_ne_zero_iff, active, hzero] at hactive
    exact hactive UInt8.zero_and
  · rintro ⟨hmaster, hne⟩
    obtain ⟨k, hk⟩ := exists_mask_of_ne_zero _ hne
    have hfound : ic.pending?.isSome = true := by
      rw [pending?, if_pos hmaster, mostUrgent?, List.find?_isSome]
      exact ⟨k, Interrupt.mem_all k, bne_iff_ne.mpr hk⟩
    obtain ⟨j, hj⟩ := Option.isSome_iff_exists.mp hfound
    exact ⟨j, pending?_eq_some_iff.mp hj⟩

/-- A sleeping processor wakes for any source that is enabled and has asked to interrupt. -/
theorem wakes_iff : ic.wakes = true ↔ ∃ k, ic.IsActive k := by
  rw [wakes, bne_iff_ne]
  constructor
  · intro hne
    obtain ⟨k, hk⟩ := exists_mask_of_ne_zero (ic.enable &&& ic.requests) hne
    exact ⟨k, (active_and_mask_ne_zero_iff ic k).mp hk⟩
  · rintro ⟨k, hk⟩ hzero
    rw [← active_and_mask_ne_zero_iff, hzero] at hk
    exact hk UInt8.zero_and

theorem pending?_of_master_off (h : ic.master = false) : ic.pending? = none := by
  simp [pending?, h]

/-! ## Single requests -/

theorem testBit_mask (k : Interrupt) (n : Nat) :
    k.mask.toNat.testBit n = decide (k.bit = n) := by
  rw [Interrupt.toNat_mask, Nat.one_shiftLeft, Nat.testBit_two_pow]

theorem testBit_not_mask (k : Interrupt) (n : Nat) :
    (~~~k.mask).toNat.testBit n = (decide (n < 8) && !decide (k.bit = n)) := by
  have hcomplement : UInt8.size - 1 - k.mask.toNat = UInt8.size - (k.mask.toNat + 1) := by
    rw [Nat.sub_sub, Nat.add_comm]
  rw [UInt8.toNat_not, hcomplement, ← testBit_mask]
  exact Nat.testBit_two_pow_sub_succ k.mask.toNat_lt n

/-- A request adds its own bit. -/
theorem testBit_request (ic : InterruptController) (k : Interrupt) (n : Nat) :
    (ic.request k).requests.toNat.testBit n =
      (ic.requests.toNat.testBit n || decide (k.bit = n)) := by
  rw [request, UInt8.toNat_or, Nat.testBit_or, testBit_mask]

/-- Accepting an interrupt takes its own bit away. -/
theorem testBit_accept (ic : InterruptController) (k : Interrupt) (n : Nat) :
    (ic.accept k).requests.toNat.testBit n =
      (ic.requests.toNat.testBit n && !decide (k.bit = n)) := by
  rw [accept, UInt8.toNat_and, Nat.testBit_and, testBit_not_mask]
  by_cases hn : n < 8
  · simp [hn]
  · have hle : 2 ^ 8 ≤ 2 ^ n := Nat.pow_le_pow_right (by decide) (Nat.not_lt.mp hn)
    have hclear : ic.requests.toNat.testBit n = false :=
      Nat.testBit_lt_two_pow (Nat.lt_of_lt_of_le ic.requests.toNat_lt hle)
    rw [hclear, Bool.false_and, Bool.false_and]

/-! ## The active sources in their order -/

/-- The sources that are enabled and have asked to interrupt, the most urgent first. -/
def activeSources (ic : InterruptController) : List Interrupt :=
  Interrupt.all.filter fun k => ic.active &&& k.mask != 0

theorem mem_activeSources_iff : k ∈ ic.activeSources ↔ ic.IsActive k := by
  rw [activeSources, List.mem_filter, bne_iff_ne, active_and_mask_ne_zero_iff]
  exact and_iff_right (Interrupt.mem_all k)

theorem pairwise_activeSources (ic : InterruptController) :
    ic.activeSources.Pairwise fun j k => j.bit < k.bit := by
  have hall : Interrupt.all.Pairwise fun j k => j.bit < k.bit := by decide
  exact hall.filter _

theorem pending?_of_activeSources {rest : List Interrupt} (hmaster : ic.master = true)
    (h : ic.activeSources = k :: rest) : ic.pending? = some k := by
  rw [pending?, if_pos hmaster, mostUrgent?, ← List.head?_filter]
  show ic.activeSources.head? = some k
  rw [h]
  rfl

theorem isActive_accept_iff {j : Interrupt} :
    (ic.accept k).IsActive j ↔ ic.IsActive j ∧ j ≠ k := by
  have hbit : j ≠ k ↔ ¬ k.bit = j.bit := by
    rw [Ne, eq_comm]
    exact not_congr ⟨congrArg Interrupt.bit, Interrupt.eq_of_bit_eq⟩
  rw [IsActive, IsActive, testBit_accept, Bool.and_eq_true, Bool.not_eq_true',
    decide_eq_false_iff_not, hbit, and_assoc]
  rfl

theorem isActive_turnOn_iff {j : Interrupt} : ic.turnOn.IsActive j ↔ ic.IsActive j :=
  Iff.rfl

theorem activeSources_turnOn (ic : InterruptController) :
    ic.turnOn.activeSources = ic.activeSources := rfl

/-- The others remain active when the most urgent source is accepted. -/
theorem activeSources_accept {rest : List Interrupt} (h : ic.activeSources = k :: rest) :
    (ic.accept k).activeSources = rest := by
  have hothers : ∀ j ∈ rest, j ≠ k := by
    have hpairwise := ic.pairwise_activeSources
    rw [h, List.pairwise_cons] at hpairwise
    rintro j hj rfl
    exact Nat.lt_irrefl _ (hpairwise.1 j hj)
  calc
    (ic.accept k).activeSources = ic.activeSources.filter fun j => decide (j ≠ k) := by
      rw [activeSources, activeSources, List.filter_filter]
      refine List.filter_congr fun j _ => ?_
      rw [Bool.eq_iff_iff, Bool.and_eq_true, bne_iff_ne, bne_iff_ne, decide_eq_true_eq,
        active_and_mask_ne_zero_iff, active_and_mask_ne_zero_iff, isActive_accept_iff, and_comm]
    _ = rest := by
      rw [h, List.filter_cons_of_neg (by simp), List.filter_eq_self]
      intro j hj
      exact decide_eq_true (hothers j hj)

/-! ## The master switch, and what is apart from it -/

/-- The master switch with the delay of an armed one. -/
def switch (ic : InterruptController) : Bool × Option Nat :=
  (ic.master, ic.delay?)

/-- The enabled sources with the requests, which is all that the bus reaches. -/
def bytes (ic : InterruptController) : Byte × Byte :=
  (ic.enable, ic.requests)

theorem bytes_finishInstruction (ic : InterruptController) :
    ic.finishInstruction.bytes = ic.bytes := by
  unfold finishInstruction
  split
  · rfl
  · split <;> rfl

/-- What becomes of the switch depends on the switch alone. -/
theorem switch_finishInstruction_congr {ic ic' : InterruptController}
    (h : ic.switch = ic'.switch) :
    ic.finishInstruction.switch = ic'.finishInstruction.switch := by
  obtain ⟨hmaster, hdelay⟩ := Prod.mk.inj h
  unfold finishInstruction
  rw [hdelay]
  split
  · exact Prod.ext hmaster hdelay
  · split
    · rfl
    · exact Prod.ext hmaster rfl

theorem switch_arm_congr {ic ic' : InterruptController} (h : ic.switch = ic'.switch) :
    ic.arm.switch = ic'.arm.switch := by
  obtain ⟨hmaster, hdelay⟩ := Prod.mk.inj h
  unfold arm
  rw [hmaster]
  split
  · exact h
  · rfl

end InterruptController

end Handheld
