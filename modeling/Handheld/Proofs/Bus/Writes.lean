import Handheld.Machine.Basic
import Handheld.Proofs.Interrupt

/-!
# Sequences of writes

What an instruction does to the bus is a sequence of writes, each of which is reported
by an event that names its address.  No write touches the master switch or its delay
(`switch_writeAll`).  Only a write to the divider moves the counter of the timer, and the
requests and the enabled sources each change only by a write to their own address
(`writeAll_eq_of_write`).
-/

namespace Handheld

/-! ## Where the timer's addresses lead -/

namespace Timer.Register

/-- The address of the divider, a write to which clears the counter. -/
def dividerAddress : Word := divider.address

theorem address_of_at? {address : Word} {r : Register} (h : at? address = some r) :
    r.address = address := by
  unfold at? at h
  split at h
  next haddress =>
    obtain rfl := Option.some.inj h
    exact haddress.symm
  split at h
  next haddress =>
    obtain rfl := Option.some.inj h
    exact haddress.symm
  split at h
  next haddress =>
    obtain rfl := Option.some.inj h
    exact haddress.symm
  split at h
  next haddress =>
    obtain rfl := Option.some.inj h
    exact haddress.symm
  next => cases h

theorem address_mem_range (r : Register) : 0xFF04 ≤ r.address ∧ r.address ≤ 0xFF07 := by
  cases r <;> decide

/-- The addresses that lead to the timer are those of its registers. -/
theorem at?_of_le {address : Word} (hfirst : 0xFF04 ≤ address)
    (hlast : address ≤ 0xFF07) : ∃ r, at? address = some r := by
  have hlow : 0xFF04 ≤ address.toNat := UInt16.le_iff_toNat_le.mp hfirst
  have hhigh : address.toNat ≤ 0xFF07 := UInt16.le_iff_toNat_le.mp hlast
  have hcases : address.toNat = 0xFF04 ∨ address.toNat = 0xFF05 ∨ address.toNat = 0xFF06 ∨
      address.toNat = 0xFF07 := by omega
  rcases hcases with h | h | h | h
  · obtain rfl : address = 0xFF04 := UInt16.toNat_inj.mp h
    exact ⟨.divider, rfl⟩
  · obtain rfl : address = 0xFF05 := UInt16.toNat_inj.mp h
    exact ⟨.value, rfl⟩
  · obtain rfl : address = 0xFF06 := UInt16.toNat_inj.mp h
    exact ⟨.modulo, rfl⟩
  · obtain rfl : address = 0xFF07 := UInt16.toNat_inj.mp h
    exact ⟨.control, rfl⟩

end Timer.Register

namespace Bus.Region

/-- The address that alone leads to a region, if it is not a range. -/
def address? : Region → Option Word
  | timer r => some r.address
  | interruptRequests => some interruptRequestsAddress
  | interruptEnable => some interruptEnableAddress
  | serialControl => some serialControlAddress
  | cell | unusable => none

theorem eq_of_address? {address a : Word} (h : (ofAddress address).address? = some a) :
    a = address := by
  unfold ofAddress at h
  split at h
  · cases h
  split at h
  next haddress => exact (Option.some.inj h).symm.trans haddress.symm
  split at h
  next haddress => exact (Option.some.inj h).symm.trans haddress.symm
  split at h
  next haddress => exact (Option.some.inj h).symm.trans haddress.symm
  split at h
  next r hat => exact (Option.some.inj h).symm.trans (Timer.Register.address_of_at? hat)
  next => cases h

/-- A region with an address of its own is found at that address only. -/
theorem address_of_eq {address a : Word} {region : Region} (h : ofAddress address = region)
    (ha : region.address? = some a) : a = address :=
  eq_of_address? (h ▸ ha)

end Bus.Region

namespace Bus

/-! ## The interrupt controller and the counter -/

/-- Works on the interrupt controller alone. -/
def mapInterrupts (f : InterruptController → InterruptController) (bus : Bus) : Bus :=
  { bus with interrupts := f bus.interrupts }

@[simp] theorem mapInterrupts_id (bus : Bus) : bus.mapInterrupts id = bus := rfl

@[simp] theorem mapInterrupts_mapInterrupts (bus : Bus)
    (f g : InterruptController → InterruptController) :
    (bus.mapInterrupts f).mapInterrupts g = bus.mapInterrupts (g ∘ f) := rfl

@[simp] theorem interrupts_mapInterrupts (bus : Bus)
    (f : InterruptController → InterruptController) :
    (bus.mapInterrupts f).interrupts = f bus.interrupts := rfl

@[simp] theorem timer_mapInterrupts (bus : Bus)
    (f : InterruptController → InterruptController) :
    (bus.mapInterrupts f).timer = bus.timer := rfl

@[simp] theorem switch_write (bus : Bus) (address : Word) (v : Byte) :
    (bus.write address v).interrupts.switch = bus.interrupts.switch := by
  unfold write
  split
  case h_5 =>
    split <;> rfl
  all_goals rfl

theorem counter_write (bus : Bus) {address : Word} (v : Byte)
    (haddress : address ≠ Timer.Register.dividerAddress) :
    (bus.write address v).timer.counter = bus.timer.counter := by
  unfold write
  split
  case h_2 r hregion =>
    cases r with
    | divider => exact absurd (Region.address_of_eq hregion rfl).symm haddress
    | value => rfl
    | modulo => rfl
    | control => rfl
  case h_5 =>
    split <;> rfl
  all_goals rfl

theorem requests_write (bus : Bus) {address : Word} (v : Byte)
    (haddress : address ≠ interruptRequestsAddress) :
    (bus.write address v).interrupts.requests = bus.interrupts.requests := by
  unfold write
  split
  case h_3 hregion => exact absurd (Region.address_of_eq hregion rfl).symm haddress
  case h_5 =>
    split <;> rfl
  all_goals rfl

theorem enable_write (bus : Bus) {address : Word} (v : Byte)
    (haddress : address ≠ interruptEnableAddress) :
    (bus.write address v).interrupts.enable = bus.interrupts.enable := by
  unfold write
  split
  case h_4 hregion => exact absurd (Region.address_of_eq hregion rfl).symm haddress
  case h_5 =>
    split <;> rfl
  all_goals rfl

/-! ## Sequences -/

/-- Performs writes, the first one first. -/
def writeAll (bus : Bus) (writes : List (Word × Byte)) : Bus :=
  writes.foldl (fun bus (address, v) => bus.write address v) bus

@[simp] theorem writeAll_nil (bus : Bus) : bus.writeAll [] = bus := rfl

@[simp] theorem writeAll_cons (bus : Bus) (address : Word) (v : Byte)
    (writes : List (Word × Byte)) :
    bus.writeAll ((address, v) :: writes) = (bus.write address v).writeAll writes := rfl

theorem writeAll_append (bus : Bus) (writes later : List (Word × Byte)) :
    bus.writeAll (writes ++ later) = (bus.writeAll writes).writeAll later :=
  List.foldl_append

@[simp] theorem switch_writeAll (bus : Bus) (writes : List (Word × Byte)) :
    (bus.writeAll writes).interrupts.switch = bus.interrupts.switch := by
  induction writes generalizing bus with
  | nil => rfl
  | cons w writes ih =>
      rw [writeAll_cons, ih, switch_write]

/-- What only a write to one address changes. -/
theorem writeAll_eq_of_write {f : Bus → α} {a : Word}
    (hf : ∀ (bus : Bus) (address : Word) (v : Byte), address ≠ a →
      f (bus.write address v) = f bus)
    (bus : Bus) {writes : List (Word × Byte)} (hwrites : a ∉ writes.map Prod.fst) :
    f (bus.writeAll writes) = f bus := by
  induction writes generalizing bus with
  | nil => rfl
  | cons w writes ih =>
      rw [List.map_cons, List.mem_cons, not_or] at hwrites
      rw [writeAll_cons, ih _ hwrites.2, hf _ _ _ (Ne.symm hwrites.1)]

theorem counter_writeAll (bus : Bus) {writes : List (Word × Byte)}
    (hwrites : Timer.Register.dividerAddress ∉ writes.map Prod.fst) :
    (bus.writeAll writes).timer.counter = bus.timer.counter :=
  writeAll_eq_of_write (f := fun bus => bus.timer.counter)
    (fun bus _ v haddress => counter_write bus v haddress) bus hwrites

theorem requests_writeAll (bus : Bus) {writes : List (Word × Byte)}
    (hwrites : interruptRequestsAddress ∉ writes.map Prod.fst) :
    (bus.writeAll writes).interrupts.requests = bus.interrupts.requests :=
  writeAll_eq_of_write (f := fun bus => bus.interrupts.requests)
    (fun bus _ v haddress => requests_write bus v haddress) bus hwrites

theorem enable_writeAll (bus : Bus) {writes : List (Word × Byte)}
    (hwrites : interruptEnableAddress ∉ writes.map Prod.fst) :
    (bus.writeAll writes).interrupts.enable = bus.interrupts.enable :=
  writeAll_eq_of_write (f := fun bus => bus.interrupts.enable)
    (fun bus _ v haddress => enable_write bus v haddress) bus hwrites

end Bus

/-! ## What events tell of writes -/

namespace Event

/-- The address of the write that an event tells of. -/
def target? : Event → Option Word
  | write _ address _ => some address
  | byteSent _ => some Bus.serialControlAddress
  | _ => none

/-- The addresses of the writes that events tell of, in their order. -/
def targets (events : List Event) : List Word :=
  events.filterMap target?

@[simp] theorem targets_append (events later : List Event) :
    targets (events ++ later) = targets events ++ targets later :=
  List.filterMap_append

/-- A write is reported, once, with its address. -/
@[simp] theorem targets_writeEvents (bus : Bus) (address : Word) (v : Byte) :
    targets (bus.writeEvents address v) = [address] := by
  unfold Bus.writeEvents
  split
  · rfl
  next hregion =>
    have haddress := Bus.Region.address_of_eq hregion rfl
    split
    · rw [← haddress]
      rfl
    · rfl
  · rfl

@[simp] theorem targets_tickEvents (bus : Bus) (ticks : Nat) :
    targets (bus.tickEvents ticks) = [] := by
  unfold Bus.tickEvents
  split <;> rfl

end Event

end Handheld
