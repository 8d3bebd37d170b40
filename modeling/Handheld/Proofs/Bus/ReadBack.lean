import Handheld.Proofs.Bus.Writes

/-!
# Reading back what was written

A write reaches one of the stores behind the bus.  What it does to each of them is stated on
its own (`memory_write`, `timer_write`, `interrupts_write`, `sent_write`), and all that the bus
promises to its users follows: the address reads as `readBack` says, every other address reads
as before, and two writes to different addresses can be exchanged.  Only the byte that a serial
transfer sends depends on whether its data was written before it.  A sequence of writes changes
what one of them changes, and work on the master switch changes no address.
-/

namespace Handheld

namespace Timer

theorem read_write_of_ne (t : Timer) {r s : Register} (v : Byte) (h : s ≠ r) :
    (t.write r v).read s = t.read s := by
  cases s with
  | divider =>
      cases r with
      | divider => exact absurd rfl h
      | value | modulo | control => rfl
  | value =>
      cases r with
      | value => exact absurd rfl h
      | divider | modulo | control => rfl
  | modulo =>
      cases r with
      | modulo => exact absurd rfl h
      | divider | value | control => rfl
  | control =>
      cases r with
      | control => exact absurd rfl h
      | divider | value | modulo => rfl

theorem write_comm (t : Timer) {r s : Register} (v w : Byte) (h : r ≠ s) :
    (t.write r v).write s w = (t.write s w).write r v := by
  cases r with
  | divider =>
      cases s with
      | divider => exact absurd rfl h
      | value | modulo | control => rfl
  | value =>
      cases s with
      | value => exact absurd rfl h
      | divider | modulo | control => rfl
  | modulo =>
      cases s with
      | modulo => exact absurd rfl h
      | divider | value | control => rfl
  | control =>
      cases s with
      | control => exact absurd rfl h
      | divider | value | modulo => rfl

end Timer

attribute [ext] Bus

namespace Bus

/-! ## Addresses and their regions -/

namespace Region

/-- Whether what is written can be found in memory. -/
def isMemory : Region → Bool
  | cell | serialControl => true
  | _ => false

@[simp] theorem ofAddress_register (r : Timer.Register) : ofAddress r.address = timer r := by
  cases r <;> rfl

/-- Only the addresses of the window lead nowhere. -/
theorem ofAddress_eq_unusable_iff {address : Word} :
    ofAddress address = unusable ↔ unusableFirst ≤ address ∧ address ≤ unusableLast := by
  constructor
  · intro h
    by_contra hwindow
    rw [ofAddress, if_neg hwindow] at h
    split at h
    · cases h
    split at h
    · cases h
    split at h
    · cases h
    split at h <;> cases h
  · intro hwindow
    rw [ofAddress, if_pos hwindow]

theorem ofAddress_ne_of_ne {address a : Word} {region : Region} (ha : region.address? = some a)
    (hne : address ≠ a) : ofAddress address ≠ region := by
  intro hregion
  exact hne (address_of_eq hregion ha).symm

/-- The rule for what is read back, by regions. -/
def readBack : Region → Byte → Byte
  | unusable, _ | timer .divider, _ => 0
  | timer .control, v => v &&& 0x07
  | serialControl, v => if v = transferStart then transferDone else v
  | _, v => v

theorem readBack_of_plain {region : Region} (hunusable : region ≠ unusable)
    (hdivider : region ≠ timer .divider) (hcontrol : region ≠ timer .control)
    (hserial : region ≠ serialControl) (v : Byte) : region.readBack v = v := by
  cases region with
  | unusable => exact absurd rfl hunusable
  | serialControl => exact absurd rfl hserial
  | cell | interruptRequests | interruptEnable => rfl
  | timer r =>
      cases r with
      | divider => exact absurd rfl hdivider
      | control => exact absurd rfl hcontrol
      | value | modulo => rfl

end Region

/-- What an address reads as after a byte has been written to it. -/
def readBack (address : Word) (v : Byte) : Byte :=
  if 0xFEA0 ≤ address ∧ address ≤ 0xFEFF ∨ address = 0xFF04 then 0
  else if address = 0xFF07 then v &&& 0x07
  else if address = 0xFF02 ∧ v = 0x81 then 0x01
  else v

theorem readBack_ofAddress (address : Word) (v : Byte) :
    (Region.ofAddress address).readBack v = readBack address v := by
  by_cases hwindow : 0xFEA0 ≤ address ∧ address ≤ 0xFEFF
  · rw [readBack, if_pos (.inl hwindow), Region.ofAddress_eq_unusable_iff.mpr hwindow]
    rfl
  by_cases hdivider : address = 0xFF04
  · subst hdivider
    rfl
  by_cases hcontrol : address = 0xFF07
  · subst hcontrol
    rfl
  by_cases hserial : address = 0xFF02
  · subst hserial
    show (if v = 0x81 then (0x01 : Byte) else v) = _
    simp [readBack]
  · have hplain := Region.readBack_of_plain
      (fun h => hwindow (Region.ofAddress_eq_unusable_iff.mp h))
      (Region.ofAddress_ne_of_ne rfl hdivider) (Region.ofAddress_ne_of_ne rfl hcontrol)
      (Region.ofAddress_ne_of_ne rfl hserial) v
    rw [hplain, readBack, if_neg (by simp [hwindow, hdivider]), if_neg hcontrol,
      if_neg (fun h => hserial h.1)]

/-! ## What a write does to each store -/

/-- What a write to the region does to the timer. -/
def Region.onTimer : Region → Byte → Timer → Timer
  | timer r, v => fun t => t.write r v
  | _, _ => id

/-- What a write to the region does to the interrupt controller. -/
def Region.onInterrupts : Region → Byte → InterruptController → InterruptController
  | interruptRequests, v => fun ic => { ic with requests := v }
  | interruptEnable, v => fun ic => { ic with enable := v }
  | _, _ => id

theorem timer_write (bus : Bus) (address : Word) (v : Byte) :
    (bus.write address v).timer = (Region.ofAddress address).onTimer v bus.timer := by
  unfold write
  cases Region.ofAddress address with
  | serialControl => dsimp only; split <;> rfl
  | _ => rfl

theorem interrupts_write (bus : Bus) (address : Word) (v : Byte) :
    (bus.write address v).interrupts =
      (Region.ofAddress address).onInterrupts v bus.interrupts := by
  unfold write
  cases Region.ofAddress address with
  | serialControl => dsimp only; split <;> rfl
  | _ => rfl

theorem memory_write (bus : Bus) (address : Word) (v : Byte) :
    (bus.write address v).memory =
      if (Region.ofAddress address).isMemory then
        bus.memory.write address (readBack address v)
      else bus.memory := by
  rw [← readBack_ofAddress]
  unfold write
  cases hregion : Region.ofAddress address with
  | serialControl =>
      obtain rfl : serialControlAddress = address := Region.address_of_eq hregion rfl
      dsimp only
      split
      next hstart => rw [hstart]; rfl
      next hplain => rw [Region.readBack, if_neg hplain]; rfl
  | _ => rfl

theorem sent_write (bus : Bus) (address : Word) (v : Byte) :
    (bus.write address v).sent =
      if address = serialControlAddress ∧ v = transferStart then bus.sent.push bus.serialData
      else bus.sent := by
  unfold write
  cases hregion : Region.ofAddress address with
  | serialControl =>
      obtain rfl : serialControlAddress = address := Region.address_of_eq hregion rfl
      dsimp only
      split
      next hstart => rw [if_pos ⟨rfl, hstart⟩]; rfl
      next hplain => rw [if_neg fun h => hplain h.2]
  | _ =>
      have hother : address ≠ serialControlAddress := by
        rintro rfl
        cases hregion
      exact (if_neg fun h => hother h.1).symm

/-! ## Reading after a write -/

theorem read_write_self (bus : Bus) (address : Word) (v : Byte) :
    (bus.write address v).read address = readBack address v := by
  rw [read, memory_write, timer_write, interrupts_write, ← readBack_ofAddress]
  cases Region.ofAddress address with
  | cell | serialControl => exact Memory.read_write_self ..
  | unusable | interruptRequests | interruptEnable => rfl
  | timer r =>
      cases r with
      | divider => show Word.high 0 = 0; decide
      | value | modulo | control => rfl

theorem read_memory_write_of_ne (bus : Bus) {a b : Word} (v : Byte) (h : b ≠ a) :
    (bus.write a v).memory.read b = bus.memory.read b := by
  rw [memory_write]
  split
  · exact Memory.read_write_of_ne _ _ h
  · rfl

theorem read_timer_write_of_ne (bus : Bus) {a : Word} {r : Timer.Register} (v : Byte)
    (h : r.address ≠ a) : (bus.write a v).timer.read r = bus.timer.read r := by
  rw [timer_write]
  cases hregion : Region.ofAddress a with
  | timer s =>
      have hne : r ≠ s := by
        rintro rfl
        exact h (Region.address_of_eq hregion rfl)
      exact Timer.read_write_of_ne _ v hne
  | _ => rfl

/-- A write changes no other address, whichever stores the two lead to. -/
theorem read_write_of_ne (bus : Bus) {a b : Word} (v : Byte) (h : b ≠ a) :
    (bus.write a v).read b = bus.read b := by
  rw [read, read]
  cases hregion : Region.ofAddress b with
  | unusable => rfl
  | cell | serialControl => exact read_memory_write_of_ne bus v h
  | timer r =>
      obtain rfl : r.address = b := Region.address_of_eq hregion rfl
      exact read_timer_write_of_ne bus v h
  | interruptRequests =>
      obtain rfl : interruptRequestsAddress = b := Region.address_of_eq hregion rfl
      exact requests_write bus v (Ne.symm h)
  | interruptEnable =>
      obtain rfl : interruptEnableAddress = b := Region.address_of_eq hregion rfl
      exact enable_write bus v (Ne.symm h)

/-- A word is read back byte by byte. -/
theorem readWord_writeWord (bus : Bus) (address : Word) (v : Word) :
    (bus.writeWord address v).readWord address =
      Word.ofBytes (readBack (address + 1) (Word.high v)) (readBack address (Word.low v)) := by
  have hne : address ≠ address + 1 := by
    intro h
    simp at h
  rw [readWord, writeWord, read_write_self, read_write_of_ne _ _ hne, read_write_self]

/-! ## Sequences of writes -/

section Sequences

variable (bus : Bus) {writes : List (Word × Byte)}

theorem read_writeAll {b : Word} (hwrites : b ∉ writes.map Prod.fst) :
    (bus.writeAll writes).read b = bus.read b :=
  writeAll_eq_of_write (f := fun bus => bus.read b)
    (fun bus _ v haddress => read_write_of_ne bus v (Ne.symm haddress)) bus hwrites

theorem timer_write_of_not_mem {address : Word} (v : Byte)
    (haddress : ∀ r : Timer.Register, address ≠ r.address) :
    (bus.write address v).timer = bus.timer := by
  rw [timer_write]
  cases hregion : Region.ofAddress address with
  | timer r => exact absurd (Region.address_of_eq hregion rfl).symm (haddress r)
  | _ => rfl

theorem timer_writeAll (hwrites : ∀ r : Timer.Register, r.address ∉ writes.map Prod.fst) :
    (bus.writeAll writes).timer = bus.timer := by
  induction writes generalizing bus with
  | nil => rfl
  | cons w writes ih =>
      simp only [List.map_cons, List.mem_cons, not_or] at hwrites
      rw [writeAll_cons, ih _ fun r => (hwrites r).2]
      exact timer_write_of_not_mem bus _ fun r => Ne.symm (hwrites r).1

theorem sent_write_of_ne {address : Word} (v : Byte) (haddress : address ≠ serialControlAddress) :
    (bus.write address v).sent = bus.sent := by
  rw [sent_write, if_neg fun h => haddress h.1]

/-- Writes to different addresses start one transfer at most, and only if one of them goes to
the serial control address. -/
theorem sent_writeAll (hnodup : (writes.map Prod.fst).Nodup) :
    (bus.writeAll writes).sent = bus.sent ∨
      serialControlAddress ∈ writes.map Prod.fst ∧
        ∃ v, (bus.writeAll writes).sent = bus.sent.push v := by
  induction writes generalizing bus with
  | nil => exact .inl rfl
  | cons w writes ih =>
      obtain ⟨address, v⟩ := w
      rw [List.map_cons, List.nodup_cons] at hnodup
      rw [writeAll_cons, List.map_cons]
      by_cases haddress : address = serialControlAddress
      · have hrest : ((bus.write address v).writeAll writes).sent = (bus.write address v).sent :=
          writeAll_eq_of_write (f := Bus.sent) (fun bus _ v h => sent_write_of_ne bus v h) _
            (haddress ▸ hnodup.1)
        rw [hrest, sent_write]
        split
        · exact .inr ⟨haddress ▸ List.mem_cons_self, _, rfl⟩
        · exact .inl rfl
      · have hfirst := sent_write_of_ne bus v haddress
        have hrest := ih (bus.write address v) hnodup.2
        rw [hfirst] at hrest
        exact hrest.imp id fun h => ⟨List.mem_cons_of_mem _ h.1, h.2⟩

end Sequences

/-! ## Work on the master switch -/

theorem read_mapInterrupts (bus : Bus) {f : InterruptController → InterruptController}
    (hf : ∀ ic, (f ic).bytes = ic.bytes) (b : Word) :
    (bus.mapInterrupts f).read b = bus.read b := by
  have hbytes := Prod.mk.inj (hf bus.interrupts)
  rw [read, read]
  cases Region.ofAddress b with
  | interruptRequests => exact hbytes.2
  | interruptEnable => exact hbytes.1
  | unusable | timer _ | serialControl | cell => rfl

theorem mapInterrupts_of_bytes_eq {bus : Bus} {f : InterruptController → InterruptController}
    (hf : (f bus.interrupts).bytes = bus.interrupts.bytes) :
    bus.mapInterrupts f =
      { bus with
        interrupts :=
          { bus.interrupts with
            master := (f bus.interrupts).master, delay? := (f bus.interrupts).delay? } } := by
  obtain ⟨henable, hrequests⟩ := Prod.mk.inj hf
  have hinterrupts : f bus.interrupts =
      ⟨bus.interrupts.enable, bus.interrupts.requests, (f bus.interrupts).master,
        (f bus.interrupts).delay?⟩ := by
    rw [← henable, ← hrequests]
  exact congrArg (fun ic => { bus with interrupts := ic }) hinterrupts

/-! ## Exchanging two writes -/

section Exchange

variable (bus : Bus) {a b : Word} (v w : Byte) (h : a ≠ b)
include h

theorem memory_write_comm :
    ((bus.write a v).write b w).memory = ((bus.write b w).write a v).memory := by
  simp only [memory_write]
  split
  · split
    · exact Memory.write_comm _ _ _ h
    · rfl
  · rfl

theorem timer_write_comm :
    ((bus.write a v).write b w).timer = ((bus.write b w).write a v).timer := by
  simp only [timer_write]
  cases ha : Region.ofAddress a with
  | timer r =>
      cases hb : Region.ofAddress b with
      | timer s =>
          have hne : r ≠ s := by
            rintro rfl
            exact h ((Region.address_of_eq ha rfl).symm.trans (Region.address_of_eq hb rfl))
          exact Timer.write_comm _ v w hne
      | _ => rfl
  | _ => rfl

theorem interrupts_write_comm :
    ((bus.write a v).write b w).interrupts = ((bus.write b w).write a v).interrupts := by
  simp only [interrupts_write]
  cases ha : Region.ofAddress a with
  | interruptRequests =>
      cases hb : Region.ofAddress b with
      | interruptRequests =>
          exact absurd ((Region.address_of_eq ha rfl).symm.trans (Region.address_of_eq hb rfl)) h
      | _ => rfl
  | interruptEnable =>
      cases hb : Region.ofAddress b with
      | interruptEnable =>
          exact absurd ((Region.address_of_eq ha rfl).symm.trans (Region.address_of_eq hb rfl)) h
      | _ => rfl
  | _ => rfl

end Exchange

/-- A write of `v` to `a` sends the byte that stands at `b`. -/
def Sends (a : Word) (v : Byte) (b : Word) : Prop :=
  a = 0xFF02 ∧ v = 0x81 ∧ b = 0xFF01

theorem sent_write_write (bus : Bus) {a b : Word} (v w : Byte) (h : ¬ Sends b w a) :
    ((bus.write a v).write b w).sent =
      if b = serialControlAddress ∧ w = transferStart then
        (bus.write a v).sent.push bus.serialData
      else (bus.write a v).sent := by
  rw [sent_write]
  split
  next hstart =>
    have hdata : serialDataAddress ≠ a := by
      rintro rfl
      exact h ⟨hstart.1, hstart.2, rfl⟩
    rw [serialData, read_memory_write_of_ne _ _ hdata, serialData]
  next => rfl

theorem sent_write_comm (bus : Bus) {a b : Word} (v w : Byte) (h : a ≠ b)
    (hab : ¬ Sends a v b) (hba : ¬ Sends b w a) :
    ((bus.write a v).write b w).sent = ((bus.write b w).write a v).sent := by
  rw [sent_write_write bus v w hba, sent_write_write bus w v hab, sent_write, sent_write]
  by_cases ha : a = serialControlAddress ∧ v = transferStart
  · have hb : ¬ (b = serialControlAddress ∧ w = transferStart) := by
      intro hb
      exact h (ha.1.trans hb.1.symm)
    rw [if_neg hb, if_neg hb]
  · rw [if_neg ha, if_neg ha]

/-- Two writes to different addresses can be exchanged, but for what they send. -/
theorem write_comm_but_sent (bus : Bus) {a b : Word} (v w : Byte) (h : a ≠ b) :
    (bus.write a v).write b w =
      { (bus.write b w).write a v with sent := ((bus.write a v).write b w).sent } := by
  apply Bus.ext
  · exact memory_write_comm bus v w h
  · exact interrupts_write_comm bus v w h
  · exact timer_write_comm bus v w h
  · rfl

theorem write_comm (bus : Bus) {a b : Word} (v w : Byte) (h : a ≠ b)
    (hab : ¬ Sends a v b) (hba : ¬ Sends b w a) :
    (bus.write a v).write b w = (bus.write b w).write a v := by
  rw [write_comm_but_sent bus v w h, sent_write_comm bus v w h hab hba]

/-- The byte that a transfer sends is the one that was written last before it. -/
theorem sent_of_exchange (bus : Bus) (w : Byte) :
    ((bus.write 0xFF01 w).write 0xFF02 0x81).sent = bus.sent.push w ∧
      ((bus.write 0xFF02 0x81).write 0xFF01 w).sent = bus.sent.push (bus.read 0xFF01) := by
  have hdata : ¬ (0xFF01 = serialControlAddress ∧ w = transferStart) := nofun
  constructor
  · have hwritten : (bus.write 0xFF01 w).serialData = w := read_write_self bus 0xFF01 w
    rw [sent_write, if_pos ⟨rfl, rfl⟩, sent_write, if_neg hdata, hwritten]
  · rw [sent_write, if_neg hdata, sent_write, if_pos ⟨rfl, rfl⟩]
    rfl

/-! ## The law -/

/-- An address reads as `readBack` says of the byte written last, and a write changes no other
address; so a word reads back byte by byte, also where it goes around the end of the address
space.  Two writes to different addresses leave the same bus in either order, unless one of
them starts a transfer and the other one writes the byte to send.  Then all but the bytes sent
is the same, and the order decides which byte is sent. -/
theorem writes_read_back_and_commute (bus : Bus) :
    (∀ (a : Word) (v : Byte), (bus.write a v).read a = readBack a v) ∧
    (∀ (a b : Word) (v : Byte), b ≠ a → (bus.write a v).read b = bus.read b) ∧
    (∀ (a b : Word) (v w : Byte), a ≠ b → ¬ Sends a v b → ¬ Sends b w a →
      (bus.write a v).write b w = (bus.write b w).write a v) ∧
    (∀ (a b : Word) (v w : Byte), a ≠ b →
      (bus.write a v).write b w =
        { (bus.write b w).write a v with sent := ((bus.write a v).write b w).sent }) ∧
    (∀ w : Byte,
      ((bus.write 0xFF01 w).write 0xFF02 0x81).sent = bus.sent.push w ∧
        ((bus.write 0xFF02 0x81).write 0xFF01 w).sent = bus.sent.push (bus.read 0xFF01)) ∧
    ∀ a v : Word,
      (bus.writeWord a v).readWord a =
        Word.ofBytes (readBack (a + 1) (Word.high v)) (readBack a (Word.low v)) :=
  ⟨read_write_self bus, fun _ _ v h => read_write_of_ne bus v h,
    fun _ _ v w h hab hba => write_comm bus v w h hab hba,
    fun _ _ v w h => write_comm_but_sent bus v w h,
    sent_of_exchange bus, readWord_writeWord bus⟩

/-- A transfer is started beside a write to the control register of the timer, and a word is
written around the end of the address space, its low byte to the enabled sources. -/
theorem writes_read_back_beside_transfer :
    (initial.write 0xFF02 0x81).read 0xFF02 = 0x01 ∧
      (0xFF07 : Word) ≠ 0xFF02 ∧ ¬ Sends 0xFF02 0x81 0xFF07 ∧ ¬ Sends 0xFF07 0xFF 0xFF02 ∧
      (initial.write 0xFF02 0x81).read 0xFF07 = initial.read 0xFF07 ∧
      (initial.write 0xFF02 0x81).write 0xFF07 0xFF =
        (initial.write 0xFF07 0xFF).write 0xFF02 0x81 ∧
      (initial.writeWord 0xFFFF 0x1234).readWord 0xFFFF = 0x1234 := by
  obtain ⟨hself, hother, hcomm, _, _, hword⟩ := writes_read_back_and_commute initial
  have hab : ¬ Sends 0xFF02 0x81 0xFF07 := by
    rintro ⟨_, _, hdata⟩
    cases hdata
  have hba : ¬ Sends 0xFF07 0xFF 0xFF02 := by
    rintro ⟨hcontrol, _⟩
    cases hcontrol
  refine ⟨(hself 0xFF02 0x81).trans (by decide), by decide, hab, hba, ?_, ?_, ?_⟩
  · exact hother 0xFF02 0xFF07 0x81 (by decide)
  · exact hcomm 0xFF02 0xFF07 0x81 0xFF (by decide) hab hba
  · exact (hword 0xFFFF 0x1234).trans (by decide)

end Bus

end Handheld
