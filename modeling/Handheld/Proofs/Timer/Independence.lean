import Mathlib.Data.List.DropRight
import Handheld.Proofs.Bus.ReadBack
import Handheld.Proofs.Bus.Ticks
import Handheld.Proofs.Timer.Backlog

/-!
# Two rates from one clock

The divider and the timer register count the same ticks, and neither disturbs the other.  An
observer of one of them sees the operations that concern it, and for this observer all others
might as well not take place.  That is shown in two steps.  What an observer does not see of the
bus does not decide what comes to be seen, and an operation that does not concern the observer
changes nothing that is seen; both are about a single operation.  Then any two sequences that
agree on the operations of concern come to the same for the observer (`view_operateAll_congr`).
The counter moreover has a closed form: the ticks since it was cleared last.
-/

namespace Handheld

namespace Timer.Operation

/-- A write to the divider, whatever the byte. -/
def isClear : Operation → Bool
  | write .divider _ => true
  | _ => false

/-- A write to a register other than the divider. -/
def isSetting : Operation → Bool
  | write .divider _ | advance _ => false
  | write .value _ | write .modulo _ | write .control _ => true

/-- The ticks that pass in an operation. -/
def ticks : Operation → Nat
  | write .. => 0
  | advance ticks => ticks

/-- The operations after the last write to the divider, or all of them if there is none. -/
def sinceClear (ops : List Operation) : List Operation :=
  ops.rtakeWhile fun op => !op.isClear

end Timer.Operation

namespace Bus

variable {bus bus' : Bus} {op : Timer.Operation} {ops ops' : List Timer.Operation}

/-! ## Operations on the timer of a bus -/

/-- Does to the timer of the bus what can be done to a timer.  An overflow of its register
requests an interrupt. -/
def operate (bus : Bus) : Timer.Operation → Bus
  | .write r v => bus.write r.address v
  | .advance ticks => bus.tick ticks

/-- The bus after a sequence of operations, the first one first. -/
def operateAll (bus : Bus) (ops : List Timer.Operation) : Bus :=
  ops.foldl operate bus

theorem write_register (bus : Bus) (r : Timer.Register) (v : Byte) :
    bus.write r.address v = { bus with timer := bus.timer.write r v } := by
  rw [write, Region.ofAddress_register]

theorem timer_operate (bus : Bus) (op : Timer.Operation) :
    (bus.operate op).timer = bus.timer.perform op := by
  cases op with
  | write r v => rw [operate, write_register, Timer.perform]
  | advance ticks => rfl

theorem operateAll_append_singleton (bus : Bus) (ops : List Timer.Operation)
    (op : Timer.Operation) : bus.operateAll (ops ++ [op]) = (bus.operateAll ops).operate op :=
  List.foldl_append

/-! ## Observers -/

section Observer

variable (view : Bus → α) {concerns : Timer.Operation → Bool}
  (hskip : ∀ bus op, concerns op = false → view (bus.operate op) = view bus)
  (hkeep : ∀ bus bus' op, view bus = view bus' → view (bus.operate op) = view (bus'.operate op))
include hskip hkeep

/-- The operations that do not concern an observer can be left out. -/
theorem view_operateAll_filter (h : view bus = view bus') (ops : List Timer.Operation) :
    view (bus.operateAll ops) = view (bus'.operateAll (ops.filter concerns)) := by
  induction ops generalizing bus bus' with
  | nil => exact h
  | cons op ops ih =>
      cases hop : concerns op with
      | false =>
          rw [List.filter_cons_of_neg (by simp [hop])]
          exact ih ((hskip bus op hop).trans h)
      | true =>
          rw [List.filter_cons_of_pos hop]
          exact ih (hkeep bus bus' op h)

theorem view_operateAll_congr (h : ops.filter concerns = ops'.filter concerns) (bus : Bus) :
    view (bus.operateAll ops) = view (bus.operateAll ops') := by
  rw [view_operateAll_filter view hskip hkeep rfl ops, h,
    ← view_operateAll_filter view hskip hkeep rfl ops']

end Observer

/-! ## All but the counter -/

/-- All of the bus but the counter of its timer. -/
def pastCounter (bus : Bus) : Bus :=
  { bus with timer := { bus.timer with counter := 0 } }

/-- The counter decides about nothing but the counter. -/
theorem pastCounter_tick (bus : Bus) (ticks : Nat) :
    (bus.tick ticks).pastCounter = (bus.pastCounter.tick ticks).pastCounter := by
  have htimer : { bus.timer.advance ticks with counter := 0 } =
      { bus.pastCounter.timer.advance ticks with counter := 0 } := by
    apply Timer.ext
    · rfl
    · simp only [Timer.value_advance]
      have hvalue : bus.timer.value = bus.pastCounter.timer.value := rfl
      have hmodulo : bus.timer.modulo = bus.pastCounter.timer.modulo := rfl
      exact Timer.value_increment_congr hvalue hmodulo _
    · simp only [Timer.modulo_advance, pastCounter]
    · simp only [Timer.control_advance, pastCounter]
    · simp only [Timer.owed_advance]
      rfl
  show Bus.mk _ _ { bus.timer.advance ticks with counter := 0 } _ = _
  rw [htimer]
  rfl

theorem pastCounter_operate (bus : Bus) (op : Timer.Operation) :
    (bus.operate op).pastCounter = (bus.pastCounter.operate op).pastCounter := by
  cases op with
  | write r v =>
      simp only [operate, write_register]
      cases r <;> rfl
  | advance ticks => exact pastCounter_tick bus ticks

theorem pastCounter_operate_of_isClear (bus : Bus) (h : op.isClear = true) :
    (bus.operate op).pastCounter = bus.pastCounter := by
  match op, h with
  | .write .divider v, _ =>
      rw [operate, write_register]
      rfl

/-- Writes to the divider leave no trace but in the counter. -/
theorem pastCounter_operateAll_congr
    (h : ops.filter (fun op => !op.isClear) = ops'.filter fun op => !op.isClear) (bus : Bus) :
    (bus.operateAll ops).pastCounter = (bus.operateAll ops').pastCounter := by
  refine view_operateAll_congr pastCounter ?_ ?_ h bus
  · intro bus op hop
    exact pastCounter_operate_of_isClear bus (by simpa using hop)
  · intro bus bus' op hview
    rw [pastCounter_operate, hview, ← pastCounter_operate]

/-! ## The counter -/

theorem counter_operate (bus : Bus) (op : Timer.Operation) :
    (bus.operate op).timer.counter =
      if op.isClear then 0 else bus.timer.counter + UInt16.ofNat op.ticks := by
  rw [timer_operate]
  cases op with
  | write r v =>
      cases r with
      | divider => rfl
      | value | modulo | control => exact (UInt16.add_zero _).symm
  | advance ticks => exact Timer.counter_advance _ ticks

theorem counter_operate_of_isSetting (bus : Bus) (h : op.isSetting = true) :
    (bus.operate op).timer.counter = bus.timer.counter := by
  match op, h with
  | .write .value v, _ | .write .modulo v, _ | .write .control v, _ =>
      rw [counter_operate]
      exact UInt16.add_zero _

/-- Writes to the other registers leave no trace in the counter. -/
theorem counter_operateAll_congr
    (h : ops.filter (fun op => !op.isSetting) = ops'.filter fun op => !op.isSetting) (bus : Bus) :
    (bus.operateAll ops).timer.counter = (bus.operateAll ops').timer.counter := by
  refine view_operateAll_congr (fun bus => bus.timer.counter) ?_ ?_ h bus
  · intro bus op hop
    exact counter_operate_of_isSetting bus (by simpa using hop)
  · intro bus bus' op hview
    have hcounter : bus.timer.counter = bus'.timer.counter := hview
    show (bus.operate op).timer.counter = (bus'.operate op).timer.counter
    rw [counter_operate, counter_operate, hcounter]

/-- The counter holds the ticks since it was cleared last.  The induction takes off the last
operation, which either clears the counter or adds its ticks to those since the last clear. -/
theorem counter_operateAll (bus : Bus) (ops : List Timer.Operation) :
    (bus.operateAll ops).timer.counter =
      (if ops.any Timer.Operation.isClear then 0 else bus.timer.counter) +
        UInt16.ofNat ((Timer.Operation.sinceClear ops).map Timer.Operation.ticks).sum := by
  induction ops using List.reverseRecOn with
  | nil => exact (UInt16.add_zero _).symm
  | append_singleton ops op ih =>
      rw [operateAll_append_singleton, counter_operate, List.any_append, Timer.Operation.sinceClear,
        List.rtakeWhile_concat]
      cases hop : op.isClear with
      | true => simp [hop]
      | false =>
          rw [ih]
          simp [hop, Timer.Operation.sinceClear, UInt16.add_assoc]

/-! ## The two together -/

/-- Sequences of operations that differ only in the writes to the divider leave the same timer
register, modulo, control register and owed ticks, and the same interrupt controller.  Sequences
that differ only in the writes to the other registers leave the same counter: that of the ticks
since the last write to the divider, or since the start and on top of the initial count. -/
theorem divider_and_register_do_not_interfere (bus : Bus) (ops ops' : List Timer.Operation) :
    (ops.filter (fun op => !op.isClear) = ops'.filter (fun op => !op.isClear) →
      (bus.operateAll ops).timer.value = (bus.operateAll ops').timer.value ∧
      (bus.operateAll ops).timer.modulo = (bus.operateAll ops').timer.modulo ∧
      (bus.operateAll ops).timer.control = (bus.operateAll ops').timer.control ∧
      (bus.operateAll ops).timer.owed = (bus.operateAll ops').timer.owed ∧
      (bus.operateAll ops).interrupts = (bus.operateAll ops').interrupts) ∧
    (ops.filter (fun op => !op.isSetting) = ops'.filter (fun op => !op.isSetting) →
      (bus.operateAll ops).timer.counter = (bus.operateAll ops').timer.counter) ∧
    (bus.operateAll ops).timer.counter.toNat =
      ((if ops.any Timer.Operation.isClear then 0 else bus.timer.counter.toNat) +
        ((Timer.Operation.sinceClear ops).map Timer.Operation.ticks).sum) % 65536 := by
  refine ⟨?_, fun hsame => counter_operateAll_congr hsame bus, ?_⟩
  · intro hsame
    have hpast := pastCounter_operateAll_congr hsame bus
    have hinterrupts := congrArg Bus.interrupts hpast
    have htimer := congrArg Bus.timer hpast
    obtain ⟨-, hvalue, hmodulo, hcontrol, howed⟩ := Timer.mk.inj htimer
    exact ⟨hvalue, hmodulo, hcontrol, howed, hinterrupts⟩
  · rw [counter_operateAll, UInt16.toNat_add, UInt16.toNat_ofNat', Nat.add_mod_mod]
    split <;> rfl

/-- The divider is cleared while half a period is owed. -/
def clearedMidway : List Timer.Operation :=
  [.write .control 0x05, .write .value 0xFF, .advance 8, .write .divider 0xAB, .advance 8]

/-- The register overflows all the same, as if the divider had been cleared before or not at all;
and the counter stands at 8, also if the timer is off. -/
theorem divider_and_register_do_not_interfere_midway :
    clearedMidway.filter (fun op => !op.isClear) =
        [.write .control 0x05, .write .value 0xFF, .advance 8, .advance 8].filter
          (fun op => !op.isClear) ∧
      (initial.operateAll clearedMidway).interrupts.requests = 0x04 ∧
      (initial.operateAll
        [.write .control 0x05, .write .value 0xFF, .advance 8, .advance 8]).interrupts =
          (initial.operateAll clearedMidway).interrupts ∧
      clearedMidway.filter (fun op => !op.isSetting) =
        [.advance 8, .write .divider 0xAB, .write .modulo 0x12, .advance 8].filter
          (fun op => !op.isSetting) ∧
      (initial.operateAll clearedMidway).timer.counter =
        (initial.operateAll
          [.advance 8, .write .divider 0xAB, .write .modulo 0x12, .advance 8]).timer.counter ∧
      (initial.operateAll clearedMidway).timer.counter.toNat = 8 := by
  obtain ⟨hregister, _, hcounter⟩ := divider_and_register_do_not_interfere initial clearedMidway
    [.write .control 0x05, .write .value 0xFF, .advance 8, .advance 8]
  obtain ⟨_, hdivider, _⟩ := divider_and_register_do_not_interfere initial clearedMidway
    [.advance 8, .write .divider 0xAB, .write .modulo 0x12, .advance 8]
  obtain ⟨_, _, _, _, hinterrupts⟩ := hregister rfl
  exact ⟨rfl, by decide, hinterrupts.symm, rfl, hdivider rfl, hcounter.trans (by decide)⟩

end Bus

end Handheld
