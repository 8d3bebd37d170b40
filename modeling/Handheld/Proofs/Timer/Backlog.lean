import Mathlib.Data.List.Induction
import Handheld.Proofs.Timer.Advance

/-!
# The backlog of the timer register

Once an enabled timer has moved, its register is owed less than a period of the clock.  A
switch of the clock keeps what is owed, and if the new period is not longer than that, the
timer is behind (`IsBehind`): its next move makes up for whole periods at once.  From the
initial state, a timer is behind after such a switch, as long as nothing but writes to the
other registers and moves of a disabled timer follow, and at no other time.
-/

namespace Handheld.Timer

/-! ## Operations -/

/-- What can be done to a timer. -/
inductive Operation where
  | write (r : Register) (v : Byte)
  | advance (ticks : Nat)

namespace Operation

/-- A write that selects a clock, and enables or disables the timer. -/
def IsSwitch : Operation → Prop
  | write .control _ => True
  | _ => False

def IsAdvance : Operation → Prop
  | advance _ => True
  | write .. => False

end Operation

def perform (t : Timer) : Operation → Timer
  | .write r v => t.write r v
  | .advance ticks => t.advance ticks

/-- The timer after a sequence of operations, the first one first. -/
def performAll (t : Timer) (ops : List Operation) : Timer :=
  ops.foldl perform t

variable {t : Timer} {op : Operation} {ops : List Operation}

@[simp] theorem performAll_nil (t : Timer) : t.performAll [] = t := rfl

theorem performAll_append (t : Timer) (ops later : List Operation) :
    t.performAll (ops ++ later) = (t.performAll ops).performAll later :=
  List.foldl_append

@[simp] theorem performAll_append_singleton (t : Timer) (ops : List Operation)
    (op : Operation) : t.performAll (ops ++ [op]) = (t.performAll ops).perform op :=
  performAll_append t ops [op]

/-! ## Operations other than switches -/

theorem control_perform (h : ¬ op.IsSwitch) : (t.perform op).control = t.control := by
  cases op with
  | write r v =>
      cases r with
      | control => exact absurd trivial h
      | divider | value | modulo => rfl
  | advance ticks => exact control_advance t ticks

theorem control_performAll (h : ∀ op ∈ ops, ¬ op.IsSwitch) :
    (t.performAll ops).control = t.control := by
  induction ops using List.reverseRecOn with
  | nil => rfl
  | append_singleton ops op ih =>
      rw [List.forall_mem_append, List.forall_mem_singleton] at h
      rw [performAll_append_singleton, control_perform h.2, ih h.1]

/-! ## Being behind -/

/-- The timer register is owed a period of the selected clock or more. -/
def IsBehind (t : Timer) : Prop :=
  t.period ≤ t.owed

instance (t : Timer) : Decidable t.IsBehind :=
  inferInstanceAs (Decidable (_ ≤ _))

theorem isBehind_advance_iff (t : Timer) (ticks : Nat) :
    (t.advance ticks).IsBehind ↔ t.IsBehind ∧ t.isEnabled = false := by
  rw [IsBehind, period_advance, owed_advance, IsBehind]
  cases t.isEnabled with
  | true => simp [Nat.not_le.mpr (Nat.mod_lt (t.owed + ticks) t.period_pos)]
  | false => simp

/-- But for a switch, only a move of an enabled timer does something to the backlog, and it
takes it away. -/
theorem isBehind_perform_iff (h : ¬ op.IsSwitch) :
    (t.perform op).IsBehind ↔ t.IsBehind ∧ (op.IsAdvance → t.isEnabled = false) := by
  cases op with
  | write r v =>
      cases r with
      | control => exact absurd trivial h
      | divider | value | modulo => exact ⟨fun hbehind => ⟨hbehind, nofun⟩, fun hboth => hboth.1⟩
  | advance ticks =>
      rw [perform, isBehind_advance_iff]
      exact and_congr_right fun _ => ⟨fun hoff _ => hoff, fun hoff => hoff trivial⟩

theorem isBehind_performAll_iff (h : ∀ op ∈ ops, ¬ op.IsSwitch) :
    (t.performAll ops).IsBehind ↔
      t.IsBehind ∧ ∀ op ∈ ops, op.IsAdvance → t.isEnabled = false := by
  induction ops using List.reverseRecOn with
  | nil => simp
  | append_singleton ops op ih =>
      rw [List.forall_mem_append, List.forall_mem_singleton] at h
      have hsame : (t.performAll ops).isEnabled = t.isEnabled := by
        rw [isEnabled, control_performAll h.1, isEnabled]
      rw [performAll_append_singleton, isBehind_perform_iff h.2, ih h.1, hsame,
        List.forall_mem_append, List.forall_mem_singleton, and_assoc]

/-- A sequence of operations has a last switch, if it has one. -/
theorem no_switch_or_last_switch (ops : List Operation) :
    (∀ op ∈ ops, ¬ op.IsSwitch) ∨
      ∃ before v after, ops = before ++ .write .control v :: after ∧
        ∀ op ∈ after, ¬ op.IsSwitch := by
  induction ops using List.reverseRecOn with
  | nil => exact .inl (by simp)
  | append_singleton ops op ih =>
      by_cases hop : op.IsSwitch
      · match op, hop with
        | .write .control v, _ => exact .inr ⟨ops, v, [], rfl, by simp⟩
      · rcases ih with hnone | ⟨before, v, after, rfl, hafter⟩
        · exact .inl (List.forall_mem_append.mpr ⟨hnone, List.forall_mem_singleton.mpr hop⟩)
        · refine .inr ⟨before, v, after ++ [op], by simp, ?_⟩
          exact List.forall_mem_append.mpr ⟨hafter, List.forall_mem_singleton.mpr hop⟩

theorem isEnabled_write_control (t : Timer) (v : Byte) :
    (t.write .control v).isEnabled = false ↔ v &&& 0x04 = 0 := by
  have hmask : (0x07 : Byte) &&& 0x04 = 0x04 := rfl
  simp [isEnabled, write, UInt8.and_assoc, hmask]

theorem not_isBehind_initial : ¬ initial.IsBehind := by
  decide

/-- When a timer is behind. -/
theorem isBehind_iff_switched (ops : List Operation) :
    (initial.performAll ops).IsBehind ↔
      ∃ before v after, ops = before ++ .write .control v :: after ∧
        (∀ op ∈ after, ¬ op.IsSwitch) ∧
        ((initial.performAll before).write .control v).IsBehind ∧
        ∀ op ∈ after, op.IsAdvance → v &&& 0x04 = 0 := by
  have hsplit : ∀ before v after, (∀ op ∈ after, ¬ Operation.IsSwitch op) →
      ((initial.performAll (before ++ .write .control v :: after)).IsBehind ↔
        ((initial.performAll before).write .control v).IsBehind ∧
          ∀ op ∈ after, op.IsAdvance → v &&& 0x04 = 0) := by
    intro before v after hafter
    rw [performAll_append]
    simp only [← isEnabled_write_control (initial.performAll before)]
    exact isBehind_performAll_iff hafter
  constructor
  · intro hbehind
    rcases no_switch_or_last_switch ops with hnone | ⟨before, v, after, rfl, hafter⟩
    · exact absurd ((isBehind_performAll_iff hnone).mp hbehind).1 not_isBehind_initial
    · exact ⟨before, v, after, rfl, hafter, (hsplit before v after hafter).mp hbehind⟩
  · rintro ⟨before, v, after, rfl, hafter, hbehind⟩
    exact (hsplit before v after hafter).mpr hbehind

/-! ## Bounds -/

theorem owed_perform_lt (h : t.owed < 1024) (op : Operation) : (t.perform op).owed < 1024 := by
  cases op with
  | write r v => cases r <;> exact h
  | advance ticks =>
      rw [perform, owed_advance]
      split
      · exact Nat.lt_of_lt_of_le (Nat.mod_lt _ t.period_pos) t.period_le
      · exact h

/-- No more is ever owed than what does not fill a period of the slowest clock. -/
theorem owed_performAll_lt (ops : List Operation) : (initial.performAll ops).owed < 1024 := by
  induction ops using List.reverseRecOn with
  | nil => decide
  | append_singleton ops op ih =>
      rw [performAll_append_singleton]
      exact owed_perform_lt ih op

/-- A move by a period makes one increment, and those that make up for the backlog. -/
theorem incrementsAfter_le {ticks : Nat} (h : ticks ≤ t.period) :
    t.incrementsAfter ticks ≤ t.owed / t.period + 1 := by
  unfold incrementsAfter
  split
  · rw [← Nat.add_div_right _ t.period_pos]
    exact Nat.div_le_div_right (Nat.add_le_add_left h _)
  · exact Nat.zero_le _

/-- From the initial state, less than 1024 ticks are ever owed to the timer register, and less
than a period of the selected clock is, but for one case: the last switch has selected a
period that is not longer than what was owed, and no enabled timer has moved since.  A move
by a period or less increments the register at most once if the timer is not behind, and
in any case once more at most than whole periods are owed. -/
theorem behind_only_after_switch (ops : List Operation) :
    (initial.performAll ops).owed < 1024 ∧
    ((initial.performAll ops).period ≤ (initial.performAll ops).owed ↔
      ∃ before v after, ops = before ++ .write .control v :: after ∧
        (∀ op ∈ after, ¬ op.IsSwitch) ∧
        ((initial.performAll before).write .control v).period ≤
          (initial.performAll before).owed ∧
        ∀ op ∈ after, op.IsAdvance → v &&& 0x04 = 0) ∧
    ∀ ticks ≤ (initial.performAll ops).period,
      ((initial.performAll ops).advance ticks).value =
        (incrementOnce^[(initial.performAll ops).incrementsAfter ticks]
          (initial.performAll ops)).value ∧
      (initial.performAll ops).incrementsAfter ticks ≤
        (initial.performAll ops).owed / (initial.performAll ops).period + 1 ∧
      ((initial.performAll ops).owed < (initial.performAll ops).period →
        (initial.performAll ops).incrementsAfter ticks ≤ 1) := by
  refine ⟨owed_performAll_lt ops, isBehind_iff_switched ops, fun ticks hticks => ⟨?_, ?_, ?_⟩⟩
  · rw [value_advance, increment_eq_iterate]
  · exact incrementsAfter_le hticks
  · intro howed
    have hle := incrementsAfter_le hticks
    rwa [Nat.div_eq_of_lt howed] at hle

/-- A switch that keeps less than the new period. -/
def switchInTime : List Operation :=
  [.write .control 0x07, .advance 60, .write .control 0x06]

/-- A switch that leaves the timer behind by 62 periods and 8 ticks. -/
def switchTooLate : List Operation :=
  [.write .control 0x04, .advance 1000, .write .control 0x05]

/-- A move by one period after either switch. -/
theorem behind_only_after_late_switch :
    (64 ≤ (initial.performAll switchInTime).period ∧
      (initial.performAll switchInTime).owed < (initial.performAll switchInTime).period ∧
      (initial.performAll switchInTime).incrementsAfter 64 ≤ 1) ∧
    (16 ≤ (initial.performAll switchTooLate).period ∧
      (initial.performAll switchTooLate).period ≤ (initial.performAll switchTooLate).owed ∧
      (initial.performAll switchTooLate).incrementsAfter 16 ≤ 1000 / 16 + 1) := by
  have hinTime : (initial.performAll switchInTime).owed <
      (initial.performAll switchInTime).period := by decide
  have hticks : 64 ≤ (initial.performAll switchInTime).period := by decide
  have hticks' : 16 ≤ (initial.performAll switchTooLate).period := by decide
  obtain ⟨_, _, hmove⟩ := behind_only_after_switch switchInTime
  obtain ⟨_, hbehind, hmove'⟩ := behind_only_after_switch switchTooLate
  refine ⟨⟨hticks, hinTime, (hmove 64 hticks).2.2 hinTime⟩, hticks', ?_, (hmove' 16 hticks').2.1⟩
  exact hbehind.mpr
    ⟨[.write .control 0x04, .advance 1000], 0x05, [], rfl, by simp, by decide, by simp⟩

/-- After the late switch, a move by one period makes 63 increments. -/
theorem not_owed_less_than_period :
    ¬ (∀ ops, (initial.performAll ops).owed < (initial.performAll ops).period) ∧
      ¬ ∀ ops ticks, ticks ≤ (initial.performAll ops).period →
        (initial.performAll ops).incrementsAfter ticks ≤ 1 := by
  refine ⟨fun h => absurd (h switchTooLate) (by decide), fun h => ?_⟩
  exact absurd (h switchTooLate 16 (by decide)) (by decide)

end Handheld.Timer
