import Handheld.Proofs.Console.MasterSwitch
import Handheld.Proofs.Console.Trace

/-!
# Nesting of interrupts

Accepting an interrupt turns the master switch off, and so no other interrupt is accepted
until the program turns it on again.  That takes a RETI, or an EI with a further instruction
after it (`Reenabled`).  What a run keeps until then is that the switch is off and not
armed; every instruction but those two keeps it, and so do sleeping, waking, the passing
of time and whatever is written to the bus.
-/

namespace Handheld

/-! ## What keeps the switch off -/

namespace InterruptController

variable {ic : InterruptController} {mnemonic : Mnemonic}

theorem switch_of_di (ic : InterruptController) :
    (Mnemonic.di.control ic).finishInstruction.switch = (false, none) := rfl

theorem switch_of_ne (h : ic.switch = (false, none)) (hreti : mnemonic ≠ .reti)
    (hei : mnemonic ≠ .ei) :
    (mnemonic.control ic).finishInstruction.switch = (false, none) := by
  by_cases hdi : mnemonic = .di
  · subst hdi
    exact switch_of_di ic
  · rcases ic with ⟨enable, requests, master, delay?⟩
    obtain ⟨rfl, rfl⟩ := Prod.mk.inj h
    rw [Mnemonic.control_eq_id hdi hei hreti]
    rfl

/-- EI only arms the switch, and RETI alone turns it on. -/
theorem master_of_ne_reti (h : ic.switch = (false, none)) (hreti : mnemonic ≠ .reti) :
    (mnemonic.control ic).finishInstruction.master = false := by
  by_cases hei : mnemonic = .ei
  · subst hei
    exact congrArg Prod.fst (switch_of_off (congrArg Prod.fst h))
  · exact congrArg Prod.fst (switch_of_ne h hreti hei)

end InterruptController

namespace Console

open Machine

/-! ## What happens in a step -/

/-- A step from here accepts an interrupt. -/
def Accepts (c : Console) : Prop :=
  ∃ k, .accepting k ∈ (step c).events

/-- A step from here executes an instruction with that mnemonic. -/
def Executes (c : Console) (mnemonic : Mnemonic) : Prop :=
  ∃ i, .executing i ∈ (step c).events ∧ i.opcode.mnemonic = mnemonic

variable {c : Console} {mnemonic : Mnemonic}

theorem accepts_iff : c.Accepts ↔ ∃ k, c.machine.bus.interrupts.Pending k :=
  exists_congr fun _ => accepting_mem_events_iff

theorem executes_iff :
    c.Executes mnemonic ↔
      ∃ i, c.machine.entry.upcoming? = some i ∧ i.opcode.mnemonic = mnemonic :=
  exists_congr fun _ => and_congr_left fun _ => executing_mem_events_iff

theorem not_executes_of_upcoming?_eq_none (h : c.machine.entry.upcoming? = none) :
    ¬ c.Executes mnemonic := by
  rw [executes_iff, h]
  rintro ⟨_, hnone, _⟩
  cases hnone

/-- A step executes at most one instruction. -/
theorem mnemonic_eq_of_executes {mnemonic' : Mnemonic} (h : c.Executes mnemonic)
    (h' : c.Executes mnemonic') : mnemonic = mnemonic' := by
  obtain ⟨i, hi, rfl⟩ := executes_iff.mp h
  obtain ⟨i', hi', rfl⟩ := executes_iff.mp h'
  rw [Option.some.inj (hi.symm.trans hi')]

/-- A step that executes no instruction leaves the switch as it is where the machine takes
its step.  One that executes an instruction does to the switch what the instruction does. -/
theorem switch_next (c : Console) :
    (∀ mnemonic, ¬ c.Executes mnemonic) ∧
        c.next.machine.bus.interrupts.switch = c.machine.entry.bus.interrupts.switch ∨
      ∃ mnemonic ic, c.Executes mnemonic ∧
        ic.switch = c.machine.entry.bus.interrupts.switch ∧
        c.next.machine.bus.interrupts.switch =
          (mnemonic.control ic).finishInstruction.switch := by
  rw [machine_next]
  cases Machine.step_cases c.machine.entry with
  | idles hidle hstep =>
      refine .inl ⟨fun _ => not_executes_of_upcoming?_eq_none (upcoming?_of_isIdle hidle), ?_⟩
      rw [machineStep_of_ok hstep]
      exact Bus.switch_tick _ _
  | undefined e hidle hfetch hstep =>
      refine .inl ⟨fun _ =>
        not_executes_of_upcoming?_eq_none (upcoming?_of_undefined hidle hfetch), ?_⟩
      rw [machineStep_of_error hstep]
  | executes i ticks m' events hidle hfetch hstep hexecuted =>
      obtain ⟨ic, hic, hm'⟩ := hexecuted.switch_eq
      refine .inr ⟨i.opcode.mnemonic, ic,
        executes_iff.mpr ⟨i, upcoming?_of_fetch hidle hfetch, rfl⟩, hic, ?_⟩
      rw [machineStep_of_ok hstep, ← hm']
      exact Bus.switch_tick _ _

theorem switch_next_of_di (h : c.Executes .di) :
    c.next.machine.bus.interrupts.switch = (false, none) := by
  rcases switch_next c with ⟨hnone, _⟩ | ⟨mnemonic, ic, hexecutes, _, hswitch⟩
  · exact absurd h (hnone .di)
  · obtain rfl := mnemonic_eq_of_executes h hexecutes
    rw [hswitch, InterruptController.switch_of_di]

/-! ## The switch is off where the machine takes its step -/

/-- After a possible acceptance, the switch is off and not armed. -/
def EntersOff (c : Console) : Prop :=
  c.machine.entry.bus.interrupts.switch = (false, none)

theorem entersOff_of_switch (h : c.machine.bus.interrupts.switch = (false, none)) :
    c.EntersOff := by
  have hpending := InterruptController.pending?_of_master_off (congrArg Prod.fst h)
  rw [EntersOff, entry_of_not_pending hpending, h]

theorem entersOff_of_accepts (h : c.Accepts) : c.EntersOff := by
  obtain ⟨k, hk⟩ := accepts_iff.mp h
  rw [EntersOff, entry_of_pending (InterruptController.pending?_eq_some_iff.mpr hk), after,
    Bus.switch_tick, switch_accepting]

theorem switch_next_of_entersOff (h : c.EntersOff) (hreti : ¬ c.Executes .reti)
    (hei : ¬ c.Executes .ei) : c.next.machine.bus.interrupts.switch = (false, none) := by
  rcases switch_next c with ⟨_, hswitch⟩ | ⟨mnemonic, ic, hexecutes, hic, hswitch⟩
  · rw [hswitch, h]
  · rw [hswitch]
    apply InterruptController.switch_of_ne (hic.trans h)
    · rintro rfl
      exact hreti hexecutes
    · rintro rfl
      exact hei hexecutes

theorem not_accepts_next_of_entersOff (h : c.EntersOff) (hreti : ¬ c.Executes .reti) :
    ¬ c.next.Accepts := by
  have hmaster : c.next.machine.bus.interrupts.master = false := by
    rcases switch_next c with ⟨_, hswitch⟩ | ⟨mnemonic, ic, hexecutes, hic, hswitch⟩
    · exact congrArg Prod.fst (hswitch.trans h)
    · refine (congrArg Prod.fst hswitch).trans
        (InterruptController.master_of_ne_reti (hic.trans h) ?_)
      rintro rfl
      exact hreti hexecutes
  rw [accepts_iff]
  rintro ⟨k, hk⟩
  rw [hk.master] at hmaster
  cases hmaster

/-! ## Runs -/

/-- From step `i` on and before step `j`, the program turns the switch on again: it executes
RETI, or EI with a step to follow. -/
def Reenabled (c : Console) (i j : Nat) : Prop :=
  (∃ n, i ≤ n ∧ n < j ∧ (next^[n] c).Executes .reti) ∨
    ∃ n, i ≤ n ∧ n + 1 < j ∧ (next^[n] c).Executes .ei

/-- The switch stays off as long as neither RETI nor EI is executed. -/
theorem entersOff_iterate (h : c.EntersOff) {n : Nat}
    (hreti : ∀ l < n, ¬ (next^[l] c).Executes .reti)
    (hei : ∀ l < n, ¬ (next^[l] c).Executes .ei) : (next^[n] c).EntersOff := by
  induction n with
  | zero => exact h
  | succ n ih =>
      have hbefore := ih (fun l hl => hreti l (Nat.lt_succ_of_lt hl))
        fun l hl => hei l (Nat.lt_succ_of_lt hl)
      rw [Function.iterate_succ_apply']
      exact entersOff_of_switch
        (switch_next_of_entersOff hbefore (hreti n n.lt_succ_self) (hei n n.lt_succ_self))

/-- Only the last step before the acceptance may execute EI in vain. -/
theorem reenabled_of_entersOff (h : c.EntersOff) {n : Nat}
    (haccepts : (next^[n + 1] c).Accepts) : c.Reenabled 0 (n + 1) := by
  by_contra hnot
  simp only [Reenabled, not_or, not_exists, not_and] at hnot
  obtain ⟨hreti, hei⟩ := hnot
  have hoff : (next^[n] c).EntersOff :=
    entersOff_iterate h (fun l hl => hreti l l.zero_le (Nat.lt_succ_of_lt hl))
      fun l hl => hei l l.zero_le (Nat.succ_lt_succ hl)
  rw [Function.iterate_succ_apply'] at haccepts
  exact not_accepts_next_of_entersOff hoff (hreti n n.zero_le n.lt_succ_self) haccepts

theorem reenabled_of_switch (h : c.machine.bus.interrupts.switch = (false, none)) {n : Nat}
    (haccepts : (next^[n] c).Accepts) : c.Reenabled 0 n := by
  cases n with
  | zero =>
      obtain ⟨k, hk⟩ := accepts_iff.mp haccepts
      have hmaster : c.machine.bus.interrupts.master = false := congrArg Prod.fst h
      rw [Function.iterate_zero_apply] at hk
      rw [hk.master] at hmaster
      cases hmaster
  | succ n => exact reenabled_of_entersOff (entersOff_of_switch h) haccepts

theorem next_iterate_add (c : Console) (i n : Nat) :
    next^[i + n] c = next^[n] (next^[i] c) := by
  rw [Nat.add_comm, Function.iterate_add_apply]

/-- A run that starts after some steps is the rest of a longer one. -/
theorem Reenabled.of_iterate {i n : Nat} (h : (next^[i] c).Reenabled 0 n) :
    c.Reenabled i (i + n) := by
  rcases h with ⟨l, _, hl, hexecutes⟩ | ⟨l, _, hl, hexecutes⟩
  · rw [← next_iterate_add] at hexecutes
    exact .inl ⟨i + l, Nat.le_add_right i l, by omega, hexecutes⟩
  · rw [← next_iterate_add] at hexecutes
    exact .inr ⟨i + l, Nat.le_add_right i l, by omega, hexecutes⟩

theorem reenabled_between_acceptances {i j : Nat} (hij : i < j)
    (hi : (next^[i] c).Accepts) (hj : (next^[j] c).Accepts) : c.Reenabled i j := by
  obtain ⟨n, rfl⟩ := Nat.exists_eq_add_of_lt hij
  rw [Nat.add_assoc, next_iterate_add] at hj
  exact (reenabled_of_entersOff (entersOff_of_accepts hi) hj).of_iterate

theorem reenabled_after_di {i j : Nat} (hij : i < j) (hi : (next^[i] c).Executes .di)
    (hj : (next^[j] c).Accepts) : c.Reenabled (i + 1) j := by
  obtain ⟨n, rfl⟩ := Nat.exists_eq_add_of_le (Nat.succ_le_of_lt hij)
  rw [next_iterate_add] at hj
  refine (reenabled_of_switch ?_ hj).of_iterate
  rw [Function.iterate_succ_apply']
  exact switch_next_of_di hi

/-! ## Acceptances in a step -/

theorem countP_isAcceptance_le (c : Console) :
    (step c).events.countP Event.isAcceptance ≤ 1 := by
  rw [← Event.countP_isAcceptance_announcements, announcements_step, List.countP_append]
  cases c.machine.bus.interrupts.pending? with
  | none => cases c.machine.entry.upcoming? <;> simp [Event.isAcceptance]
  | some k => cases c.machine.entry.upcoming? <;> simp [Event.isAcceptance]

/-- In any run, between two steps that accept an interrupt the program has turned the master
switch on: from the first of them on, and before the second, it has executed RETI, or EI
with a step to follow.  The same goes for an acceptance after DI, and for one in a run that
starts with the switch off and not armed.  A step accepts one interrupt at most, and it does
so exactly if the switch is on and a source is enabled and has asked to interrupt; it is
then the most urgent of these. -/
theorem interrupts_nest_only_if_reenabled (c : Console) :
    (∀ i j : Nat, i < j → (next^[i] c).Accepts → (next^[j] c).Accepts → c.Reenabled i j) ∧
    (∀ i j : Nat, i < j → (next^[i] c).Executes .di → (next^[j] c).Accepts →
      c.Reenabled (i + 1) j) ∧
    (c.machine.bus.interrupts.switch = (false, none) → ∀ j : Nat, (next^[j] c).Accepts →
      c.Reenabled 0 j) ∧
    (step c).events.countP Event.isAcceptance ≤ 1 ∧
    (c.Accepts ↔
      c.machine.bus.interrupts.master = true ∧
        c.machine.bus.interrupts.enable &&& c.machine.bus.interrupts.requests &&& 0x1F ≠ 0) ∧
    ∀ k, .accepting k ∈ (step c).events ↔ c.machine.bus.interrupts.Pending k :=
  ⟨fun _ _ hij hi hj => reenabled_between_acceptances hij hi hj,
    fun _ _ hij hi hj => reenabled_after_di hij hi hj,
    fun hswitch _ hj => reenabled_of_switch hswitch hj,
    countP_isAcceptance_le c,
    accepts_iff.trans InterruptController.exists_pending_iff,
    fun _ => accepting_mem_events_iff⟩

/-- Two requested interrupts, and a program that executes DI, EI and NOP.  The handler of the
first interrupt returns at once. -/
def twiceInterrupted : Console :=
  ofMachine ⟨.initial, { Bus.initial with
    memory := (Memory.zero.writeAll 0x0100 [0xF3, 0xFB, 0x00]).writeAll 0x0040 [0xD9]
    interrupts := ⟨3, 3, false, none⟩ }⟩

/-- The two are accepted in the steps 3 and 4. -/
theorem twiceInterrupted_is_reenabled :
    (next^[0] twiceInterrupted).Executes .di ∧
      (next^[3] twiceInterrupted).Accepts ∧ (next^[4] twiceInterrupted).Accepts ∧
      twiceInterrupted.Reenabled 0 3 ∧ twiceInterrupted.Reenabled 1 3 ∧
      twiceInterrupted.Reenabled 3 4 := by
  have hdi : (next^[0] twiceInterrupted).Executes .di :=
    ⟨⟨⟨.di, .base, 1, ⟨4, none⟩, [], Opcode.untouched⟩, 0, 0x0100⟩, by decide +kernel, rfl⟩
  have hfirst : (next^[3] twiceInterrupted).Accepts := ⟨.vblank, by decide +kernel⟩
  have hsecond : (next^[4] twiceInterrupted).Accepts := ⟨.lcdStatus, by decide +kernel⟩
  obtain ⟨hnested, hdisabled, hoff, _⟩ := interrupts_nest_only_if_reenabled twiceInterrupted
  exact ⟨hdi, hfirst, hsecond, hoff rfl 3 hfirst, hdisabled 0 3 (by decide) hdi hfirst,
    hnested 3 4 (by decide) hfirst hsecond⟩

end Console

end Handheld
