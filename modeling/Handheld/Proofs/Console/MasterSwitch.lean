import Handheld.Proofs.Console.Step

/-!
# Arming the master switch

EI arms the master switch, which is to turn on when the instruction after it is done.
Between the two no interrupt is accepted, and what the second instruction does to the
switch depends on its mnemonic alone (`switch_of_step`).  DI disarms the switch.  A second
EI arms it anew, and so puts it off once more; every other instruction turns it on.
-/

namespace Handheld

/-! ## What an instruction does to the switch -/

namespace InterruptController

/-- The master switch and its delay after an instruction that starts with an armed one. -/
def switchAfter : Mnemonic → Bool × Option Nat
  | .di => (false, none)
  | .ei => (false, some 1)
  | _ => (true, none)

theorem switch_of_armed {ic : InterruptController} (h : ic.switch = (false, some 1))
    (mnemonic : Mnemonic) :
    (mnemonic.control ic).finishInstruction.switch = switchAfter mnemonic := by
  rcases ic with ⟨enable, requests, master, delay?⟩
  obtain ⟨rfl, rfl⟩ := Prod.mk.inj h
  cases mnemonic <;> rfl

/-- EI arms the switch that is off, whether it was armed already or not. -/
theorem switch_of_off {ic : InterruptController} (h : ic.master = false) :
    (Mnemonic.ei.control ic).finishInstruction.switch = (false, some 1) := by
  rcases ic with ⟨enable, requests, master, delay?⟩
  obtain rfl : master = false := h
  rfl

end InterruptController

namespace Machine

variable {m m' : Machine} {i : Instruction} {ticks : Nat} {events : List Event}

/-- `switchAfter` by the code of the instruction. -/
theorem switchAfter_of_fetch (h : m.fetch = .ok i) :
    InterruptController.switchAfter i.opcode.mnemonic =
      if m.bus.read m.cpu.pc = Opcode.diCode then (false, none)
      else if m.bus.read m.cpu.pc = Opcode.eiCode then (false, some 1)
      else (true, none) := by
  simp only [← mnemonic_eq_di_iff h, ← mnemonic_eq_ei_iff h]
  cases i.opcode.mnemonic <;> rfl

/-- The writes of an instruction do not reach the master switch. -/
theorem Executed.switch_eq (h : Executed m i ticks m' events) :
    ∃ ic : InterruptController, ic.switch = m.bus.interrupts.switch ∧
      m'.bus.interrupts = (i.opcode.mnemonic.control ic).finishInstruction := by
  obtain ⟨writes, hbus, _⟩ := h.written
  refine ⟨(m.bus.writeAll writes).interrupts, Bus.switch_writeAll m.bus writes, ?_⟩
  rw [hbus]
  rfl

/-- A step that executes an instruction on an armed switch. -/
theorem switch_of_step (harmed : m.bus.interrupts.switch = (false, some 1))
    (hidle : m.isIdle = false) (hfetch : m.fetch = .ok i) :
    ∃ ticks, (step m).result = .ok ticks ∧
      (step m).state.bus.interrupts.switch =
        InterruptController.switchAfter i.opcode.mnemonic := by
  obtain ⟨ticks, m', events, hrun, hexecuted⟩ := run_of_fits (fits_of_fetch hfetch) m
  obtain ⟨ic, hic, hm'⟩ := hexecuted.switch_eq
  refine ⟨ticks, ?_, ?_⟩
  · rw [step_of_fetch hidle hfetch, hrun]
  · rw [step_of_fetch hidle hfetch, hrun, hm']
    exact InterruptController.switch_of_armed (hic.trans harmed) i.opcode.mnemonic

/-- EI leaves the switch off and armed. -/
theorem switch_of_ei (hoff : m.bus.interrupts.master = false) (hidle : m.isIdle = false)
    (hcode : m.bus.read m.cpu.pc = Opcode.eiCode) :
    (step m).result = .ok 4 ∧ (step m).state.bus.interrupts.switch = (false, some 1) := by
  have hmarker : m.bus.read m.cpu.pc ≠ OpcodePage.marker := by
    rw [hcode]
    decide
  have hlookup : Opcode.lookup? .base (m.bus.read m.cpu.pc) =
      some ⟨.ei, .base, 1, ⟨4, none⟩, [], Opcode.untouched⟩ := by
    rw [hcode]
    decide +kernel
  have hfetch := fetch_of_lookup? hmarker hlookup
  obtain ⟨ticks, m', events, hrun, hexecuted⟩ := run_of_fits (fits_of_fetch hfetch) m
  obtain ⟨ic, hic, hm'⟩ := hexecuted.switch_eq
  have hticks : ticks = 4 := List.mem_singleton.mp hexecuted.timely
  have hicOff : ic.master = false := (congrArg Prod.fst hic).trans hoff
  rw [step_of_fetch hidle hfetch, hrun, hticks, hm']
  exact ⟨rfl, InterruptController.switch_of_off hicOff⟩

end Machine

namespace Console

open Machine

theorem pending?_of_armed {m : Machine} (h : m.bus.interrupts.switch = (false, some 1)) :
    m.bus.interrupts.pending? = none :=
  InterruptController.pending?_of_master_off (congrArg Prod.fst h)

/-- EI with the master switch off leaves it off.  From then on, in every machine with that
switch, whatever is enabled and requested, no interrupt is pending and none is accepted,
and the switch stays as it is while time passes or a step executes nothing.  The next
instruction that is executed turns it on, with two exceptions: DI disarms it, and another
EI leaves it off and armed as the first one did. -/
theorem ei_takes_effect_late (m : Machine) (hidle : m.isIdle = false)
    (hoff : m.bus.interrupts.master = false) (hcode : m.bus.read m.cpu.pc = 0xFB) :
    (Machine.step m).result = .ok 4 ∧
      (Machine.step m).state.bus.interrupts.switch = (false, some 1) ∧
      ∀ m' : Machine,
        m'.bus.interrupts.switch = (Machine.step m).state.bus.interrupts.switch →
          m'.bus.interrupts.pending? = none ∧
          acceptPending m' = ⟨.ok 0, m', []⟩ ∧
          (∀ ticks, (m'.after ticks).bus.interrupts.switch = (false, some 1)) ∧
          (m'.isIdle = true ∨ (∃ e, m'.fetch = .error e) → (Machine.step m').state = m') ∧
          ∀ i, m'.isIdle = false → m'.fetch = .ok i →
            ∃ ticks, (Machine.step m').result = .ok ticks ∧
              (Machine.step m').state.bus.interrupts.switch =
                if m'.bus.read m'.cpu.pc = 0xF3 then (false, none)
                else if m'.bus.read m'.cpu.pc = 0xFB then (false, some 1)
                else (true, none) := by
  obtain ⟨hresult, hswitch⟩ := switch_of_ei hoff hidle hcode
  refine ⟨hresult, hswitch, fun m' hm' => ?_⟩
  have harmed := hm'.trans hswitch
  have hpending := pending?_of_armed harmed
  refine ⟨hpending, acceptPending_of_not_pending hpending, fun ticks => ?_, ?_, ?_⟩
  · rw [after, Bus.switch_tick, harmed]
  · exact state_step_of_not_executing
  · intro i hidle' hfetch
    obtain ⟨ticks, hticks, hafter⟩ := switch_of_step harmed hidle' hfetch
    exact ⟨ticks, hticks, hafter.trans (switchAfter_of_fetch hfetch)⟩

/-- A machine that has just been started, with the given program. -/
def programmed (program : List Byte) : Machine :=
  ⟨.initial, { Bus.initial with memory := Memory.zero.writeAll 0x0100 program }⟩

/-- NOP after EI. -/
theorem ei_takes_effect_late_before_nop :
    (programmed [0xFB, 0x00]).isIdle = false ∧
      (programmed [0xFB, 0x00]).bus.interrupts.master = false ∧
      (programmed [0xFB, 0x00]).bus.read 0x0100 = 0xFB ∧
      (Machine.step (Machine.step (programmed [0xFB, 0x00])).state).state.bus.interrupts.switch =
        (true, none) := by
  have hidle : (programmed [0xFB, 0x00]).isIdle = false := by decide +kernel
  have hcode : (programmed [0xFB, 0x00]).bus.read 0x0100 = 0xFB := by decide +kernel
  obtain ⟨_, _, hlater⟩ := ei_takes_effect_late (programmed [0xFB, 0x00]) hidle rfl hcode
  obtain ⟨_, _, _, _, hnext⟩ := hlater (Machine.step (programmed [0xFB, 0x00])).state rfl
  obtain ⟨_, _, hswitch⟩ := hnext _ (by decide +kernel) (by rfl)
  refine ⟨hidle, rfl, hcode, hswitch.trans ?_⟩
  decide +kernel

/-- A second EI is an instruction other than DI that does not turn the switch on. -/
theorem not_ei_takes_effect_late :
    ¬ ∀ m : Machine, m.isIdle = false → m.bus.interrupts.master = false →
      m.bus.read m.cpu.pc = 0xFB →
        ∀ i, (Machine.step m).state.fetch = .ok i → i.opcode.mnemonic ≠ .di →
          (Machine.step (Machine.step m).state).state.bus.interrupts.switch = (true, none) := by
  intro h
  have hswitch := h (programmed [0xFB, 0xFB]) (by decide +kernel) rfl (by decide +kernel) _
    (by rfl) (by decide +kernel)
  revert hswitch
  decide +kernel

end Console

end Handheld
