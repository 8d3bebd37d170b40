import Handheld.Proofs.Bus.ReadBack
import Handheld.Proofs.Machine.Footprint

/-!
# What a step leaves of the bus

The footprint of a machine is where its next step writes, read off the code at the program
counter and the registers.  A step is the writes to these addresses, once each and in this
order, followed by what the code and the end of the instruction do to the master switch
(`bus_of_step`).  So all that the bus promises of a write to some other address holds of the
step (`keepsToFootprint_of_step`).
-/

namespace Handheld

namespace Machine

variable {m : Machine} {i : Instruction} {ticks : Nat}

/-! ## The footprint of a machine -/

/-- Where the next step writes. -/
def footprint (m : Machine) : List Word :=
  if m.isIdle then []
  else (Footprint.ofCode m.codeAt.1 m.codeAt.2).addresses (m.bus.readWord (m.cpu.pc + 1)) m.cpu

theorem nodup_footprint (m : Machine) : m.footprint.Nodup := by
  unfold footprint
  split
  · exact List.nodup_nil
  · exact Footprint.nodup_addresses _ _ _

/-- What the code at the program counter does to the master switch.  Only DI, EI and RETI have
a say in it. -/
def codeControl (m : Machine) : InterruptController → InterruptController :=
  if m.bus.read m.cpu.pc = 0xF3 then .turnOff
  else if m.bus.read m.cpu.pc = 0xFB then .arm
  else if m.bus.read m.cpu.pc = 0xD9 then .turnOn
  else id

/-- What the next step does to the master switch.  After the instruction an armed switch counts
down. -/
def stepControl (m : Machine) : InterruptController → InterruptController :=
  if m.isIdle then id else .finishInstruction ∘ m.codeControl

theorem control_of_fetch (h : m.fetch = .ok i) : i.opcode.mnemonic.control = m.codeControl := by
  have hdi := mnemonic_eq_di_iff h
  have hei := mnemonic_eq_ei_iff h
  have hreti := mnemonic_eq_reti_iff h
  simp only [Opcode.diCode, Opcode.eiCode, Opcode.retiCode] at hdi hei hreti
  simp only [codeControl, ← hdi, ← hei, ← hreti]
  cases i.opcode.mnemonic <;> rfl

/-! ## The writes of a step -/

/-- What follows the code is what the instruction brings along. -/
theorem addresses_of_fetch (h : m.fetch = .ok i) :
    i.opcode.footprint.addresses i.operand m.cpu =
      (Footprint.ofCode m.codeAt.1 m.codeAt.2).addresses (m.bus.readWord (m.cpu.pc + 1)) m.cpu := by
  obtain ⟨hfootprint, -, hbrings⟩ := Opcode.footprint_of_lookup? (lookup?_of_fetch h)
  rw [← hfootprint, operand_of_fetch h]
  unfold Opcode.bringsOperand at hbrings
  cases hkind : i.opcode.footprint with
  | highPage =>
      simp only [hkind, Bool.and_eq_true, beq_iff_eq] at hbrings
      rw [Footprint.addresses, Footprint.addresses, low_operandAt hbrings.1 hbrings.2,
        Bus.readWord, Word.low_ofBytes]
  | absolute | absoluteWord =>
      simp only [hkind, Bool.and_eq_true, beq_iff_eq] at hbrings
      rw [operandAt_eq_readWord hbrings.1 hbrings.2]
  | nowhere | pointer _ | highPageRegister _ | stack _ => rfl

/-- Waking and fetching move no register that an address comes from. -/
theorem addresses_entering (m : Machine) (i : Instruction) (operand : Word)
    (footprint : Footprint) :
    footprint.addresses operand (m.entering i).cpu = footprint.addresses operand m.cpu := by
  cases footprint with
  | pointer r => cases r <;> rfl
  | highPageRegister r => cases r <;> rfl
  | nowhere | highPage | absolute | absoluteWord | stack _ => rfl

theorem targets_run (h : m.fetch = .ok i) :
    Event.targets (run i m).events =
      (Footprint.ofCode m.codeAt.1 m.codeAt.2).addresses (m.bus.readWord (m.cpu.pc + 1)) m.cpu := by
  have hfits := fits_of_fetch h
  obtain ⟨-, hreads, -⟩ := Opcode.footprint_of_lookup? (lookup?_of_fetch h)
  obtain ⟨completion, m', events, _, hexecute, _⟩ := execute_of_fits hfits (m.entering i)
  have htargets := targets_execute hfits hreads (m.entering i)
  rw [hexecute, addresses_entering, addresses_of_fetch h] at htargets
  simp only [run_of_execute hexecute, Event.targets_append, targets_enteringEvents,
    targets_leavingEvents, List.nil_append, List.append_nil, htargets]

/-- A step writes to its footprint, and throws the master switch. -/
theorem bus_of_step (h : (step m).result = .ok ticks) :
    ∃ writes, writes.map Prod.fst = m.footprint ∧
      (step m).state.bus = (m.bus.writeAll writes).mapInterrupts m.stepControl := by
  cases step_cases m with
  | idles hidle hstep =>
      refine ⟨[], ?_, ?_⟩
      · rw [footprint, if_pos hidle]
        rfl
      · rw [hstep, stepControl, if_pos hidle]
        rfl
  | undefined e _ _ hstep =>
      rw [hstep] at h
      cases h
  | executes i ticks m' events hidle hfetch hstep hexecuted =>
      obtain ⟨writes, hbus, htargets⟩ := hexecuted.written
      have hrun := targets_run hfetch
      rw [← step_of_fetch hidle hfetch, hstep, htargets] at hrun
      have hawake : ¬ m.isIdle = true := by simp [hidle]
      refine ⟨writes, ?_, ?_⟩
      · rw [hrun, footprint, if_neg hawake]
      · rw [hstep, hbus, stepControl, if_neg hawake, control_of_fetch hfetch]

/-! ## The master switch and what is apart from it -/

theorem bytes_stepControl (m : Machine) (ic : InterruptController) :
    (m.stepControl ic).bytes = ic.bytes := by
  unfold stepControl
  split
  · rfl
  · rw [Function.comp_apply, InterruptController.bytes_finishInstruction]
    unfold codeControl
    split
    · exact InterruptController.bytes_control .di ic
    split
    · exact InterruptController.bytes_control .ei ic
    split
    · exact InterruptController.bytes_control .reti ic
    · rfl

theorem switch_stepControl_congr (m : Machine) {ic ic' : InterruptController}
    (h : ic.switch = ic'.switch) : (m.stepControl ic).switch = (m.stepControl ic').switch := by
  unfold stepControl
  split
  · exact h
  · apply InterruptController.switch_finishInstruction_congr
    unfold codeControl
    split
    · rfl
    split
    · exact InterruptController.switch_arm_congr h
    split
    · rfl
    · exact h

/-! ## The frame -/

/-- What the second machine has kept of the first one's bus, by the first one's footprint. -/
structure KeepsToFootprint (m m' : Machine) : Prop where
  read : ∀ b, b ∉ m.footprint → m'.bus.read b = m.bus.read b
  /-- A step does not move the timer forward by itself. -/
  timer : (∀ a ∈ m.footprint, ¬ (0xFF04 ≤ a ∧ a ≤ 0xFF07)) → m'.bus.timer = m.bus.timer
  enable : 0xFFFF ∉ m.footprint → m'.bus.interrupts.enable = m.bus.interrupts.enable
  requests : 0xFF0F ∉ m.footprint → m'.bus.interrupts.requests = m.bus.interrupts.requests
  /-- One byte is sent at most. -/
  sent : m'.bus.sent = m.bus.sent ∨
    0xFF02 ∈ m.footprint ∧ ∃ v, m'.bus.sent = m.bus.sent.push v
  /-- No write reaches the master switch. -/
  switch : m'.bus.interrupts.switch = (m.stepControl m.bus.interrupts).switch
  unchanged : m.footprint = [] →
    ∃ master delay?,
      m'.bus = { m.bus with interrupts := { m.bus.interrupts with master, delay? } }

/-- A step that goes on keeps all that is not in its footprint. -/
theorem keepsToFootprint_of_step (h : (step m).result = .ok ticks) :
    m.KeepsToFootprint (step m).state := by
  obtain ⟨writes, hwrites, hbus⟩ := bus_of_step h
  have hbytes := bytes_stepControl m (m.bus.writeAll writes).interrupts
  constructor
  case read =>
    intro b hb
    rw [hbus, Bus.read_mapInterrupts _ (bytes_stepControl m), Bus.read_writeAll _ (hwrites ▸ hb)]
  case timer =>
    intro hclear
    rw [hbus, Bus.timer_mapInterrupts]
    refine Bus.timer_writeAll _ fun r hr => ?_
    rw [hwrites] at hr
    exact hclear _ hr (Timer.Register.address_mem_range r)
  case enable =>
    intro henable
    rw [hbus]
    refine (congrArg Prod.fst hbytes).trans ?_
    exact Bus.enable_writeAll _ (hwrites ▸ henable)
  case requests =>
    intro hrequests
    rw [hbus]
    refine (congrArg Prod.snd hbytes).trans ?_
    exact Bus.requests_writeAll _ (hwrites ▸ hrequests)
  case sent =>
    have hsent := m.bus.sent_writeAll (hwrites ▸ m.nodup_footprint)
    rw [hwrites] at hsent
    rw [hbus]
    exact hsent
  case switch =>
    rw [hbus]
    exact switch_stepControl_congr m (Bus.switch_writeAll _ _)
  case unchanged =>
    intro hempty
    obtain rfl := List.map_eq_nil_iff.mp (hwrites.trans hempty)
    refine ⟨(m.stepControl m.bus.interrupts).master, (m.stepControl m.bus.interrupts).delay?, ?_⟩
    rw [hbus, Bus.writeAll_nil]
    exact Bus.mapInterrupts_of_bytes_eq hbytes

/-- A machine that is to push a word over the serial port.  Its high byte starts a transfer, and
its low byte comes too late to be sent. -/
def pushing : Machine :=
  running { Cpu.initial with b := 0x81, c := 0x42, sp := 0xFF03 } [0xC5]

theorem keepsToFootprint_of_pushing :
    (step pushing).result = .ok 16 ∧ pushing.footprint = [0xFF02, 0xFF01] ∧
      (step pushing).state.bus.timer = pushing.bus.timer ∧
      pushing.KeepsToFootprint (step pushing).state := by
  have hresult : (step pushing).result = .ok 16 := rfl
  have hfootprint : pushing.footprint = [0xFF02, 0xFF01] := by decide +kernel
  have hkeeps := keepsToFootprint_of_step hresult
  refine ⟨hresult, hfootprint, hkeeps.timer ?_, hkeeps⟩
  intro a ha
  rw [hfootprint, List.mem_cons, List.mem_singleton] at ha
  rcases ha with rfl | rfl
  · decide
  · decide

end Machine

end Handheld
