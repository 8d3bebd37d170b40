import Handheld.Machine.Execute
import Handheld.Proofs.Machine.Proceeds

/-!
# What handlers do

The handler of an opcode whose operands fit it goes on, takes one of the times that the
opcode states, and touches the bus by the writes that it reports.  Three mnemonics also
throw the master switch when they are done (`Mnemonic.control`).  All of this is one
statement about `execute` (`execute_of_fits`), which later proofs use instead of the
handlers' definitions.
-/

namespace Handheld

/-- What an operation does to the interrupt controller apart from its writes. -/
def Mnemonic.control : Mnemonic → InterruptController → InterruptController
  | .di => .turnOff
  | .ei => .arm
  | .reti => .turnOn
  | _ => id

theorem Mnemonic.control_eq_id {mnemonic : Mnemonic} (hdi : mnemonic ≠ .di)
    (hei : mnemonic ≠ .ei) (hreti : mnemonic ≠ .reti) : mnemonic.control = id := by
  unfold Mnemonic.control
  split
  · exact absurd rfl hdi
  · exact absurd rfl hei
  · exact absurd rfl hreti
  · rfl

theorem InterruptController.bytes_control (mnemonic : Mnemonic) (ic : InterruptController) :
    (mnemonic.control ic).bytes = ic.bytes := by
  unfold Mnemonic.control
  split
  · rfl
  · rw [arm]
    split <;> rfl
  · rfl
  · rfl

namespace Machine

variable (i : Instruction)

/-- The completion takes one of the times that the instruction's opcode states. -/
def Timely (completion : Completion) : Prop :=
  completion.ticks ∈ i.opcode.timing.toList

theorem timely_complete (flags : Flags) : Timely i (complete i flags) :=
  List.mem_cons_self

theorem timely_completeBranch (taken : Bool) : Timely i (completeBranch i taken) := by
  cases taken with
  | true => exact List.mem_cons_self
  | false =>
      simp only [Timely, completeBranch, Timing.ticks, Timing.toList]
      cases i.opcode.timing.untaken? with
      | none => exact List.mem_cons_self
      | some ticks => exact List.mem_cons_of_mem _ List.mem_cons_self

theorem complete_proceeds (flags : Flags) :
    Proceeds (return complete i flags) (Timely i) :=
  .pure (timely_complete i flags)

theorem done_proceeds : Proceeds (done i) (Timely i) :=
  complete_proceeds i .clear

/-! ## Values of operands -/

theorem readOperand_of_copiesTo {source target : Operand}
    (h : source.copiesTo target = true) :
    Proceeds (readOperand i source) fun v => target.takes v.width = true := by
  obtain ⟨width, hwidth, htakes⟩ := Operand.takes_of_copiesTo h
  have hvalue : source.width?.isSome = true := by rw [hwidth]; rfl
  refine (readOperand_proceeds i hvalue).mono fun v hv => ?_
  rw [hwidth] at hv
  rwa [← Option.some.inj hv]

/-- From an operand of byte size comes a byte. -/
theorem readByte_proceeds {source : Operand} {f : Byte → Action Machine α} {p : α → Prop}
    (h : source.width? = some .byte) (hf : ∀ v, Proceeds (f v) p) :
    Proceeds (do
      let v ← readOperand i source
      let v ← .expect v.toByte
      f v) p := by
  have hvalue : source.width?.isSome = true := by rw [h]; rfl
  refine (readOperand_proceeds i hvalue).bind fun v hv => ?_
  cases v with
  | byte v => exact .expect rfl (hf v)
  | word v =>
      rw [h] at hv
      cases hv

/-! ## Loads -/

theorem load_proceeds
    (h : i.opcode.operands.length = 3 ∨
      i.opcode.firstIs (fun target => i.opcode.lastIs fun source => source.copiesTo target)) :
    Proceeds (load i) (Timely i) := by
  unfold load
  split
  · exact (viewCpu_proceeds _).next fun r => (modifyCpu_proceeds _).next fun _ =>
      complete_proceeds i _
  next hlength =>
    obtain ⟨target, htarget, hlast⟩ :=
      Opcode.firstOperand_of_firstIs (h.resolve_left hlength)
    obtain ⟨source, hsource, hcopies⟩ := Opcode.lastOperand_of_lastIs hlast
    refine .expect htarget (.expect hsource ?_)
    refine (readOperand_of_copiesTo i hcopies).bind fun v hv => ?_
    exact (writeOperand_proceeds i hv).next fun _ => done_proceeds i

theorem pushOperand_proceeds (h : i.opcode.firstIs (·.width?.isSome)) :
    Proceeds (pushOperand i) (Timely i) := by
  obtain ⟨source, hsource, hvalue⟩ := Opcode.firstOperand_of_firstIs h
  refine .expect hsource ((readOperand_proceeds i hvalue).next fun v => ?_)
  exact (push_proceeds _).next fun _ => done_proceeds i

theorem popOperand_proceeds (h : i.opcode.firstIs (·.takes .word)) :
    Proceeds (popOperand i) (Timely i) := by
  obtain ⟨target, htarget, htakes⟩ := Opcode.firstOperand_of_firstIs h
  refine pop_proceeds.next fun v => .expect htarget ?_
  refine (writeOperand_proceeds i htakes).next fun _ => ?_
  exact (viewCpu_proceeds _).next fun flags => complete_proceeds i flags

/-! ## Arithmetic and logic -/

theorem accumulate_proceeds (op : Byte → Byte → Bool → AluResult) (keeps : Bool)
    (h : i.opcode.lastIs (·.width? == some .byte)) :
    Proceeds (accumulate i op keeps) (Timely i) := by
  obtain ⟨source, hsource, hwidth⟩ := Opcode.lastOperand_of_lastIs h
  refine .expect hsource (readByte_proceeds i (beq_iff_eq.mp hwidth) fun v => ?_)
  refine (viewCpu_proceeds _).next fun r => (modifyCpu_proceeds _).next fun _ => ?_
  exact complete_proceeds i r.flags

theorem transform_proceeds {target : Operand} (op : Byte → Bool → AluResult)
    (h : target.isByteCell = true) : Proceeds (transform i target op) (Timely i) := by
  refine readByte_proceeds i (Operand.width?_of_isByteCell h) fun v => ?_
  refine (viewCpu_proceeds _).next fun r => ?_
  refine (writeOperand_proceeds i (Operand.takes_of_isByteCell h)).next fun _ => ?_
  exact complete_proceeds i r.flags

theorem transformFirst_proceeds (op : Byte → Bool → AluResult)
    (h : i.opcode.firstIs Operand.isByteCell) :
    Proceeds (transformFirst i op) (Timely i) := by
  obtain ⟨target, htarget, hcell⟩ := Opcode.firstOperand_of_firstIs h
  exact .expect htarget (transform_proceeds i op hcell)

theorem transformAccumulator_proceeds (op : Cpu → AluResult) :
    Proceeds (transformAccumulator i op) (Timely i) :=
  (viewCpu_proceeds _).next fun r => (modifyCpu_proceeds _).next fun _ =>
    complete_proceeds i r.flags

theorem complementAccumulator_proceeds : Proceeds (complementAccumulator i) (Timely i) :=
  (modifyCpu_proceeds _).next fun _ => done_proceeds i

theorem stepOperand_proceeds (delta : Word) (op : Byte → AluResult)
    (h : i.opcode.firstIs fun target => target.isWordRegister || target.isByteCell) :
    Proceeds (stepOperand i delta op) (Timely i) := by
  obtain ⟨target, htarget, hkind⟩ := Opcode.firstOperand_of_firstIs h
  refine .expect htarget ?_
  by_cases hword : target.isWordRegister = true
  · obtain ⟨r, rfl⟩ := Operand.eq_of_isWordRegister hword
    exact (modifyCpu_proceeds _).next fun _ => done_proceeds i
  · have hcell : target.isByteCell = true := by simpa [hword] using hkind
    have htransform := transform_proceeds i (fun v _ => op v) hcell
    split
    · exact absurd rfl hword
    · exact htransform

theorem addOperand_proceeds
    (h : i.opcode.firstIs fun target =>
      target == .register16 .sp ||
        i.opcode.lastIs fun source =>
          if target = .register16 .hl then source.width?.isSome
          else source.width? == some .byte) :
    Proceeds (addOperand i) (Timely i) := by
  obtain ⟨target, htarget, hkind⟩ := Opcode.firstOperand_of_firstIs h
  refine .expect htarget ?_
  split
  · exact (viewCpu_proceeds _).next fun r => (modifyCpu_proceeds _).next fun _ =>
      complete_proceeds i _
  · obtain ⟨source, hsource, hvalue⟩ := Opcode.lastOperand_of_lastIs (by simpa using hkind)
    refine .expect hsource ((readOperand_proceeds i hvalue).next fun v => ?_)
    exact (viewCpu_proceeds _).next fun r => (modifyCpu_proceeds _).next fun _ =>
      complete_proceeds i _
  next hsp hhl =>
    have hnotSp : target ≠ .register16 .sp := hsp
    have hnotHl : target ≠ .register16 .hl := hhl
    have hlast : i.opcode.lastIs (·.width? == some .byte) = true := by
      simpa [hnotSp, hnotHl] using hkind
    exact accumulate_proceeds i _ true hlast

/-! ## Single bits -/

theorem bitOperands_of_fits {p : Operand → Bool} (hfirst : i.opcode.firstIs Operand.isBit)
    (hlast : i.opcode.lastIs p) :
    ∃ index target, bitOperands i = .ok (index, target) ∧ p target = true := by
  obtain ⟨operand, hoperand, hbit⟩ := Opcode.firstOperand_of_firstIs hfirst
  obtain ⟨index, rfl⟩ := Operand.eq_of_isBit hbit
  obtain ⟨target, htarget, hp⟩ := Opcode.lastOperand_of_lastIs hlast
  refine ⟨index, target, ?_, hp⟩
  simp only [bitOperands, hoperand, htarget]
  rfl

theorem testBit_proceeds (hfirst : i.opcode.firstIs Operand.isBit)
    (hlast : i.opcode.lastIs (·.width? == some .byte)) :
    Proceeds (testBit i) (Timely i) := by
  obtain ⟨index, target, hoperands, hwidth⟩ := bitOperands_of_fits i hfirst hlast
  refine .expect hoperands (readByte_proceeds i (beq_iff_eq.mp hwidth) fun v => ?_)
  exact complete_proceeds i _

theorem resetBit_proceeds (hfirst : i.opcode.firstIs Operand.isBit)
    (hlast : i.opcode.lastIs Operand.isByteCell) : Proceeds (resetBit i) (Timely i) := by
  obtain ⟨index, target, hoperands, hcell⟩ := bitOperands_of_fits i hfirst hlast
  exact .expect hoperands (transform_proceeds i _ hcell)

theorem setBit_proceeds (hfirst : i.opcode.firstIs Operand.isBit)
    (hlast : i.opcode.lastIs Operand.isByteCell) : Proceeds (setBit i) (Timely i) := by
  obtain ⟨index, target, hoperands, hcell⟩ := bitOperands_of_fits i hfirst hlast
  exact .expect hoperands (transform_proceeds i _ hcell)

/-! ## Jumps -/

theorem jumpTo_proceeds (address : Word) : Proceeds (jumpTo address) fun _ => True :=
  modifyCpu_proceeds _

theorem callTo_proceeds (address : Word) : Proceeds (callTo address) fun _ => True :=
  (viewCpu_proceeds _).next fun _ => (push_proceeds _).next fun _ => jumpTo_proceeds _

theorem returnBack_proceeds : Proceeds returnBack fun _ => True :=
  pop_proceeds.next fun _ => jumpTo_proceeds _

theorem jumpRelative_proceeds : Proceeds (jumpRelative i) fun _ => True :=
  modifyCpu_proceeds _

theorem jumpAbsolute_proceeds (h : i.opcode.lastIs (·.width?.isSome)) :
    Proceeds (jumpAbsolute i) fun _ => True := by
  obtain ⟨source, hsource, hvalue⟩ := Opcode.lastOperand_of_lastIs h
  exact .expect hsource ((readOperand_proceeds i hvalue).next fun _ => jumpTo_proceeds _)

theorem branch_proceeds {jump : Action Machine Unit} (h : Proceeds jump fun _ => True) :
    Proceeds (branch i jump) (Timely i) := by
  refine (viewCpu_proceeds _).next fun taken => ?_
  cases taken with
  | true => exact h.next fun _ => .pure (timely_completeBranch i true)
  | false => exact .pure (timely_completeBranch i false)

theorem restart_proceeds (h : i.opcode.firstIs (·.width?.isSome)) :
    Proceeds (restart i) (Timely i) := by
  obtain ⟨source, hsource, hvalue⟩ := Opcode.firstOperand_of_firstIs h
  refine .expect hsource ((readOperand_proceeds i hvalue).next fun _ => ?_)
  exact (callTo_proceeds _).next fun _ => done_proceeds i

theorem sleep_proceeds {event : Event} (h : event.target? = none)
    (hquiet : event.announces = false) : Proceeds (sleep i event) (Timely i) := by
  intro m
  refine ⟨complete i .clear, ⟨{ m.cpu with halted := true }, m.bus⟩, [event], rfl,
    timely_complete i .clear, .of_bus_eq rfl ?_ ?_⟩
  · simp [Event.targets, h]
  · simp [Event.announcements, hquiet]

/-! ## All handlers -/

variable {i}

/-- The handlers that leave the master switch alone. -/
theorem execute_proceeds (h : i.opcode.fits = true) (hdi : i.opcode.mnemonic ≠ .di)
    (hei : i.opcode.mnemonic ≠ .ei) (hreti : i.opcode.mnemonic ≠ .reti) :
    Proceeds (execute i) (Timely i) := by
  rcases i with ⟨⟨mnemonic, page, bytes, timing, operands, flags⟩, operand, address⟩
  cases mnemonic with dsimp only [execute]
  | di => exact absurd rfl hdi
  | ei => exact absurd rfl hei
  | reti => exact absurd rfl hreti
  | nop | scf | ccf => exact done_proceeds _
  | ld | ldh =>
      refine load_proceeds _ ?_
      simpa [Opcode.fits] using h
  | push => exact pushOperand_proceeds _ h
  | pop => exact popOperand_proceeds _ h
  | inc | dec => exact stepOperand_proceeds _ _ _ h
  | add => exact addOperand_proceeds _ h
  | adc | sub | sbc | and | or | xor | cp => exact accumulate_proceeds _ _ _ h
  | rlca | rrca | rla | rra | daa => exact transformAccumulator_proceeds _ _
  | cpl => exact complementAccumulator_proceeds _
  | rlc | rrc | rl | rr | sla | sra | swap | srl => exact transformFirst_proceeds _ _ h
  | bit =>
      obtain ⟨hfirst, hlast⟩ := Bool.and_eq_true_iff.mp h
      exact testBit_proceeds _ hfirst hlast
  | res =>
      obtain ⟨hfirst, hlast⟩ := Bool.and_eq_true_iff.mp h
      exact resetBit_proceeds _ hfirst hlast
  | set =>
      obtain ⟨hfirst, hlast⟩ := Bool.and_eq_true_iff.mp h
      exact setBit_proceeds _ hfirst hlast
  | jp => exact branch_proceeds _ (jumpAbsolute_proceeds _ h)
  | jr => exact branch_proceeds _ (jumpRelative_proceeds _)
  | call => exact branch_proceeds _ (callTo_proceeds _)
  | ret => exact branch_proceeds _ returnBack_proceeds
  | rst => exact restart_proceeds _ h
  | halt | stop => exact sleep_proceeds _ rfl rfl

variable (i) in
/-- From `m`, the execution of an instruction goes on in time, the bus sees the writes
that it reports, and the interrupt controller what the mnemonic does to it.  It announces
nothing more. -/
def ExecutesFrom (m : Machine) : Prop :=
  ∃ completion m' events writes,
    execute i m = ⟨.ok completion, m', events⟩ ∧ Timely i completion ∧
      m'.bus = (m.bus.writeAll writes).mapInterrupts i.opcode.mnemonic.control ∧
      Event.targets events = writes.map Prod.fst ∧
      Event.announcements events = []

/-- An instruction that only throws the master switch. -/
theorem ExecutesFrom.of_control
    (h : execute i = do
      modifyInterrupts i.opcode.mnemonic.control
      done i)
    (m : Machine) : ExecutesFrom i m := by
  refine ⟨complete i .clear, ⟨m.cpu, m.bus.mapInterrupts i.opcode.mnemonic.control⟩, [], [],
    ?_, timely_complete i .clear, rfl, rfl, rfl⟩
  rw [h]
  rfl

theorem ExecutesFrom.of_returnFromInterrupt (h : execute i = returnFromInterrupt i)
    (hcontrol : i.opcode.mnemonic.control = .turnOn) (m : Machine) : ExecutesFrom i m := by
  obtain ⟨_, m', events, hreturn, _, writes, hbus, htargets, hquiet⟩ := returnBack_proceeds m
  refine ⟨complete i .clear, ⟨m'.cpu, m'.bus.mapInterrupts .turnOn⟩, events ++ [], writes,
    ?_, timely_complete i .clear, ?_, ?_, ?_⟩
  · rw [h, returnFromInterrupt, Action.bind_of_ok hreturn]
    rfl
  · rw [hbus, hcontrol]
  · rw [List.append_nil, htargets]
  · rw [List.append_nil, hquiet]

/-- Every handler does as its mnemonic says, if the operands fit it. -/
theorem execute_of_fits (h : i.opcode.fits = true) (m : Machine) : ExecutesFrom i m := by
  by_cases hdi : i.opcode.mnemonic = .di
  · exact .of_control (by simp only [execute, hdi, Mnemonic.control]) m
  by_cases hei : i.opcode.mnemonic = .ei
  · exact .of_control (by simp only [execute, hei, Mnemonic.control]) m
  by_cases hreti : i.opcode.mnemonic = .reti
  · exact .of_returnFromInterrupt (by simp only [execute, hreti]) (by rw [hreti]; rfl) m
  obtain ⟨completion, m', events, hexecute, htimely, writes, hbus, htraced⟩ :=
    execute_proceeds h hdi hei hreti m
  refine ⟨completion, m', events, writes, hexecute, htimely, ?_, htraced⟩
  rw [hbus, Mnemonic.control_eq_id hdi hei hreti, Bus.mapInterrupts_id]

end Machine

end Handheld
