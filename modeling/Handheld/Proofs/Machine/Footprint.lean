import Handheld.Proofs.Machine.Words
import Handheld.Proofs.Opcode.Footprint

/-!
# Where instructions write

An instruction writes to the addresses that the footprint of its opcode names, once each, and
in this order.  Most actions that a handler is made of report no write at all (`Quiet`).  Where
one does, all that comes before it leaves the machine as it is, so its address is the one from
before the instruction (`targets_execute`).
-/

namespace Handheld.Machine

variable {m : Machine}

/-! ## Actions that report no write -/

/-- The action reports no write, from whatever machine and whether it stops or not. -/
def Quiet (x : Action Machine α) : Prop :=
  ∀ m, Event.targets (x m).events = []

namespace Quiet

variable {x : Action Machine α} {f : α → Action Machine β}

theorem pure (a : α) : Quiet (Pure.pure a) := by
  intro m
  rfl

theorem bind (hx : Quiet x) (hf : ∀ a, Quiet (f a)) : Quiet (x >>= f) := by
  intro m
  have hfirst := hx m
  rcases h : x m with ⟨_ | a, m', events⟩
  · rw [h] at hfirst
    rw [Action.bind_of_error h]
    exact hfirst
  · rw [h] at hfirst
    rw [Action.bind_of_ok h, Event.targets_append, hfirst, hf a m']
    rfl

theorem expect (e : Except Fault α) (hf : ∀ a, Quiet (f a)) : Quiet (Action.expect e >>= f) := by
  refine bind ?_ hf
  intro m
  cases e with
  | ok a => rfl
  | error e => rfl

theorem view (g : Machine → α) : Quiet (.view g) := by
  intro m
  rfl

theorem viewCpu (g : Cpu → α) : Quiet (viewCpu g) :=
  .view _

theorem modify (g : Machine → Machine) : Quiet (.modify g) := by
  intro m
  rfl

theorem modifyCpu (g : Cpu → Cpu) : Quiet (modifyCpu g) :=
  .modify _

theorem read (address : Word) : Quiet (read address) :=
  .view _

theorem takeAddress (r : Register16) (step : Word) : Quiet (takeAddress r step) :=
  (viewCpu _).bind fun _ => (modifyCpu _).bind fun _ => .pure _

theorem pop : Quiet pop := by
  have hbyte : Quiet popByte :=
    (viewCpu _).bind fun _ => (modifyCpu _).bind fun _ => .read _
  exact hbyte.bind fun _ => hbyte.bind fun _ => .pure _

theorem done (i : Instruction) : Quiet (done i) :=
  .pure _

end Quiet

/-- What is reported after a write matters no more if no further write is. -/
theorem targets_bind_of_quiet {x : Action Machine α} {f : α → Action Machine β}
    (hf : ∀ a, Quiet (f a)) (m : Machine) :
    Event.targets ((x >>= f) m).events = Event.targets (x m).events := by
  rcases h : x m with ⟨_ | a, m', events⟩
  · rw [Action.bind_of_error h]
  · rw [Action.bind_of_ok h, Event.targets_append, hf a m', List.append_nil]

theorem expect_bind {e : Except Fault α} {a : α} {f : α → Action Machine β} (he : e = .ok a) :
    Action.expect e >>= f = f a := by
  subst he
  exact Action.pure_bind a f

/-! ## Reading operands -/

section Operands

variable (i : Instruction)

theorem readOperand_quiet (operand : Operand) : Quiet (readOperand i operand) := by
  cases operand with
  | register8 r | register16 r => exact (Quiet.viewCpu _).bind fun _ => .pure _
  | immediate8 | immediate16 | relative8 | bit _ | vector _ => exact .pure _
  | absolute | highPage => exact (Quiet.read _).bind fun _ => .pure _
  | highPageRegister r | indirect r =>
      exact (Quiet.viewCpu _).bind fun _ => (Quiet.read _).bind fun _ => .pure _
  | indirectIncrement r | indirectDecrement r =>
      exact (Quiet.takeAddress _ _).bind fun _ => (Quiet.read _).bind fun _ => .pure _
  | stackPointerOffset | condition c =>
      intro m
      rfl

/-- Reading reports nothing, and leaves the machine as it is unless a register moves. -/
theorem readOperand_silent {operand : Operand} (h : operand.width?.isSome = true) (m : Machine) :
    ∃ v m', readOperand i operand m = ⟨.ok v, m', []⟩ ∧ operand.width? = some v.width ∧
      (operand.stays = true → m' = m) := by
  cases operand with
  | stackPointerOffset | condition _ => cases h
  | indirectIncrement r | indirectDecrement r => exact ⟨_, _, rfl, rfl, nofun⟩
  | _ => exact ⟨_, m, rfl, rfl, fun _ => rfl⟩

/-- A byte that is read in place is all that the rest depends on. -/
theorem readByte_inPlace {operand : Operand} {f : Byte → Action Machine α}
    (hwidth : operand.width? = some .byte) (hstays : operand.stays = true) (m : Machine) :
    ∃ b, (do
      let v ← readOperand i operand
      let v ← .expect v.toByte
      f v) m = f b m := by
  have hvalue : operand.width?.isSome = true := by
    rw [hwidth]
    rfl
  obtain ⟨v, m', hread, hv, hkeeps⟩ := readOperand_silent i hvalue m
  rw [Action.bind_of_silent hread, hkeeps hstays]
  cases v with
  | byte b =>
      have hbyte : (Action.expect (OperandValue.toByte (.byte b)) >>= f) = f b := expect_bind rfl
      exact ⟨b, congrFun hbyte m⟩
  | word w =>
      rw [hwidth] at hv
      cases hv

/-! ## Writing -/

theorem targets_write (address : Word) (v : Byte) (m : Machine) :
    Event.targets (write address v m).events = [address] := by
  rw [write_eq]
  exact Event.targets_writeEvents m.bus address v

theorem targets_writeWord (address v : Word) (m : Machine) :
    Event.targets (writeWord address v m).events = [address, address + 1] := by
  rw [writeWord, Action.bind_of_ok (write_eq m address (Word.low v)), Event.targets_append,
    Event.targets_writeEvents, targets_write]
  rfl

theorem targets_push (v : Word) (m : Machine) :
    Event.targets (push v m).events = [m.cpu.sp - 1, m.cpu.sp - 2] := by
  rw [push_eq, Bus.targets_writeAllEvents, pushWrites, Word.sub_one_sub_one]
  rfl

theorem targets_callTo (address : Word) (m : Machine) :
    Event.targets (callTo address m).events = [m.cpu.sp - 1, m.cpu.sp - 2] := by
  rw [callTo_eq, Bus.targets_writeAllEvents, pushWrites, Word.sub_one_sub_one]
  rfl

/-- A place is written to where its footprint says. -/
theorem targets_writeOperand {target : Operand} {v : OperandValue}
    (h : target.takes v.width = true) (m : Machine) :
    Event.targets (writeOperand i target v m).events =
      (target.footprint v.width).addresses i.operand m.cpu := by
  cases v with
  | byte v =>
      cases target with
      | register8 r => rfl
      | absolute => exact targets_write _ v m
      | highPage =>
          rw [Operand.footprint, Footprint.addresses, ← highPageAddress_eq_add]
          exact targets_write _ v m
      | highPageRegister r =>
          rw [Operand.footprint, Footprint.addresses, ← highPageAddress_eq_add]
          exact targets_write _ v m
      | indirect r => exact targets_write _ v m
      | indirectIncrement r => exact targets_write _ v _
      | indirectDecrement r => exact targets_write _ v _
      | _ => cases h
  | word v =>
      cases target with
      | register16 r => rfl
      | absolute => exact targets_writeWord _ v m
      | _ => cases h

end Operands

/-! ## Handlers that write -/

section Handlers

variable (i : Instruction)

/-- A load reads before it writes, and if a register moves as it reads, it writes nowhere. -/
theorem targets_load
    (hfits : i.opcode.operands.length = 3 ∨
      i.opcode.firstIs (fun target => i.opcode.lastIs fun source => source.copiesTo target))
    (hreads : i.opcode.loadFootprint = .nowhere ∨ i.opcode.lastIs Operand.stays) (m : Machine) :
    Event.targets (load i m).events =
      (if i.opcode.operands.length = 3 then Footprint.nowhere
        else i.opcode.loadFootprint).addresses i.operand m.cpu := by
  by_cases hthree : i.opcode.operands.length = 3
  · rw [if_pos hthree, load, if_pos hthree]
    rfl
  obtain ⟨target, htarget, hlast⟩ := Opcode.firstOperand_of_firstIs (hfits.resolve_left hthree)
  obtain ⟨source, hsource, hcopies⟩ := Opcode.lastOperand_of_lastIs hlast
  obtain ⟨width, hwidth, htakes⟩ := Operand.takes_of_copiesTo hcopies
  have hvalue : source.width?.isSome = true := by
    rw [hwidth]
    rfl
  obtain ⟨v, m', hread, hv, hkeeps⟩ := readOperand_silent i hvalue m
  obtain rfl : width = v.width := Option.some.inj (hwidth.symm.trans hv)
  have hfootprint : i.opcode.loadFootprint = target.footprint v.width := by
    simp only [Opcode.loadFootprint, htarget, hsource, hwidth, Option.getD_some]
  -- The read may have moved the register that the target points with, but then it is no pointer.
  have hcells : (target.footprint v.width).addresses i.operand m'.cpu =
      (target.footprint v.width).addresses i.operand m.cpu := by
    rcases hreads with hnowhere | hsteady
    · rw [← hfootprint, hnowhere]
      rfl
    · obtain ⟨source', hsource', hstays⟩ := Opcode.lastOperand_of_lastIs hsteady
      obtain rfl : source = source' := Except.ok.inj (hsource.symm.trans hsource')
      rw [hkeeps hstays]
  rw [if_neg hthree, load, if_neg hthree, expect_bind htarget, expect_bind hsource,
    Action.bind_of_silent hread, targets_bind_of_quiet fun _ => .done i,
    targets_writeOperand i htakes, hfootprint, hcells]

theorem targets_transform {target : Operand} (op : Byte → Bool → AluResult)
    (hcell : target.isByteCell = true) (hstays : target.stays = true) (m : Machine) :
    Event.targets (transform i target op m).events =
      (target.footprint .byte).addresses i.operand m.cpu := by
  obtain ⟨b, hread⟩ := readByte_inPlace i
    (f := fun v => do
      let r ← viewCpu fun cpu => op v cpu.carry
      writeOperand i target (.byte r.value)
      return complete i r.flags)
    (Operand.width?_of_isByteCell hcell) hstays m
  have hview : viewCpu (fun cpu => op b cpu.carry) m = ⟨.ok (op b m.cpu.carry), m, []⟩ := rfl
  rw [transform, hread, Action.bind_of_silent hview, targets_bind_of_quiet fun _ => .pure _]
  exact targets_writeOperand i (v := .byte _) (Operand.takes_of_isByteCell hcell) m

theorem byteFootprint_of_ok {operand : Except Fault Operand} {target : Operand}
    (h : operand = .ok target) : Opcode.byteFootprint operand = target.footprint .byte := by
  rw [h]
  rfl

theorem targets_transformFirst (op : Byte → Bool → AluResult)
    (hfits : i.opcode.firstIs Operand.isByteCell) (hreads : i.opcode.firstIs Operand.stays)
    (m : Machine) :
    Event.targets (transformFirst i op m).events =
      (Opcode.byteFootprint i.opcode.firstOperand).addresses i.operand m.cpu := by
  obtain ⟨target, htarget, hcell, hstays⟩ := Opcode.firstOperand_of_both hfits hreads
  rw [transformFirst, expect_bind htarget, byteFootprint_of_ok htarget]
  exact targets_transform i op hcell hstays m

theorem targets_stepOperand (delta : Word) (op : Byte → AluResult)
    (hfits : i.opcode.firstIs fun target => target.isWordRegister || target.isByteCell)
    (hreads : i.opcode.firstIs Operand.stays) (m : Machine) :
    Event.targets (stepOperand i delta op m).events =
      (Opcode.byteFootprint i.opcode.firstOperand).addresses i.operand m.cpu := by
  obtain ⟨target, htarget, hkind, hstays⟩ := Opcode.firstOperand_of_both hfits hreads
  rw [stepOperand, expect_bind htarget, byteFootprint_of_ok htarget]
  by_cases hword : target.isWordRegister = true
  · obtain ⟨r, rfl⟩ := Operand.eq_of_isWordRegister hword
    rfl
  · -- The handler splits on the word registers, and the target is none of them.
    have hcell : target.isByteCell = true := by simpa [hword] using hkind
    have htransform := targets_transform i (fun v _ => op v) hcell hstays m
    split
    · exact absurd rfl hword
    · exact htransform

/-- The bit operations that write back. -/
theorem targets_transformBit (op : Fin 8 → Byte → Bool → AluResult)
    (hfirst : i.opcode.firstIs Operand.isBit) (hlast : i.opcode.lastIs Operand.isByteCell)
    (hreads : i.opcode.lastIs Operand.stays) (m : Machine) :
    Event.targets ((do
        let (index, target) ← Action.expect (bitOperands i)
        transform i target (op index)) m).events =
      (Opcode.byteFootprint i.opcode.lastOperand).addresses i.operand m.cpu := by
  obtain ⟨operand, hoperand, hbit⟩ := Opcode.firstOperand_of_firstIs hfirst
  obtain ⟨index, rfl⟩ := Operand.eq_of_isBit hbit
  obtain ⟨target, htarget, hcell, hstays⟩ := Opcode.lastOperand_of_both hlast hreads
  have hoperands : bitOperands i = .ok (index, target) := by
    simp only [bitOperands, hoperand, htarget]
    rfl
  rw [expect_bind hoperands, byteFootprint_of_ok htarget]
  exact targets_transform i (op index) hcell hstays m

theorem targets_resetBit (hfirst : i.opcode.firstIs Operand.isBit)
    (hlast : i.opcode.lastIs Operand.isByteCell) (hreads : i.opcode.lastIs Operand.stays)
    (m : Machine) :
    Event.targets (resetBit i m).events =
      (Opcode.byteFootprint i.opcode.lastOperand).addresses i.operand m.cpu :=
  targets_transformBit i (fun index v _ => Alu.unflagged (v &&& ~~~bitMask index)) hfirst hlast
    hreads m

theorem targets_setBit (hfirst : i.opcode.firstIs Operand.isBit)
    (hlast : i.opcode.lastIs Operand.isByteCell) (hreads : i.opcode.lastIs Operand.stays)
    (m : Machine) :
    Event.targets (setBit i m).events =
      (Opcode.byteFootprint i.opcode.lastOperand).addresses i.operand m.cpu :=
  targets_transformBit i (fun index v _ => Alu.unflagged (v ||| bitMask index)) hfirst hlast
    hreads m

/-- The operations that read a word and put one onto the stack. -/
theorem targets_of_pushing {f : OperandValue → Action Machine Completion}
    (hfits : i.opcode.firstIs (·.width?.isSome)) (hreads : i.opcode.firstIs Operand.stays)
    (hpushes : ∀ v m, Event.targets (f v m).events = [m.cpu.sp - 1, m.cpu.sp - 2])
    (m : Machine) :
    Event.targets ((do
        let source ← Action.expect i.opcode.firstOperand
        let v ← readOperand i source
        f v) m).events =
      (Footprint.stack none).addresses i.operand m.cpu := by
  obtain ⟨source, hsource, hvalue, hstays⟩ := Opcode.firstOperand_of_both hfits hreads
  obtain ⟨v, m', hread, hv, hkeeps⟩ := readOperand_silent i hvalue m
  obtain rfl := hkeeps hstays
  rw [expect_bind hsource, Action.bind_of_silent hread]
  exact hpushes v _

theorem targets_pushOperand (hfits : i.opcode.firstIs (·.width?.isSome))
    (hreads : i.opcode.firstIs Operand.stays) (m : Machine) :
    Event.targets (pushOperand i m).events = (Footprint.stack none).addresses i.operand m.cpu := by
  refine targets_of_pushing i hfits hreads (fun v m => ?_) m
  rw [targets_bind_of_quiet fun _ => .done i]
  exact targets_push v.toWord m

theorem targets_restart (hfits : i.opcode.firstIs (·.width?.isSome))
    (hreads : i.opcode.firstIs Operand.stays) (m : Machine) :
    Event.targets (restart i m).events = (Footprint.stack none).addresses i.operand m.cpu := by
  refine targets_of_pushing i hfits hreads (fun v m => ?_) m
  rw [targets_bind_of_quiet fun _ => .done i]
  exact targets_callTo v.toWord m

/-- A call pushes if its condition is met. -/
theorem targets_call (m : Machine) :
    Event.targets (branch i (callTo i.immediate16) m).events =
      (Footprint.stack i.opcode.condition?).addresses i.operand m.cpu := by
  have hview : viewCpu (fun cpu => cpu.meets i.opcode.condition?) m =
      ⟨.ok (m.cpu.meets i.opcode.condition?), m, []⟩ := rfl
  rw [branch, Action.bind_of_silent hview, Footprint.addresses]
  split
  · rw [targets_bind_of_quiet fun _ => .pure _, targets_callTo]
  · rfl

end Handlers

/-! ## Handlers that write nothing -/

section Silent

variable (i : Instruction)

theorem accumulate_quiet (op : Byte → Byte → Bool → AluResult) (keeps : Bool) :
    Quiet (accumulate i op keeps) := by
  refine .expect _ fun source => (readOperand_quiet i source).bind fun v => .expect _ fun v => ?_
  exact (Quiet.viewCpu _).bind fun r => (Quiet.modifyCpu _).bind fun _ => .pure _

theorem addOperand_quiet : Quiet (addOperand i) := by
  refine .expect _ fun target => ?_
  split
  · exact (Quiet.viewCpu _).bind fun r => (Quiet.modifyCpu _).bind fun _ => .pure _
  · refine .expect _ fun source => (readOperand_quiet i source).bind fun v => ?_
    exact (Quiet.viewCpu _).bind fun r => (Quiet.modifyCpu _).bind fun _ => .pure _
  · exact accumulate_quiet i _ true

theorem popOperand_quiet (hfits : i.opcode.firstIs (·.takes .word))
    (hwritten : i.opcode.firstIs fun target => target.footprint .word == .nowhere) :
    Quiet (popOperand i) := by
  obtain ⟨target, htarget, htakes, hnowhere⟩ := Opcode.firstOperand_of_both hfits hwritten
  refine Quiet.pop.bind fun v => ?_
  rw [expect_bind htarget]
  refine Quiet.bind (fun m => ?_) fun _ => (Quiet.viewCpu _).bind fun _ => .pure _
  rw [targets_writeOperand i htakes, OperandValue.width, eq_of_beq hnowhere]
  rfl

theorem testBit_quiet : Quiet (testBit i) := by
  refine .expect _ fun operands => (readOperand_quiet i operands.2).bind fun v => ?_
  exact .expect _ fun v => .pure _

theorem transformAccumulator_quiet (op : Cpu → AluResult) : Quiet (transformAccumulator i op) :=
  (Quiet.viewCpu _).bind fun _ => (Quiet.modifyCpu _).bind fun _ => .pure _

theorem branch_quiet {jump : Action Machine Unit} (h : Quiet jump) : Quiet (branch i jump) := by
  refine (Quiet.viewCpu _).bind fun taken => ?_
  split
  · exact h.bind fun _ => .pure _
  · exact .pure _

theorem jumpAbsolute_quiet : Quiet (jumpAbsolute i) :=
  .expect _ fun source => (readOperand_quiet i source).bind fun _ => .modifyCpu _

theorem returnBack_quiet : Quiet returnBack :=
  Quiet.pop.bind fun _ => .modifyCpu _

end Silent

/-! ## All handlers -/

/-- Every handler writes where the footprint of its opcode says. -/
theorem targets_execute {i : Instruction} (hfits : i.opcode.fits = true)
    (hreads : i.opcode.readsInPlace = true) (m : Machine) :
    Event.targets (execute i m).events = i.opcode.footprint.addresses i.operand m.cpu := by
  rcases i with ⟨⟨mnemonic, page, bytes, timing, operands, flags⟩, operand, address⟩
  cases mnemonic with dsimp only [execute, Opcode.footprint]
  | nop | scf | ccf | di | ei | halt | stop | cpl => rfl
  | ld | ldh =>
      simp only [Opcode.fits, Bool.or_eq_true, beq_iff_eq] at hfits
      simp only [Opcode.readsInPlace, Bool.or_eq_true, beq_iff_eq] at hreads
      exact targets_load _ hfits hreads m
  | push => exact targets_pushOperand _ hfits hreads m
  | rst => exact targets_restart _ hfits hreads m
  | pop => exact popOperand_quiet _ hfits hreads m
  | inc | dec => exact targets_stepOperand _ _ _ hfits hreads m
  | add => exact addOperand_quiet _ m
  | adc | sub | sbc | and | or | xor | cp => exact accumulate_quiet _ _ _ m
  | rlca | rrca | rla | rra | daa => exact transformAccumulator_quiet _ _ m
  | rlc | rrc | rl | rr | sla | sra | swap | srl =>
      exact targets_transformFirst _ _ hfits hreads m
  | bit => exact testBit_quiet _ m
  | res =>
      obtain ⟨hfirst, hlast⟩ := Bool.and_eq_true_iff.mp hfits
      exact targets_resetBit _ hfirst hlast hreads m
  | set =>
      obtain ⟨hfirst, hlast⟩ := Bool.and_eq_true_iff.mp hfits
      exact targets_setBit _ hfirst hlast hreads m
  | jp => exact branch_quiet _ (jumpAbsolute_quiet _) m
  | jr => exact branch_quiet _ (.modifyCpu _) m
  | call => exact targets_call _ m
  | ret => exact branch_quiet _ returnBack_quiet m
  | reti => exact (returnBack_quiet.bind fun _ => (Quiet.modify _).bind fun _ => .pure _) m

end Handheld.Machine
