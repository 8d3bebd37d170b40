import Handheld.Machine.Execute

/-!
# What handlers are made of

A handler is a sequence of a few kinds of actions: it works on the processor, throws the master
switch, reads and writes single bytes, reports that the processor goes to sleep, and may stop with
a fault.  A property that all of these have, and that a sequence has if its parts have it
(`IsCompositional`), is one of every execution (`IsCompositional.execute`), whether the operands
fit the handler or not.
-/

namespace Handheld.Machine

/-- The property is one of the actions that handlers are made of, and of sequences of actions with
the property. -/
structure IsCompositional (P : (α : Type) → Action Machine α → Prop) : Prop where
  pure : ∀ {α : Type} (a : α), P α (Pure.pure a)
  bind : ∀ {α β : Type} {x : Action Machine α} {f : α → Action Machine β},
    P α x → (∀ a, P β (f a)) → P β (x >>= f)
  fault : ∀ {α : Type} (e : Fault), P α (.stop (.fault e))
  viewCpu : ∀ {α : Type} (g : Cpu → α), P α (viewCpu g)
  modifyCpu : ∀ g : Cpu → Cpu, P Unit (modifyCpu g)
  modifyInterrupts : ∀ g : InterruptController → InterruptController, P Unit (modifyInterrupts g)
  read : ∀ address : Word, P Byte (read address)
  write : ∀ (address : Word) (v : Byte), P Unit (write address v)
  halting : ∀ address : Word, P Unit (.report fun _ => [.halting address])
  stopping : ∀ address : Word, P Unit (.report fun _ => [.stopping address])

namespace IsCompositional

variable {P : (α : Type) → Action Machine α → Prop} {α : Type}

theorem expect (h : IsCompositional P) (e : Except Fault α) : P α (.expect e) := by
  cases e with
  | ok a => exact h.pure a
  | error e => exact h.fault e

/-! ## Several bytes -/

theorem writeWord (h : IsCompositional P) (address v : Word) : P Unit (writeWord address v) :=
  h.bind (h.write _ _) fun _ => h.write _ _

theorem takeAddress (h : IsCompositional P) (r : Register16) (step : Word) :
    P Word (takeAddress r step) :=
  h.bind (h.viewCpu _) fun _ => h.bind (h.modifyCpu _) fun _ => h.pure _

theorem push (h : IsCompositional P) (v : Word) : P Unit (push v) := by
  have hbyte : ∀ v : Byte, P Unit (pushByte v) := by
    intro v
    exact h.bind (h.modifyCpu _) fun _ => h.bind (h.viewCpu _) fun _ => h.write _ v
  exact h.bind (hbyte _) fun _ => hbyte _

theorem pop (h : IsCompositional P) : P Word pop := by
  have hbyte : P Byte popByte :=
    h.bind (h.viewCpu _) fun _ => h.bind (h.modifyCpu _) fun _ => h.read _
  exact h.bind hbyte fun _ => h.bind hbyte fun _ => h.pure _

/-! ## Operands -/

variable (i : Instruction)

theorem readOperand (h : IsCompositional P) (operand : Operand) :
    P OperandValue (readOperand i operand) := by
  cases operand with
  | register8 r | register16 r => exact h.bind (h.viewCpu _) fun _ => h.pure _
  | immediate8 | immediate16 | relative8 | bit _ | vector _ => exact h.pure _
  | absolute | highPage => exact h.bind (h.read _) fun _ => h.pure _
  | highPageRegister r | indirect r =>
      exact h.bind (h.viewCpu _) fun _ => h.bind (h.read _) fun _ => h.pure _
  | indirectIncrement r | indirectDecrement r =>
      exact h.bind (h.takeAddress _ _) fun _ => h.bind (h.read _) fun _ => h.pure _
  | stackPointerOffset | condition c => exact h.fault _

theorem writeOperand (h : IsCompositional P) (target : Operand) (v : OperandValue) :
    P Unit (writeOperand i target v) := by
  unfold Machine.writeOperand
  split
  · exact h.modifyCpu _
  · exact h.modifyCpu _
  · exact h.writeWord _ _
  · exact h.write _ _
  · exact h.write _ _
  · exact h.bind (h.viewCpu _) fun _ => h.write _ _
  · exact h.bind (h.viewCpu _) fun _ => h.write _ _
  · exact h.bind (h.takeAddress _ _) fun _ => h.write _ _
  · exact h.bind (h.takeAddress _ _) fun _ => h.write _ _
  · exact h.fault _

/-! ## Handlers -/

theorem done (h : IsCompositional P) : P Completion (done i) :=
  h.pure _

theorem load (h : IsCompositional P) : P Completion (load i) := by
  unfold Machine.load
  split
  · exact h.bind (h.viewCpu _) fun _ => h.bind (h.modifyCpu _) fun _ => h.pure _
  · refine h.bind (h.expect _) fun target => h.bind (h.expect _) fun source => ?_
    refine h.bind (h.readOperand i source) fun v => ?_
    exact h.bind (h.writeOperand i target v) fun _ => h.done i

theorem pushOperand (h : IsCompositional P) : P Completion (pushOperand i) := by
  refine h.bind (h.expect _) fun source => h.bind (h.readOperand i source) fun v => ?_
  exact h.bind (h.push _) fun _ => h.done i

theorem popOperand (h : IsCompositional P) : P Completion (popOperand i) := by
  refine h.bind h.pop fun v => h.bind (h.expect _) fun target => ?_
  refine h.bind (h.writeOperand i target _) fun _ => ?_
  exact h.bind (h.viewCpu _) fun _ => h.pure _

theorem accumulate (h : IsCompositional P) (op : Byte → Byte → Bool → AluResult) (keeps : Bool) :
    P Completion (accumulate i op keeps) := by
  refine h.bind (h.expect _) fun source => h.bind (h.readOperand i source) fun v => ?_
  refine h.bind (h.expect _) fun v => h.bind (h.viewCpu _) fun r => ?_
  exact h.bind (h.modifyCpu _) fun _ => h.pure _

theorem transform (h : IsCompositional P) (target : Operand) (op : Byte → Bool → AluResult) :
    P Completion (transform i target op) := by
  refine h.bind (h.readOperand i target) fun v => h.bind (h.expect _) fun v => ?_
  refine h.bind (h.viewCpu _) fun r => ?_
  exact h.bind (h.writeOperand i target _) fun _ => h.pure _

theorem transformFirst (h : IsCompositional P) (op : Byte → Bool → AluResult) :
    P Completion (transformFirst i op) :=
  h.bind (h.expect _) fun target => h.transform i target op

theorem transformAccumulator (h : IsCompositional P) (op : Cpu → AluResult) :
    P Completion (transformAccumulator i op) :=
  h.bind (h.viewCpu _) fun _ => h.bind (h.modifyCpu _) fun _ => h.pure _

theorem stepOperand (h : IsCompositional P) (delta : Word) (op : Byte → AluResult) :
    P Completion (stepOperand i delta op) := by
  refine h.bind (h.expect _) fun target => ?_
  split
  · exact h.bind (h.modifyCpu _) fun _ => h.done i
  · exact h.transform i _ _

theorem addOperand (h : IsCompositional P) : P Completion (addOperand i) := by
  refine h.bind (h.expect _) fun target => ?_
  split
  · exact h.bind (h.viewCpu _) fun _ => h.bind (h.modifyCpu _) fun _ => h.pure _
  · refine h.bind (h.expect _) fun source => h.bind (h.readOperand i source) fun v => ?_
    exact h.bind (h.viewCpu _) fun _ => h.bind (h.modifyCpu _) fun _ => h.pure _
  · exact h.accumulate i _ true

theorem testBit (h : IsCompositional P) : P Completion (testBit i) := by
  refine h.bind (h.expect _) fun operands => h.bind (h.readOperand i operands.2) fun v => ?_
  exact h.bind (h.expect _) fun v => h.pure _

/-- The bit operations that write back. -/
theorem transformBit (h : IsCompositional P) (op : Fin 8 → Byte → Bool → AluResult) :
    P Completion (do
      let (index, target) ← .expect (bitOperands i)
      Machine.transform i target (op index)) :=
  h.bind (h.expect _) fun operands => h.transform i operands.2 (op operands.1)

theorem callTo (h : IsCompositional P) (address : Word) : P Unit (callTo address) :=
  h.bind (h.viewCpu _) fun _ => h.bind (h.push _) fun _ => h.modifyCpu _

theorem returnBack (h : IsCompositional P) : P Unit returnBack :=
  h.bind h.pop fun _ => h.modifyCpu _

theorem jumpAbsolute (h : IsCompositional P) : P Unit (jumpAbsolute i) :=
  h.bind (h.expect _) fun source => h.bind (h.readOperand i source) fun _ => h.modifyCpu _

theorem branch (h : IsCompositional P) {jump : Action Machine Unit} (hjump : P Unit jump) :
    P Completion (branch i jump) := by
  refine h.bind (h.viewCpu _) fun taken => ?_
  split
  · exact h.bind hjump fun _ => h.pure _
  · exact h.pure _

theorem restart (h : IsCompositional P) : P Completion (restart i) := by
  refine h.bind (h.expect _) fun source => h.bind (h.readOperand i source) fun v => ?_
  exact h.bind (h.callTo _) fun _ => h.done i

theorem returnFromInterrupt (h : IsCompositional P) : P Completion (returnFromInterrupt i) :=
  h.bind h.returnBack fun _ => h.bind (h.modifyInterrupts _) fun _ => h.pure _

theorem sleep (h : IsCompositional P) {event : Event} (hevent : P Unit (.report fun _ => [event])) :
    P Completion (sleep i event) :=
  h.bind hevent fun _ => h.bind (h.modifyCpu _) fun _ => h.pure _

theorem execute (h : IsCompositional P) : P Completion (execute i) := by
  rcases i with ⟨⟨mnemonic, page, bytes, timing, operands, flags⟩, operand, address⟩
  cases mnemonic with dsimp only [Machine.execute]
  | nop | scf | ccf => exact h.done _
  | ld | ldh => exact h.load _
  | push => exact h.pushOperand _
  | pop => exact h.popOperand _
  | inc | dec => exact h.stepOperand _ _ _
  | add => exact h.addOperand _
  | adc | sub | sbc | and | or | xor | cp => exact h.accumulate _ _ _
  | rlca | rrca | rla | rra | daa => exact h.transformAccumulator _ _
  | cpl => exact h.bind (h.modifyCpu _) fun _ => h.done _
  | rlc | rrc | rl | rr | sla | sra | swap | srl => exact h.transformFirst _ _
  | bit => exact h.testBit _
  | res => exact h.transformBit _ fun index v _ => Alu.unflagged (v &&& ~~~bitMask index)
  | set => exact h.transformBit _ fun index v _ => Alu.unflagged (v ||| bitMask index)
  | jp => exact h.branch _ (h.jumpAbsolute _)
  | jr => exact h.branch _ (h.modifyCpu _)
  | call => exact h.branch _ (h.callTo _)
  | ret => exact h.branch _ h.returnBack
  | reti => exact h.returnFromInterrupt _
  | rst => exact h.restart _
  | di | ei => exact h.bind (h.modifyInterrupts _) fun _ => h.done _
  | halt => exact h.sleep _ (h.halting _)
  | stop => exact h.sleep _ (h.stopping _)

end IsCompositional

end Handheld.Machine
