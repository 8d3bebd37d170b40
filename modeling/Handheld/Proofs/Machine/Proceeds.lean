import Handheld.Proofs.Announcements
import Handheld.Proofs.Bus.Writes
import Handheld.Proofs.Opcode.Fit

/-!
# Actions that go on

Nearly all that an instruction does to the machine is to work on the processor and to
write to the bus.  `Proceeds x p` says of an action that it goes on, from every
machine, with a value that satisfies `p`, that the bus sees the writes that it reports and
nothing else, and that it announces nothing.  Reading an operand that stands for a value
proceeds, and so does writing to one that takes it.
-/

namespace Handheld.Machine

/-! ## Traced changes -/

/-- The bus of the second machine is that of the first after the writes that the events
tell of, and the events announce nothing. -/
def Traced (m : Machine) (events : List Event) (m' : Machine) : Prop :=
  ∃ writes : List (Word × Byte),
    m'.bus = m.bus.writeAll writes ∧ Event.targets events = writes.map Prod.fst ∧
      Event.announcements events = []

theorem Traced.of_bus_eq {m m' : Machine} {events : List Event} (hbus : m'.bus = m.bus)
    (hevents : Event.targets events = []) (hquiet : Event.announcements events = []) :
    Traced m events m' :=
  ⟨[], hbus, hevents, hquiet⟩

theorem Traced.trans {m m' m'' : Machine} {events later : List Event}
    (h : Traced m events m') (h' : Traced m' later m'') :
    Traced m (events ++ later) m'' := by
  obtain ⟨writes, hbus, htargets, hquiet⟩ := h
  obtain ⟨writes', hbus', htargets', hquiet'⟩ := h'
  refine ⟨writes ++ writes', ?_, ?_, ?_⟩
  · rw [hbus', hbus, Bus.writeAll_append]
  · rw [Event.targets_append, htargets, htargets', List.map_append]
  · rw [Event.announcements_append, hquiet, hquiet', List.append_nil]

/-! ## Actions that proceed -/

/-- The action goes on with a value that satisfies `p`, the bus sees only the writes that it
reports, and nothing is announced. -/
def Proceeds (x : Action Machine α) (p : α → Prop) : Prop :=
  ∀ m, ∃ a m' events, x m = ⟨.ok a, m', events⟩ ∧ p a ∧ Traced m events m'

namespace Proceeds

variable {x : Action Machine α} {p q : α → Prop}

theorem mono (hx : Proceeds x p) (hpq : ∀ a, p a → q a) : Proceeds x q := by
  intro m
  obtain ⟨a, m', events, h, ha, htraced⟩ := hx m
  exact ⟨a, m', events, h, hpq a ha, htraced⟩

theorem pure {a : α} (ha : p a) : Proceeds (Pure.pure a) p := by
  intro m
  exact ⟨a, m, [], rfl, ha, .of_bus_eq rfl rfl rfl⟩

theorem bind {f : α → Action Machine β} {r : β → Prop} (hx : Proceeds x p)
    (hf : ∀ a, p a → Proceeds (f a) r) : Proceeds (x >>= f) r := by
  intro m
  obtain ⟨a, m', events, h, ha, htraced⟩ := hx m
  obtain ⟨b, m'', later, h', hb, htraced'⟩ := hf a ha m'
  refine ⟨b, m'', events ++ later, ?_, hb, htraced.trans htraced'⟩
  rw [Action.bind_of_ok h, h']

/-- As `bind`, when nothing is known of the first value. -/
theorem next {f : α → Action Machine β} {r : β → Prop} (hx : Proceeds x p)
    (hf : ∀ a, Proceeds (f a) r) : Proceeds (x >>= f) r :=
  hx.bind fun a _ => hf a

theorem expect {e : Except Fault α} {a : α} {f : α → Action Machine β} {r : β → Prop}
    (he : e = .ok a) (hf : Proceeds (f a) r) : Proceeds (Action.expect e >>= f) r := by
  subst he
  intro m
  obtain ⟨b, m', events, h, hb, htraced⟩ := hf m
  refine ⟨b, m', events, ?_, hb, htraced⟩
  show Action.bind _ f m = _
  simp only [Action.expect, Action.bind, Action.pure, h, List.nil_append]

end Proceeds

/-! ## The actions that instructions are made of -/

theorem viewCpu_proceeds (f : Cpu → α) : Proceeds (viewCpu f) fun _ => True := by
  intro m
  exact ⟨f m.cpu, m, [], rfl, trivial, .of_bus_eq rfl rfl rfl⟩

theorem modifyCpu_proceeds (f : Cpu → Cpu) : Proceeds (modifyCpu f) fun _ => True := by
  intro m
  exact ⟨(), ⟨f m.cpu, m.bus⟩, [], rfl, trivial, .of_bus_eq rfl rfl rfl⟩

theorem read_proceeds (address : Word) : Proceeds (read address) fun _ => True := by
  intro m
  exact ⟨m.bus.read address, m, [], rfl, trivial, .of_bus_eq rfl rfl rfl⟩

theorem write_proceeds (address : Word) (v : Byte) :
    Proceeds (write address v) fun _ => True := by
  intro m
  refine ⟨(), ⟨m.cpu, m.bus.write address v⟩, m.bus.writeEvents address v ++ [], rfl,
    trivial, [(address, v)], rfl, ?_, ?_⟩
  · rw [List.append_nil]
    exact Event.targets_writeEvents m.bus address v
  · rw [List.append_nil]
    exact Event.announcements_writeEvents m.bus address v

theorem writeWord_proceeds (address v : Word) :
    Proceeds (writeWord address v) fun _ => True :=
  (write_proceeds _ _).next fun _ => write_proceeds _ _

theorem pushByte_proceeds (v : Byte) : Proceeds (pushByte v) fun _ => True :=
  (modifyCpu_proceeds _).next fun _ => (viewCpu_proceeds _).next fun _ => write_proceeds _ _

theorem push_proceeds (v : Word) : Proceeds (push v) fun _ => True :=
  (pushByte_proceeds _).next fun _ => pushByte_proceeds _

theorem popByte_proceeds : Proceeds popByte fun _ => True :=
  (viewCpu_proceeds _).next fun _ => (modifyCpu_proceeds _).next fun _ => read_proceeds _

theorem pop_proceeds : Proceeds pop fun _ => True :=
  popByte_proceeds.next fun _ => popByte_proceeds.next fun _ => .pure trivial

theorem takeAddress_proceeds (r : Register16) (step : Word) :
    Proceeds (takeAddress r step) fun _ => True :=
  (viewCpu_proceeds _).next fun _ => (modifyCpu_proceeds _).next fun _ => .pure trivial

/-! ## Operands -/

variable (i : Instruction)

/-- An operand that stands for a value yields one of its size. -/
theorem readOperand_proceeds {operand : Operand} (h : operand.width?.isSome = true) :
    Proceeds (readOperand i operand) fun v => operand.width? = some v.width := by
  cases operand with
  | register8 r | register16 r =>
      exact (viewCpu_proceeds _).next fun _ => .pure rfl
  | immediate8 | immediate16 | relative8 | bit _ | vector _ =>
      exact .pure rfl
  | absolute | highPage =>
      exact (read_proceeds _).next fun _ => .pure rfl
  | highPageRegister r | indirect r =>
      exact (viewCpu_proceeds _).next fun _ => (read_proceeds _).next fun _ => .pure rfl
  | indirectIncrement r | indirectDecrement r =>
      exact (takeAddress_proceeds _ _).next fun _ => (read_proceeds _).next fun _ => .pure rfl
  | stackPointerOffset | condition _ =>
      cases h

/-- A place takes every value of a size that it is for. -/
theorem writeOperand_proceeds {target : Operand} {v : OperandValue}
    (h : target.takes v.width = true) :
    Proceeds (writeOperand i target v) fun _ => True := by
  cases v with
  | byte v =>
      cases target with
      | register8 r => exact modifyCpu_proceeds fun cpu => cpu.set8 r v
      | absolute => exact write_proceeds _ _
      | highPage => exact write_proceeds _ _
      | highPageRegister r => exact (viewCpu_proceeds _).next fun _ => write_proceeds _ _
      | indirect r => exact (viewCpu_proceeds _).next fun _ => write_proceeds _ _
      | indirectIncrement r => exact (takeAddress_proceeds _ _).next fun _ => write_proceeds _ _
      | indirectDecrement r => exact (takeAddress_proceeds _ _).next fun _ => write_proceeds _ _
      | _ => cases h
  | word v =>
      cases target with
      | register16 r => exact modifyCpu_proceeds fun cpu => cpu.set16 r v
      | absolute => exact writeWord_proceeds _ _
      | _ => cases h

end Handheld.Machine
