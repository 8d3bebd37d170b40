import Mathlib.Logic.Function.Iterate
import Handheld.Proofs.Bus.View
import Handheld.Proofs.Machine.Composition
import Handheld.Proofs.Machine.Yields

/-!
# Machines that the processor cannot tell apart

A processor sees the bus through its addresses and the master switch, and through nothing else.
So from two machines with the same processor and buses that look alike, every action yields
the same, reports the same and leaves two such machines again (`GoesByView`).  This holds of the
actions that handlers are made of and of sequences, hence of all handlers, of a step, and of runs
of any length.
-/

namespace Handheld

namespace Machine

/-- The processors are the same, and the buses look alike to them. -/
structure LooksLike (m m' : Machine) : Prop where
  cpu : m.cpu = m'.cpu
  bus : m.bus.LooksLike m'.bus

end Machine

/-- What came of the two actions is the same as far as a processor can tell. -/
structure Outcome.LooksLike (o o' : Outcome Machine α) : Prop where
  result : o.result = o'.result
  events : o.events = o'.events
  state : o.state.LooksLike o'.state

namespace Machine

variable {m m' : Machine}

/-! ## Actions that go by what can be seen -/

/-- From machines that look alike, the same comes of the action. -/
def GoesByView (x : Action Machine α) : Prop :=
  ∀ ⦃m m' : Machine⦄, m.LooksLike m' → (x m).LooksLike (x m')

namespace GoesByView

variable {x : Action Machine α} {f : α → Action Machine β}

theorem pure (a : α) : GoesByView (Pure.pure a) := by
  intro m m' h
  exact ⟨rfl, rfl, h⟩

theorem stop (e : Stop) : GoesByView (.stop e : Action Machine α) := by
  intro m m' h
  exact ⟨rfl, rfl, h⟩

theorem bind (hx : GoesByView x) (hf : ∀ a, GoesByView (f a)) : GoesByView (x >>= f) := by
  intro m m' h
  obtain ⟨hresult, hevents, hstate⟩ := hx h
  rcases hm : x m with ⟨result, n, events⟩
  rcases hm' : x m' with ⟨result', n', events'⟩
  rw [hm, hm'] at hresult hevents hstate
  obtain rfl : result = result' := hresult
  obtain rfl : events = events' := hevents
  cases result with
  | error e =>
      rw [Action.bind_of_error hm, Action.bind_of_error hm']
      exact ⟨rfl, rfl, hstate⟩
  | ok a =>
      obtain ⟨hlast, hlater, hend⟩ := hf a hstate
      rw [Action.bind_of_ok hm, Action.bind_of_ok hm']
      exact ⟨hlast, congrArg (events ++ ·) hlater, hend⟩

theorem view {g : Machine → α} (hg : ∀ {m m' : Machine}, m.LooksLike m' → g m = g m') :
    GoesByView (.view g) := by
  intro m m' h
  exact ⟨congrArg Except.ok (hg h), rfl, h⟩

theorem report {g : Machine → List Event}
    (hg : ∀ {m m' : Machine}, m.LooksLike m' → g m = g m') : GoesByView (.report g) := by
  intro m m' h
  exact ⟨rfl, hg h, h⟩

theorem viewCpu (g : Cpu → α) : GoesByView (viewCpu g) :=
  .view fun h => congrArg g h.cpu

theorem modifyCpu (g : Cpu → Cpu) : GoesByView (modifyCpu g) := by
  intro m m' h
  exact ⟨rfl, rfl, congrArg g h.cpu, h.bus⟩

theorem modifyInterrupts (g : InterruptController → InterruptController) :
    GoesByView (modifyInterrupts g) := by
  intro m m' h
  exact ⟨rfl, rfl, h.cpu, h.bus.mapInterrupts g⟩

theorem read (address : Word) : GoesByView (read address) :=
  .view fun h => h.bus.read address

theorem write (address : Word) (v : Byte) : GoesByView (write address v) := by
  intro m m' h
  rw [write_eq, write_eq]
  exact ⟨rfl, h.bus.writeEvents address v, h.cpu, h.bus.write address v⟩

end GoesByView

/-- What the processor can see is all that the actions depend on which handlers are made of. -/
theorem isCompositional_goesByView :
    IsCompositional fun _ x => GoesByView x where
  pure := .pure
  bind := .bind
  fault e := .stop (.fault e)
  viewCpu := .viewCpu
  modifyCpu := .modifyCpu
  modifyInterrupts := .modifyInterrupts
  read := .read
  write := .write
  halting _ := .report fun _ => rfl
  stopping _ := .report fun _ => rfl

theorem execute_goesByView (i : Instruction) : GoesByView (execute i) :=
  isCompositional_goesByView.execute i

/-! ## Steps -/

namespace LooksLike

theorem isIdle (h : m.LooksLike m') : m.isIdle = m'.isIdle := by
  rw [Machine.isIdle, Machine.isIdle, h.cpu, h.bus.interrupts]

theorem snapshot (h : m.LooksLike m') :
    Snapshot.take m.cpu m.bus = Snapshot.take m'.cpu m'.bus := by
  simp only [Snapshot.take, h.cpu, h.bus.read]

/-- The instruction at the program counter is found by reading the bus. -/
theorem fetch (h : m.LooksLike m') : m.fetch = m'.fetch := by
  have hcode : m.codeAt = m'.codeAt := by
    simp only [codeAt, h.cpu, h.bus.read]
  have hoperand : ∀ op address, m.operandAt op address = m'.operandAt op address := by
    intro op address
    simp only [operandAt, h.bus.read, h.bus.readWord]
  simp only [Machine.fetch, hcode, hoperand, h.cpu]

end LooksLike

theorem fetchInstruction_goesByView : GoesByView fetchInstruction := by
  refine (GoesByView.view LooksLike.fetch).bind fun fetched => ?_
  cases fetched with
  | ok i => exact .pure i
  | error e => exact .stop _

theorem wake_goesByView : GoesByView wake := by
  have hreport : GoesByView (.report fun m => if m.cpu.halted then [.woken m.cpu.pc] else []) :=
    .report fun h => by rw [h.cpu]
  exact hreport.bind fun _ => .modifyCpu _

theorem finishInstruction_goesByView : GoesByView finishInstruction := by
  have hreport : GoesByView (.report fun m => if m.bus.interrupts.isDue then [.masterOn] else []) :=
    .report fun h => by rw [h.bus.interrupts]
  exact hreport.bind fun _ => .modifyInterrupts _

theorem run_goesByView (i : Instruction) : GoesByView (run i) := by
  have hreport : GoesByView (.report fun m => [.snapshot (.take m.cpu m.bus), .executing i]) :=
    .report fun h => by rw [h.snapshot]
  refine wake_goesByView.bind fun _ => hreport.bind fun _ => ?_
  refine (GoesByView.modifyCpu _).bind fun _ => (execute_goesByView i).bind fun completion => ?_
  exact (GoesByView.modifyCpu _).bind fun _ =>
    finishInstruction_goesByView.bind fun _ => .pure _

theorem step_goesByView : GoesByView step := by
  refine (GoesByView.view LooksLike.isIdle).bind fun idle => ?_
  split
  · exact .pure _
  · exact fetchInstruction_goesByView.bind run_goesByView

/-! ## Runs -/

/-- The machine after a step, also after one that stops. -/
def next (m : Machine) : Machine :=
  (step m).state

/-- However many steps are taken from both machines, the next one yields and reports the same,
the processors are the same and the buses look alike. -/
def RunsAlike (m m' : Machine) : Prop :=
  ∀ n,
    (step (next^[n] m)).result = (step (next^[n] m')).result ∧
    (step (next^[n] m)).events = (step (next^[n] m')).events ∧
    (next^[n] m).cpu = (next^[n] m').cpu ∧
    (next^[n] m).bus.LooksLike (next^[n] m').bus

theorem LooksLike.next_iterate (h : m.LooksLike m') (n : Nat) :
    (next^[n] m).LooksLike (next^[n] m') := by
  induction n with
  | zero => exact h
  | succ n ih =>
      rw [Function.iterate_succ_apply', Function.iterate_succ_apply']
      exact (step_goesByView ih).state

theorem LooksLike.runsAlike (h : m.LooksLike m') : RunsAlike m m' := by
  intro n
  have hn := h.next_iterate n
  have hstep := step_goesByView hn
  exact ⟨hstep.result, hstep.events, hn.cpu, hn.bus⟩

/-- The machine with all replaced on its bus that neither an address nor the switch shows. -/
def withHidden (m : Machine) (memory : Memory) (counter : Word) (owed : Nat)
    (sent : Array Byte) : Machine :=
  ⟨m.cpu, memory, m.bus.interrupts, { m.bus.timer with counter, owed }, sent⟩

theorem looksLike_withHidden (m : Machine) {memory : Memory} {counter : Word} (owed : Nat)
    (sent : Array Byte) (hmemory : ∀ a, ¬ Bus.IsHidden a → m.bus.memory.read a = memory.read a)
    (hcounter : Word.high m.bus.timer.counter = Word.high counter) :
    m.LooksLike (m.withHidden memory counter owed sent) where
  cpu := rfl
  bus := by
    refine Bus.looksLike_iff.mpr ⟨hmemory, rfl, ?_⟩
    intro r
    cases r with
    | divider => exact hcounter
    | value | modulo | control => rfl

/-- What can be seen of the bus is all that a run of the processor depends on: from the same
processor and buses that look alike, each step yields and reports the same and leaves the same
processor, and the buses still look alike.  So what memory holds in the cells that no address
leads to, the low byte of the counter, the ticks owed to the timer register and the bytes sent
never have an influence on a run. -/
theorem runs_go_by_view (m : Machine) :
    (∀ m' : Machine, m.cpu = m'.cpu → m.bus.LooksLike m'.bus → RunsAlike m m') ∧
    ∀ (memory : Memory) (counter : Word) (owed : Nat) (sent : Array Byte),
      (∀ a, ¬ Bus.IsHidden a → m.bus.memory.read a = memory.read a) →
      Word.high m.bus.timer.counter = Word.high counter →
      RunsAlike m (m.withHidden memory counter owed sent) := by
  constructor
  · intro m' hcpu hbus
    exact LooksLike.runsAlike ⟨hcpu, hbus⟩
  · intro memory counter owed sent hmemory hcounter
    exact (m.looksLike_withHidden owed sent hmemory hcounter).runsAlike

/-- A program that reads the divider at each turn: LD A,[HL] and JR -3. -/
def dividerReader : Machine :=
  running { Cpu.initial with h := 0xFF, l := 0x04 } [0x7E, 0x18, 0xFD]

/-- The same with another byte in the cell beneath the divider, in the middle of a period, and
with a byte sent before. -/
def dividerReaderApart : Machine :=
  dividerReader.withHidden (dividerReader.bus.memory.write 0xFF04 0x12) 0x00FF 3 #[0x41]

theorem dividerReader_goes_by_view :
    dividerReader ≠ dividerReaderApart ∧
      dividerReader.cpu = dividerReaderApart.cpu ∧
      dividerReader.bus.LooksLike dividerReaderApart.bus ∧
      (∀ a, ¬ Bus.IsHidden a → dividerReader.bus.memory.read a =
        (dividerReader.bus.memory.write 0xFF04 0x12).read a) ∧
      Word.high dividerReader.bus.timer.counter = Word.high 0x00FF ∧
      RunsAlike dividerReader dividerReaderApart ∧ RunsAlike dividerReaderApart dividerReader := by
  obtain ⟨-, hhidden⟩ := runs_go_by_view dividerReader
  obtain ⟨halike, -⟩ := runs_go_by_view dividerReaderApart
  have hmemory : ∀ a, ¬ Bus.IsHidden a → dividerReader.bus.memory.read a =
      (dividerReader.bus.memory.write 0xFF04 0x12).read a := by
    intro a ha
    have hne : a ≠ 0xFF04 := by
      rintro rfl
      exact ha (.inr (.inl (by decide)))
    rw [Memory.read_write_of_ne _ _ hne]
  have hcounter : Word.high dividerReader.bus.timer.counter = Word.high 0x00FF := by decide
  have hbus : dividerReader.bus.LooksLike dividerReaderApart.bus :=
    (dividerReader.looksLike_withHidden 3 #[0x41] hmemory hcounter).bus
  have hapart : dividerReader ≠ dividerReaderApart := by
    intro h
    have howed := congrArg (fun m => m.bus.timer.owed) h
    exact absurd howed (by decide)
  exact ⟨hapart, rfl, hbus, hmemory, hcounter, hhidden _ _ 3 #[0x41] hmemory hcounter,
    halike _ rfl hbus.symm⟩

end Machine

end Handheld
