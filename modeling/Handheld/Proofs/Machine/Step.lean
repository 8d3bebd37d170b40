import Handheld.Machine.Step
import Handheld.Proofs.Machine.Handlers

/-!
# What a step does

A step idles, meets an undefined opcode, or executes an instruction, and `step_cases`
says in full what each of the three does.  An executed instruction fits its handler,
since it comes from the tables, so no step stops with a fault.  The events of a step
tell of its writes to the bus and announce the instruction; apart from the writes, the bus
changes only by what the mnemonic and the end of the instruction do to the master switch.
-/

namespace Handheld.Machine

variable {m : Machine} {i : Instruction} {e : UndefinedOpcode}

/-! ## Fetching -/

theorem lookup?_of_fetch (h : m.fetch = .ok i) :
    Opcode.lookup? m.codeAt.1 m.codeAt.2 = some i.opcode := by
  unfold fetch at h
  dsimp only at h
  split at h
  next op hlookup =>
    obtain rfl := Except.ok.inj h
    exact hlookup
  next => cases h

theorem operand_of_fetch (h : m.fetch = .ok i) :
    i.operand = m.operandAt i.opcode m.cpu.pc := by
  unfold fetch at h
  dsimp only at h
  split at h
  next op hlookup =>
    obtain rfl := Except.ok.inj h
    rfl
  next => cases h

theorem fits_of_fetch (h : m.fetch = .ok i) : i.opcode.fits = true :=
  Opcode.fits_of_lookup? (lookup?_of_fetch h)

theorem ticks_of_fetch (h : m.fetch = .ok i) {ticks : Nat}
    (hticks : ticks ∈ i.opcode.timing.toList) : 4 ∣ ticks ∧ 4 ≤ ticks ∧ ticks ≤ 24 :=
  Opcode.ticks_of_lookup? (lookup?_of_fetch h) hticks

theorem codeAt_of_marker (h : m.bus.read m.cpu.pc = OpcodePage.marker) :
    m.codeAt = (.extended, m.bus.read (m.cpu.pc + 1)) := by
  simp only [codeAt, h, if_true]

theorem codeAt_of_ne_marker (h : m.bus.read m.cpu.pc ≠ OpcodePage.marker) :
    m.codeAt = (.base, m.bus.read m.cpu.pc) := by
  simp only [codeAt, h, if_false]

theorem fetch_of_lookup? {op : Opcode} (hmarker : m.bus.read m.cpu.pc ≠ OpcodePage.marker)
    (hlookup : Opcode.lookup? .base (m.bus.read m.cpu.pc) = some op) :
    m.fetch = .ok ⟨op, m.operandAt op m.cpu.pc, m.cpu.pc⟩ := by
  simp only [fetch, codeAt_of_ne_marker hmarker, hlookup]

/-- The marker of the extended page never leads to an undefined opcode. -/
theorem fetch_of_marker (h : m.bus.read m.cpu.pc = OpcodePage.marker) :
    ∃ i, m.fetch = .ok i := by
  obtain ⟨op, hop⟩ :=
    Option.isSome_iff_exists.mp (Opcode.lookup?_extended (m.bus.read (m.cpu.pc + 1)))
  refine ⟨⟨op, m.operandAt op m.cpu.pc, m.cpu.pc⟩, ?_⟩
  simp only [fetch, codeAt_of_marker h, hop]

/-- Fetching fails at the undefined codes of the base page, and nowhere else. -/
theorem fetch_eq_error_iff :
    m.fetch = .error e ↔
      m.bus.read m.cpu.pc ∈ Opcode.undefinedCodes ∧
        e = ⟨m.bus.read m.cpu.pc, .base, m.cpu.pc⟩ := by
  by_cases hmarker : m.bus.read m.cpu.pc = OpcodePage.marker
  · obtain ⟨i, hi⟩ := fetch_of_marker hmarker
    have hdefined : m.bus.read m.cpu.pc ∉ Opcode.undefinedCodes := by
      rw [hmarker]
      decide
    simp [hi, hdefined]
  · have hcode := codeAt_of_ne_marker hmarker
    cases hlookup : Opcode.lookup? .base (m.bus.read m.cpu.pc) with
    | none =>
        have hundefined :=
          ((Opcode.lookup?_base_eq_none_iff _).mp hlookup).resolve_right hmarker
        simp only [fetch, hcode, hlookup, Except.error.injEq, hundefined, true_and]
        exact eq_comm
    | some op =>
        have hdefined : m.bus.read m.cpu.pc ∉ Opcode.undefinedCodes := by
          intro hundefined
          have hnone := (Opcode.lookup?_base_eq_none_iff _).mpr (.inl hundefined)
          rw [hnone] at hlookup
          cases hlookup
        simp [fetch_of_lookup? hmarker hlookup, hdefined]

/-! ## Which instruction is met -/

theorem codeAt_eq_base_iff {code : Byte} (hcode : code ≠ OpcodePage.marker) :
    m.codeAt.1 = .base ∧ m.codeAt.2 = code ↔ m.bus.read m.cpu.pc = code := by
  by_cases hmarker : m.bus.read m.cpu.pc = OpcodePage.marker
  · rw [codeAt_of_marker hmarker, hmarker]
    simp [Ne.symm hcode]
  · rw [codeAt_of_ne_marker hmarker]
    simp

theorem mnemonic_eq_di_iff (h : m.fetch = .ok i) :
    i.opcode.mnemonic = .di ↔ m.bus.read m.cpu.pc = Opcode.diCode := by
  rw [(Opcode.mnemonic_of_lookup? (lookup?_of_fetch h)).1, codeAt_eq_base_iff (by decide)]

theorem mnemonic_eq_ei_iff (h : m.fetch = .ok i) :
    i.opcode.mnemonic = .ei ↔ m.bus.read m.cpu.pc = Opcode.eiCode := by
  rw [(Opcode.mnemonic_of_lookup? (lookup?_of_fetch h)).2.1, codeAt_eq_base_iff (by decide)]

theorem mnemonic_eq_reti_iff (h : m.fetch = .ok i) :
    i.opcode.mnemonic = .reti ↔ m.bus.read m.cpu.pc = Opcode.retiCode := by
  rw [(Opcode.mnemonic_of_lookup? (lookup?_of_fetch h)).2.2, codeAt_eq_base_iff (by decide)]

/-! ## Sleeping -/

theorem isIdle_eq_true_iff :
    m.isIdle = true ↔
      m.cpu.halted = true ∧
        m.bus.interrupts.enable &&& m.bus.interrupts.requests &&& 0x1F = 0 := by
  simp [isIdle, InterruptController.wakes, InterruptController.active,
    InterruptController.sourceMask]

theorem isIdle_eq_false_iff :
    m.isIdle = false ↔
      m.cpu.halted = false ∨
        m.bus.interrupts.enable &&& m.bus.interrupts.requests &&& 0x1F ≠ 0 := by
  rw [← Bool.not_eq_true, isIdle_eq_true_iff, Decidable.not_and_iff_or_not, Bool.not_eq_true]

/-! ## Executing -/

/-- The machine in which an instruction is executed: it is awake, and the program counter
is past the instruction. -/
def entering (m : Machine) (i : Instruction) : Machine :=
  ⟨{ m.cpu with halted := false, pc := m.cpu.pc + UInt16.ofNat i.opcode.bytes }, m.bus⟩

/-- The machine after the end of an executed instruction. -/
def leaving (m : Machine) (i : Instruction) (completion : Completion) : Machine :=
  ⟨{ m.cpu with f := i.opcode.flags.resolve m.cpu.f completion.flags },
    m.bus.mapInterrupts .finishInstruction⟩

/-- What is reported before an instruction. -/
def enteringEvents (m : Machine) (i : Instruction) : List Event :=
  (if m.cpu.halted then [.woken m.cpu.pc] else []) ++
    [.snapshot (.take { m.cpu with halted := false } m.bus), .executing i]

/-- What is reported of the end of an instruction. -/
def leavingEvents (m : Machine) : List Event :=
  if m.bus.interrupts.isDue then [.masterOn] else []

@[simp] theorem targets_enteringEvents (m : Machine) (i : Instruction) :
    Event.targets (m.enteringEvents i) = [] := by
  unfold enteringEvents
  split <;> rfl

@[simp] theorem targets_leavingEvents (m : Machine) : Event.targets m.leavingEvents = [] := by
  unfold leavingEvents
  split <;> rfl

@[simp] theorem announcements_enteringEvents (m : Machine) (i : Instruction) :
    Event.announcements (m.enteringEvents i) = [.executing i] := by
  unfold enteringEvents
  split <;> rfl

@[simp] theorem announcements_leavingEvents (m : Machine) :
    Event.announcements m.leavingEvents = [] := by
  unfold leavingEvents
  split <;> rfl

/-- All that a run does after it has executed the instruction. -/
def leave (i : Instruction) (completion : Completion) : Action Machine Nat := do
  modifyCpu fun cpu => { cpu with f := i.opcode.flags.resolve cpu.f completion.flags }
  finishInstruction
  return completion.ticks

theorem leave_eq (m : Machine) (i : Instruction) (completion : Completion) :
    leave i completion m =
      ⟨.ok completion.ticks, m.leaving i completion, m.leavingEvents⟩ := by
  show Outcome.mk _ _ (m.leavingEvents ++ [] ++ []) = _
  rw [List.append_nil, List.append_nil]
  rfl

theorem run_eq (m : Machine) (i : Instruction) :
    run i m =
      ⟨((execute i >>= leave i) (m.entering i)).result,
        ((execute i >>= leave i) (m.entering i)).state,
        m.enteringEvents i ++ ((execute i >>= leave i) (m.entering i)).events⟩ := by
  show Outcome.mk _ _ (((if m.cpu.halted then [.woken m.cpu.pc] else []) ++ []) ++ _) = _
  rw [List.append_nil, enteringEvents, List.append_assoc]
  -- Both sides are the same whatever the instruction does.
  generalize execute i = x
  rfl

theorem run_of_execute {m' : Machine} {completion : Completion} {events : List Event}
    (h : execute i (m.entering i) = ⟨.ok completion, m', events⟩) :
    run i m = ⟨.ok completion.ticks, m'.leaving i completion,
      m.enteringEvents i ++ (events ++ m'.leavingEvents)⟩ := by
  rw [run_eq, Action.bind_of_ok h, leave_eq]

/-- From `m` to `m'`, an instruction has been executed: it has taken one of its times, and
the bus has seen the writes that the events tell of and what the mnemonic and the end of
the instruction do to the master switch.  The instruction is all that is announced. -/
structure Executed (m : Machine) (i : Instruction) (ticks : Nat) (m' : Machine)
    (events : List Event) : Prop where
  timely : ticks ∈ i.opcode.timing.toList
  written : ∃ writes,
    m'.bus = (m.bus.writeAll writes).mapInterrupts
        (.finishInstruction ∘ i.opcode.mnemonic.control) ∧
      Event.targets events = writes.map Prod.fst
  announced : Event.announcements events = [.executing i]

theorem run_of_fits (h : i.opcode.fits = true) (m : Machine) :
    ∃ ticks m' events, run i m = ⟨.ok ticks, m', events⟩ ∧ Executed m i ticks m' events := by
  obtain ⟨completion, m', events, writes, hexecute, htimely, hbus, htargets, hquiet⟩ :=
    execute_of_fits h (m.entering i)
  refine ⟨_, _, _, run_of_execute hexecute, htimely, ⟨writes, ?_, ?_⟩, ?_⟩
  · show m'.bus.mapInterrupts _ = _
    rw [hbus, Bus.mapInterrupts_mapInterrupts]
    rfl
  · simp only [Event.targets_append, targets_enteringEvents, targets_leavingEvents,
      List.nil_append, List.append_nil, htargets]
  · simp only [Event.announcements_append, announcements_enteringEvents,
      announcements_leavingEvents, List.append_nil, hquiet]

/-! ## Steps -/

theorem step_of_isIdle (h : m.isIdle = true) : step m = ⟨.ok idleTicks, m, []⟩ := by
  have hview : Action.view isIdle m = ⟨.ok true, m, []⟩ := by rw [← h]; rfl
  rw [step, Action.bind_of_silent hview, if_pos rfl]
  rfl

/-- An awake processor fetches an instruction and runs it. -/
theorem step_of_not_isIdle (h : m.isIdle = false) :
    step m = (fetchInstruction >>= run) m := by
  have hview : Action.view isIdle m = ⟨.ok false, m, []⟩ := by rw [← h]; rfl
  rw [step, Action.bind_of_silent hview, if_neg Bool.false_ne_true]

theorem step_of_undefined (hidle : m.isIdle = false) (hfetch : m.fetch = .error e) :
    step m = ⟨.error (.undefinedOpcode e), m, []⟩ := by
  have hview : Action.view fetch m = ⟨.ok (.error e), m, []⟩ := by rw [← hfetch]; rfl
  have hstop : fetchInstruction m = ⟨.error (.undefinedOpcode e), m, []⟩ := by
    rw [fetchInstruction, Action.bind_of_silent hview]
    rfl
  rw [step_of_not_isIdle hidle, Action.bind_of_error hstop]

theorem step_of_fetch (hidle : m.isIdle = false) (hfetch : m.fetch = .ok i) :
    step m = run i m := by
  have hview : Action.view fetch m = ⟨.ok (.ok i), m, []⟩ := by rw [← hfetch]; rfl
  have hpure : fetchInstruction m = ⟨.ok i, m, []⟩ := by
    rw [fetchInstruction, Action.bind_of_silent hview]
    rfl
  rw [step_of_not_isIdle hidle, Action.bind_of_silent hpure]

/-- All that a step can do. -/
inductive StepCase (m : Machine) : Prop where
  /-- The processor sleeps on. -/
  | idles (hidle : m.isIdle = true) (hstep : step m = ⟨.ok idleTicks, m, []⟩)
  /-- There is an undefined opcode, and nothing changes. -/
  | undefined (e : UndefinedOpcode) (hidle : m.isIdle = false) (hfetch : m.fetch = .error e)
    (hstep : step m = ⟨.error (.undefinedOpcode e), m, []⟩)
  /-- An instruction is executed. -/
  | executes (i : Instruction) (ticks : Nat) (m' : Machine) (events : List Event)
    (hidle : m.isIdle = false) (hfetch : m.fetch = .ok i)
    (hstep : step m = ⟨.ok ticks, m', events⟩) (hexecuted : Executed m i ticks m' events)

theorem step_cases (m : Machine) : StepCase m := by
  cases hidle : m.isIdle with
  | true => exact .idles hidle (step_of_isIdle hidle)
  | false =>
      cases hfetch : m.fetch with
      | error e => exact .undefined e hidle hfetch (step_of_undefined hidle hfetch)
      | ok i =>
          obtain ⟨ticks, m', events, hrun, hexecuted⟩ := run_of_fits (fits_of_fetch hfetch) m
          refine .executes i ticks m' events hidle hfetch ?_ hexecuted
          rw [step_of_fetch hidle hfetch, hrun]

theorem step_stops_or_goesOn (m : Machine) :
    (∃ e, step m = ⟨.error (.undefinedOpcode e), m, []⟩) ∨
      ∃ ticks m' events, step m = ⟨.ok ticks, m', events⟩ := by
  cases step_cases m with
  | idles _ hstep => exact .inr ⟨_, _, _, hstep⟩
  | undefined e _ _ hstep => exact .inl ⟨e, hstep⟩
  | executes _ _ _ _ _ _ hstep _ => exact .inr ⟨_, _, _, hstep⟩

/-- A step stops at an undefined opcode that an awake processor meets, and only there. -/
theorem step_result_eq_error_iff {s : Stop} :
    (step m).result = .error s ↔
      m.isIdle = false ∧ ∃ e, m.fetch = .error e ∧ s = .undefinedOpcode e := by
  cases step_cases m with
  | idles hidle hstep => simp [hstep, hidle]
  | undefined e hidle hfetch hstep => simp [hstep, hidle, hfetch, eq_comm]
  | executes i ticks m' events hidle hfetch hstep _ => simp [hstep, hfetch]

/-- `step_result_eq_error_iff`, by what the processor and the bus hold. -/
theorem step_stops_iff {s : Stop} :
    (step m).result = .error s ↔
      (m.cpu.halted = false ∨
          m.bus.interrupts.enable &&& m.bus.interrupts.requests &&& 0x1F ≠ 0) ∧
        m.bus.read m.cpu.pc ∈ Opcode.undefinedCodes ∧
        s = .undefinedOpcode ⟨m.bus.read m.cpu.pc, .base, m.cpu.pc⟩ := by
  rw [step_result_eq_error_iff, isIdle_eq_false_iff]
  simp only [fetch_eq_error_iff]
  constructor
  · rintro ⟨hawake, _, ⟨hcode, rfl⟩, rfl⟩
    exact ⟨hawake, hcode, rfl⟩
  · rintro ⟨hawake, hcode, rfl⟩
    exact ⟨hawake, _, ⟨hcode, rfl⟩, rfl⟩

theorem step_of_marker (h : m.bus.read m.cpu.pc = OpcodePage.marker) :
    ∃ ticks, (step m).result = .ok ticks := by
  obtain ⟨i, hfetch⟩ := fetch_of_marker h
  cases step_cases m with
  | idles _ hstep => exact ⟨_, by rw [hstep]⟩
  | undefined _ _ herror _ =>
      rw [hfetch] at herror
      cases herror
  | executes _ _ _ _ _ _ hstep _ => exact ⟨_, by rw [hstep]⟩

/-- A step that executes no instruction changes nothing. -/
theorem state_step_of_not_executing (h : m.isIdle = true ∨ ∃ e, m.fetch = .error e) :
    (step m).state = m := by
  cases step_cases m with
  | idles _ hstep | undefined _ _ _ hstep => rw [hstep]
  | executes i _ _ _ hidle hfetch _ _ =>
      rcases h with h | ⟨e, h⟩
      · rw [hidle] at h
        cases h
      · rw [hfetch] at h
        cases h

theorem step_eq_of_error {s : Stop} (h : (step m).result = .error s) :
    step m = ⟨.error s, m, []⟩ := by
  obtain ⟨hidle, e, hfetch, rfl⟩ := step_result_eq_error_iff.mp h
  exact step_of_undefined hidle hfetch

/-- A step that goes on takes between 4 and 24 ticks. -/
theorem ticks_of_step {ticks : Nat} (h : (step m).result = .ok ticks) :
    4 ∣ ticks ∧ 4 ≤ ticks ∧ ticks ≤ 24 := by
  cases step_cases m with
  | idles _ hstep =>
      rw [hstep] at h
      obtain rfl := Except.ok.inj h
      decide
  | undefined _ _ _ hstep =>
      rw [hstep] at h
      cases h
  | executes i ticks' m' events _ hfetch hstep hexecuted =>
      rw [hstep] at h
      obtain rfl := Except.ok.inj h
      exact ticks_of_fetch hfetch hexecuted.timely

end Handheld.Machine
