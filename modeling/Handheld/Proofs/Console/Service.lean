import Handheld.Proofs.Bus.View
import Handheld.Proofs.Console.Trace
import Handheld.Proofs.Machine.Branches

/-!
# Serving interrupts

An interrupt whose handler is nothing but RETI is served within one step: it is accepted, and
the handler takes the program counter from the stack again and turns the master switch back on.
So while the timer register stands still, and if the two bytes on the stack lie where a write is
only stored and where no handler begins, nothing is left of the service but these bytes, the
withdrawn request and the time.  One step serves the most urgent source and leaves a console of
the same kind (`serves_first`); by induction on the active sources, as many steps serve all of them
in their order (`serves_all`).
-/

namespace Handheld

namespace Bus

/-- Handlers begin in plain cells. -/
theorem isPlain_vector (k : Interrupt) : IsPlain k.vector := by
  constructor
  · rw [not_isHidden_iff]
    cases k <;> decide
  · cases k <;> decide

end Bus

namespace Machine

variable {m : Machine} {k : Interrupt}

/-! ## Interrupts whose handlers return at once -/

/-- The machine accepts interrupts and time makes no request; each active source has a handler
that is nothing but RETI; the program counter goes to plain cells, where none of these handlers
begins; and the flag byte is as an instruction leaves it. -/
structure ReturnsAtOnce (m : Machine) : Prop where
  master : m.bus.interrupts.master = true
  timer : m.bus.timer.control &&& 0x04 = 0
  handler : ∀ k, m.bus.interrupts.IsActive k → m.bus.read k.vector = 0xD9
  highPlain : Bus.IsPlain (m.cpu.sp - 1)
  lowPlain : Bus.IsPlain (m.cpu.sp - 2)
  apart : ∀ k, m.bus.interrupts.IsActive k →
    k.vector ≠ m.cpu.sp - 1 ∧ k.vector ≠ m.cpu.sp - 2
  flags : m.cpu.f &&& 0x0F = 0

/-- Memory with the program counter on the stack. -/
def stacked (m : Machine) : Memory :=
  (m.bus.memory.write (m.cpu.sp - 1) (Word.high m.cpu.pc)).write (m.cpu.sp - 2)
    (Word.low m.cpu.pc)

theorem read_stacked_of_ne {a : Word} (hhigh : a ≠ m.cpu.sp - 1) (hlow : a ≠ m.cpu.sp - 2) :
    m.stacked.read a = m.bus.memory.read a := by
  rw [stacked, Memory.read_write_of_ne _ _ hlow, Memory.read_write_of_ne _ _ hhigh]

theorem read_stacked_low (m : Machine) : m.stacked.read (m.cpu.sp - 2) = Word.low m.cpu.pc :=
  Memory.read_write_self _ _ _

theorem read_stacked_high (m : Machine) : m.stacked.read (m.cpu.sp - 1) = Word.high m.cpu.pc := by
  rw [stacked, Memory.read_write_of_ne _ _ (Word.sub_one_ne_sub_two _), Memory.read_write_self]

theorem stacked_congr {m' : Machine} (hcpu : m'.cpu = { m.cpu with halted := false })
    (hmemory : m'.bus.memory = m.stacked) : m'.stacked = m.stacked := by
  apply Memory.ext_read
  intro a
  have hsp : m'.cpu.sp = m.cpu.sp := by rw [hcpu]
  have hpc : m'.cpu.pc = m.cpu.pc := by rw [hcpu]
  rw [stacked, hmemory, hsp, hpc]
  by_cases hlow : a = m.cpu.sp - 2
  · rw [hlow, Memory.read_write_self, read_stacked_low]
  · rw [Memory.read_write_of_ne _ _ hlow]
    by_cases hhigh : a = m.cpu.sp - 1
    · rw [hhigh, Memory.read_write_self, read_stacked_high]
    · rw [Memory.read_write_of_ne _ _ hhigh]

/-- The machine with another processor and interrupt controller, the program counter on the stack
and so many ticks passed. -/
def inService (m : Machine) (cpu : Cpu) (interrupts : InterruptController) (ticks : Word) :
    Machine :=
  ⟨cpu, m.stacked, interrupts,
    { m.bus.timer with counter := m.bus.timer.counter + ticks }, m.bus.sent⟩

/-- The processor at the beginning of the handler. -/
def interruptedCpu (m : Machine) (k : Interrupt) : Cpu :=
  { m.cpu with halted := false, sp := m.cpu.sp - 2, pc := k.vector }

/-- The machine that has served the interrupt. -/
def served (m : Machine) (k : Interrupt) : Machine :=
  m.inService { m.cpu with halted := false } (m.bus.interrupts.accept k).turnOn 36

theorem interrupts_served (m : Machine) (k : Interrupt) :
    (m.served k).bus.interrupts = (m.bus.interrupts.accept k).turnOn := rfl

theorem read_inService {a : Word} (ha : Bus.IsPlain a) (cpu : Cpu)
    (interrupts : InterruptController) (ticks : Word) :
    (m.inService cpu interrupts ticks).bus.read a = m.stacked.read a :=
  Bus.read_of_isPlain ha _

/-- The processor that has returned to the word on the stack. -/
def returnedCpu (m : Machine) : Cpu :=
  { m.cpu with
    halted := false
    pc := m.bus.readWord m.cpu.sp
    sp := m.cpu.sp + 2
    f := m.cpu.f &&& 0xF0 }

theorem step_of_returnFromInterrupt (hawake : m.isIdle = false)
    (hcode : m.bus.read m.cpu.pc = 0xD9) :
    step.Yields m 16 ⟨m.returnedCpu, m.bus.mapInterrupts .turnOn⟩ :=
  step_yields_base hawake (congrArg UInt8.toNat hcode) Opcode.lookup?_returnFromInterrupt
    (returnFromInterrupt_yields _ _) rfl (Opcode.resolve_untouched _ _)

namespace ReturnsAtOnce

theorem isEnabled_timer (h : m.ReturnsAtOnce) : m.bus.timer.isEnabled = false := by
  rw [Timer.isEnabled, h.timer]
  rfl

theorem after_inService (h : m.ReturnsAtOnce) (cpu : Cpu) (interrupts : InterruptController)
    (ticks : Word) (more : Nat) :
    (m.inService cpu interrupts ticks).after more =
      m.inService cpu interrupts (ticks + UInt16.ofNat more) := by
  have hdisabled : (m.inService cpu interrupts ticks).bus.timer.isEnabled = false :=
    h.isEnabled_timer
  have htick := Bus.tick_of_disabled hdisabled more
  rw [after, htick, inService, inService]
  dsimp only
  rw [UInt16.add_assoc]

theorem accepting_eq (h : m.ReturnsAtOnce) (k : Interrupt) :
    m.accepting k = m.inService (m.interruptedCpu k) (m.bus.interrupts.accept k) 0 := by
  rw [accepting, pushWrites, Bus.writeAll_cons, Bus.writeAll_cons, Bus.writeAll_nil,
    Word.sub_one_sub_one, Bus.write_of_isPlain h.highPlain, Bus.write_of_isPlain h.lowPlain,
    inService, UInt16.add_zero]
  rfl

theorem entry_eq (h : m.ReturnsAtOnce) (hk : m.bus.interrupts.pending? = some k) :
    m.entry = m.inService (m.interruptedCpu k) (m.bus.interrupts.accept k) 20 := by
  rw [entry_of_pending hk, h.accepting_eq, h.after_inService]
  rfl

theorem read_stacked_vector (h : m.ReturnsAtOnce) (hk : m.bus.interrupts.IsActive k) :
    m.stacked.read k.vector = 0xD9 := by
  obtain ⟨hhigh, hlow⟩ := h.apart k hk
  rw [read_stacked_of_ne hhigh hlow, ← Bus.read_of_isPlain (Bus.isPlain_vector k), h.handler k hk]

/-- The handler finds the program counter on the stack. -/
theorem readWord_inService (h : m.ReturnsAtOnce) (cpu : Cpu) (interrupts : InterruptController)
    (ticks : Word) :
    (m.inService cpu interrupts ticks).bus.readWord (m.cpu.sp - 2) = m.cpu.pc := by
  rw [Bus.readWord, Word.sub_two_add_one, read_inService h.highPlain, read_inService h.lowPlain,
    read_stacked_high, read_stacked_low, Word.ofBytes_high_low]

/-- The handler takes the program counter back and nothing else. -/
theorem returnedCpu_inService (h : m.ReturnsAtOnce) (k : Interrupt)
    (interrupts : InterruptController) (ticks : Word) :
    (m.inService (m.interruptedCpu k) interrupts ticks).returnedCpu =
      { m.cpu with halted := false } := by
  have hback := h.readWord_inService (m.interruptedCpu k) interrupts ticks
  have hstack : m.cpu.sp - 2 + 2 = m.cpu.sp := UInt16.sub_add_cancel _ _
  have hflags : m.cpu.f &&& 0xF0 = m.cpu.f := by
    have hbytes : ∀ f : Byte, f &&& 0x0F = 0 → f &&& 0xF0 = f :=
      Byte.forall_of_fin (by decide +kernel)
    exact hbytes _ h.flags
  show { m.cpu with
    halted := false
    pc := (m.inService (m.interruptedCpu k) interrupts ticks).bus.readWord (m.cpu.sp - 2)
    sp := m.cpu.sp - 2 + 2
    f := m.cpu.f &&& 0xF0 } = _
  rw [hback, hstack, hflags]

theorem step_inService (h : m.ReturnsAtOnce) (hk : m.bus.interrupts.IsActive k) :
    step.Yields (m.inService (m.interruptedCpu k) (m.bus.interrupts.accept k) 20) 16
      (m.inService { m.cpu with halted := false } (m.bus.interrupts.accept k).turnOn 20) := by
  have hcode : (m.inService (m.interruptedCpu k) (m.bus.interrupts.accept k) 20).bus.read
      k.vector = 0xD9 := by
    rw [read_inService (Bus.isPlain_vector k), h.read_stacked_vector hk]
  have hstep := step_of_returnFromInterrupt rfl hcode
  rw [h.returnedCpu_inService] at hstep
  exact hstep

/-- The others can be served in the same way. -/
theorem served (h : m.ReturnsAtOnce) (k : Interrupt) : (m.served k).ReturnsAtOnce := by
  have hactive : ∀ j, (m.served k).bus.interrupts.IsActive j → m.bus.interrupts.IsActive j := by
    intro j hj
    rw [interrupts_served, InterruptController.isActive_turnOn_iff,
      InterruptController.isActive_accept_iff] at hj
    exact hj.1
  constructor
  · rfl
  · exact h.timer
  · intro j hj
    rw [Machine.served, read_inService (Bus.isPlain_vector j), h.read_stacked_vector (hactive j hj)]
  · exact h.highPlain
  · exact h.lowPlain
  · intro j hj
    exact h.apart j (hactive j hj)
  · exact h.flags

end ReturnsAtOnce

end Machine

namespace Console

open Machine

variable {c : Console} {k : Interrupt}

/-! ## One interrupt -/

theorem acceptances_step (c : Console) :
    Event.acceptances (step c).events = c.machine.bus.interrupts.pending?.toList := by
  rw [← Event.acceptances_announcements, announcements_step]
  cases c.machine.bus.interrupts.pending? <;> cases c.machine.entry.upcoming? <;> rfl

/-- The pending interrupt is served in one step. -/
theorem step_of_pending (h : c.machine.ReturnsAtOnce)
    (hk : c.machine.bus.interrupts.pending? = some k)
    (hroom : c.elapsed.toNat + 36 < UInt64.size) :
    (step c).result = .ok 36 ∧ Event.acceptances (step c).events = [k] ∧
      c.next = ⟨c.machine.served k, c.elapsed + 36⟩ := by
  have haccepted : Event.acceptances (step c).events = [k] := by
    rw [acceptances_step, hk]
    rfl
  have hactive := (InterruptController.pending?_eq_some_iff.mp hk).active
  obtain ⟨events, hmachine⟩ := h.step_inService hactive
  rw [← h.entry_eq hk] at hmachine
  have hticks := entryTicks_of_pending hk
  rw [next]
  cases step_cases c with
  | stops e _ hstop _ _ =>
      rw [hmachine] at hstop
      cases hstop
  | full ticks _ _ _ hgo hfull _ =>
      rw [hmachine] at hgo
      obtain ⟨hsixteen, -, -⟩ := Outcome.mk.inj hgo
      obtain rfl := Except.ok.inj hsixteen
      rw [hticks] at hfull
      exact absurd hroom hfull
  | goesOn ticks m' _ _ hgo _ hstep _ =>
      rw [hmachine] at hgo
      obtain ⟨hsixteen, rfl, -⟩ := Outcome.mk.inj hgo
      obtain rfl := Except.ok.inj hsixteen
      refine ⟨?_, haccepted, ?_⟩
      · rw [hstep, hticks]
        rfl
      · rw [hstep, hticks, h.after_inService]
        rfl

/-! ## All active interrupts -/

/-- Between the two consoles the interrupts `ks` have been served, and nothing else has happened:
the processor is as before, but awake; the master switch is on; of the requests only those of
`ks` are withdrawn; memory holds the program counter in the two bytes below the stack pointer and
is otherwise as before; and 36 ticks have passed for each of `ks`. -/
structure Served (c c' : Console) (ks : List Interrupt) : Prop where
  cpu : c'.machine.cpu = { c.machine.cpu with halted := false }
  switch : c'.machine.bus.interrupts.switch = (true, none)
  enable : c'.machine.bus.interrupts.enable = c.machine.bus.interrupts.enable
  requests : ∀ n, c'.machine.bus.interrupts.requests.toNat.testBit n = true ↔
    c.machine.bus.interrupts.requests.toNat.testBit n = true ∧ n ∉ ks.map Interrupt.bit
  memory : c'.machine.bus.memory = c.machine.stacked
  timer : c'.machine.bus.timer =
    { c.machine.bus.timer with
      counter := c.machine.bus.timer.counter + UInt16.ofNat (36 * ks.length) }
  sent : c'.machine.bus.sent = c.machine.bus.sent
  elapsed : c'.elapsed.toNat = c.elapsed.toNat + 36 * ks.length

namespace Served

variable {c' c'' : Console} {ks js : List Interrupt}

theorem single (hnext : c' = ⟨c.machine.served k, c.elapsed + 36⟩)
    (hroom : c.elapsed.toNat + 36 < UInt64.size) : c.Served c' [k] where
  cpu := by rw [hnext]; rfl
  switch := by rw [hnext]; rfl
  enable := by rw [hnext]; rfl
  requests := by
    intro n
    rw [hnext]
    show (c.machine.bus.interrupts.accept k).requests.toNat.testBit n = true ↔ _
    rw [InterruptController.testBit_accept, Bool.and_eq_true, Bool.not_eq_true',
      decide_eq_false_iff_not, List.map_singleton, List.mem_singleton, eq_comm (a := n)]
  memory := by rw [hnext]; rfl
  timer := by rw [hnext]; rfl
  sent := by rw [hnext]; rfl
  elapsed := by
    have hsum := toNat_elapsed_add hroom
    rw [hnext]
    exact hsum

theorem trans (h : c.Served c' ks) (h' : c'.Served c'' js) : c.Served c'' (ks ++ js) where
  cpu := by rw [h'.cpu, h.cpu]
  switch := h'.switch
  enable := h'.enable.trans h.enable
  requests := by
    intro n
    rw [h'.requests, h.requests, List.map_append, List.mem_append, not_or, and_assoc]
  memory := by rw [h'.memory, stacked_congr h.cpu h.memory]
  timer := by
    rw [h'.timer, h.timer, List.length_append, Nat.mul_add, UInt16.ofNat_add, UInt16.add_assoc]
  sent := h'.sent.trans h.sent
  elapsed := by rw [h'.elapsed, h.elapsed, List.length_append, Nat.mul_add, Nat.add_assoc]

end Served

/-- A step serves the most urgent source, and leaves the others for a console of the same kind. -/
theorem serves_first {rest : List Interrupt} (h : c.machine.ReturnsAtOnce)
    (hsources : c.machine.bus.interrupts.activeSources = k :: rest)
    (hroom : c.elapsed.toNat + 36 < UInt64.size) :
    ((step c).result = .ok 36 ∧ Event.acceptances (step c).events = [k]) ∧
      c.Served c.next [k] ∧ c.next.machine.ReturnsAtOnce ∧
      c.next.machine.bus.interrupts.activeSources = rest := by
  have hpending := InterruptController.pending?_of_activeSources h.master hsources
  obtain ⟨hresult, haccepted, hnext⟩ := step_of_pending h hpending hroom
  have hmachine : c.next.machine = c.machine.served k := by rw [hnext]
  refine ⟨⟨hresult, haccepted⟩, .single hnext hroom, ?_, ?_⟩
  · rw [hmachine]
    exact h.served k
  · rw [hmachine, interrupts_served, InterruptController.activeSources_turnOn,
      InterruptController.activeSources_accept hsources]

/-- As many steps as there are active sources serve them all.  The induction is on the sources:
the others than the first are the active sources of the next console. -/
theorem serves_all {rest : List Interrupt} (h : c.machine.ReturnsAtOnce)
    (hsources : c.machine.bus.interrupts.activeSources = k :: rest)
    (hroom : c.elapsed.toNat + 36 * (k :: rest).length < UInt64.size) :
    (∀ (n : Nat) (hn : n < (k :: rest).length),
      (step (next^[n] c)).result = .ok 36 ∧
        Event.acceptances (step (next^[n] c)).events = [(k :: rest)[n]]) ∧
    c.Served (next^[(k :: rest).length] c) (k :: rest) := by
  rw [List.length_cons] at hroom
  induction rest generalizing c k with
  | nil =>
      obtain ⟨hstep, hserved, -, -⟩ := serves_first h hsources (by omega)
      refine ⟨?_, hserved⟩
      intro n hn
      obtain rfl : n = 0 := Nat.lt_one_iff.mp hn
      exact hstep
  | cons j rest ih =>
      obtain ⟨hstep, hserved, hreturns, hothers⟩ := serves_first h hsources (by omega)
      have hleft : c.next.elapsed.toNat + 36 * (rest.length + 1) < UInt64.size := by
        rw [hserved.elapsed, Nat.add_assoc, ← Nat.mul_add, Nat.add_comm _ (rest.length + 1)]
        exact hroom
      obtain ⟨hsteps, hall⟩ := ih hreturns hothers hleft
      refine ⟨?_, hserved.trans hall⟩
      intro n hn
      cases n with
      | zero => exact hstep
      | succ n => exact hsteps n (Nat.lt_of_succ_lt_succ hn)

/-- Suppose that interrupts are accepted, that the timer register stands still, that the handler
of each active source is nothing but RETI, and that the return address goes to plain cells where
no handler begins.  Then the next steps serve the active sources in the order of their bits, one
in each step and each of them once, in 36 ticks.  All that is left of this is the time, the
withdrawn requests and the two bytes on the stack: the processor is as before and awake, and the
master switch is on. -/
theorem interrupts_are_served_transparently {sources : List Interrupt}
    (h : c.machine.ReturnsAtOnce)
    (hsources : c.machine.bus.interrupts.activeSources = sources) (hsome : sources ≠ [])
    (hroom : c.elapsed.toNat + 36 * sources.length < UInt64.size) :
    (∀ k, k ∈ sources ↔ c.machine.bus.interrupts.IsActive k) ∧
    sources.Pairwise (fun j k => j.bit < k.bit) ∧
    (∀ (n : Nat) (hn : n < sources.length),
      (step (next^[n] c)).result = .ok 36 ∧
        Event.acceptances (step (next^[n] c)).events = [sources[n]]) ∧
    c.Served (next^[sources.length] c) sources := by
  obtain ⟨k, rest, rfl⟩ := List.exists_cons_of_ne_nil hsome
  obtain ⟨hsteps, hall⟩ := serves_all h hsources hroom
  refine ⟨?_, ?_, hsteps, hall⟩
  · intro j
    rw [← hsources]
    exact InterruptController.mem_activeSources_iff
  · rw [← hsources]
    exact InterruptController.pairwise_activeSources _

/-- A sleeping console with three active sources, the handlers of which return at once.  The
tick counter has no more room than they need. -/
def thriceInterrupted : Console :=
  ⟨⟨{ Cpu.initial with halted := true }, { Bus.initial with
      memory := ((Memory.zero.write 0x40 0xD9).write 0x50 0xD9).write 0x60 0xD9
      interrupts := ⟨0xFD, 0xF7, true, none⟩ }⟩,
    0xFFFFFFFFFFFFFF93⟩

theorem activeSources_thriceInterrupted :
    thriceInterrupted.machine.bus.interrupts.activeSources = [.vblank, .timer, .joypad] := by
  decide +kernel

theorem returnsAtOnce_thriceInterrupted : thriceInterrupted.machine.ReturnsAtOnce := by
  have hactive : ∀ k, thriceInterrupted.machine.bus.interrupts.IsActive k →
      k = .vblank ∨ k = .timer ∨ k = .joypad := by
    intro k hk
    rw [← InterruptController.mem_activeSources_iff, activeSources_thriceInterrupted] at hk
    simpa using hk
  constructor
  · rfl
  · rfl
  · intro k hk
    rcases hactive k hk with rfl | rfl | rfl <;> decide +kernel
  · exact ⟨Bus.not_isHidden_iff.mpr (by decide), by decide⟩
  · exact ⟨Bus.not_isHidden_iff.mpr (by decide), by decide⟩
  · intro k hk
    rcases hactive k hk with rfl | rfl | rfl <;> decide
  · decide

/-- The three are served in the order of their bits, and 108 ticks pass. -/
theorem thriceInterrupted_is_served_transparently :
    thriceInterrupted.machine.ReturnsAtOnce ∧
      thriceInterrupted.machine.bus.interrupts.activeSources = [.vblank, .timer, .joypad] ∧
      thriceInterrupted.elapsed.toNat + 36 * 3 < UInt64.size ∧
      Event.acceptances (step (next^[0] thriceInterrupted)).events = [.vblank] ∧
      Event.acceptances (step (next^[1] thriceInterrupted)).events = [.timer] ∧
      Event.acceptances (step (next^[2] thriceInterrupted)).events = [.joypad] ∧
      thriceInterrupted.Served (next^[3] thriceInterrupted) [.vblank, .timer, .joypad] := by
  have hroom : thriceInterrupted.elapsed.toNat + 36 * 3 < UInt64.size := by decide
  obtain ⟨_, _, hsteps, hserved⟩ := interrupts_are_served_transparently
    returnsAtOnce_thriceInterrupted activeSources_thriceInterrupted (by decide) hroom
  exact ⟨returnsAtOnce_thriceInterrupted, activeSources_thriceInterrupted, hroom,
    (hsteps 0 (by decide)).2, (hsteps 1 (by decide)).2, (hsteps 2 (by decide)).2, hserved⟩

end Console

end Handheld
