import Handheld.Proofs.Bus.Regular
import Handheld.Proofs.Console.Meter
import Handheld.Proofs.Console.UndefinedOpcode

/-!
# Regular states

What holds of a console that has just started a cartridge, and of every state that calls of
any kind and requests from outside lead to, whether the calls go on to their end or stop.  Some
of it holds only together: an armed master switch is off and its processor awake, because EI is
the one instruction that arms it, and the next one throws it.  Every part of a step keeps the
machine regular, and so a step does, a call, and a sequence of calls (`isRegular_of_stimuli`).
-/

namespace Handheld

/-! ## An armed switch -/

namespace InterruptController

/-- The switch is not armed, or it is off and due at the end of the next instruction. -/
def IsSettled (ic : InterruptController) : Prop :=
  ic.delay? = none ∨ ic.switch = (false, some 1)

/-- At the end of an instruction the switch is not armed any more, unless the instruction has
armed it. -/
theorem delay?_of_isSettled {ic : InterruptController} (h : ic.IsSettled) (mnemonic : Mnemonic) :
    (mnemonic.control ic).finishInstruction.delay? = none ∨
      mnemonic = .ei ∧ (mnemonic.control ic).finishInstruction.switch = (false, some 1) := by
  rcases ic with ⟨enable, requests, master, delay?⟩
  rcases h with hnone | harmed
  · obtain rfl : delay? = none := hnone
    cases mnemonic with
    | ei =>
        cases master with
        | true => exact .inl rfl
        | false => exact .inr ⟨rfl, rfl⟩
    | _ => exact .inl rfl
  · obtain ⟨rfl, rfl⟩ := Prod.mk.inj harmed
    cases mnemonic with
    | ei => exact .inr ⟨rfl, rfl⟩
    | _ => exact .inl rfl

end InterruptController

/-! ## The machine -/

namespace Machine

/-- What a machine keeps between steps. -/
structure Regular (m : Machine) : Prop where
  flags : m.cpu.f &&& 0x0F = 0
  armed : m.bus.interrupts.delay? = none ∨
    m.bus.interrupts.switch = (false, some 1) ∧ m.cpu.halted = false
  bus : m.bus.Regular

variable {m : Machine} {i : Instruction}

/-- What an instruction leaves in the flag byte has its lower half clear. -/
theorem resolve_and_lower_half (spec : FlagSpec) (f : Byte) (proposed : Flags) :
    spec.resolve f proposed &&& 0x0F = 0 := by
  have hlower := spec.toNat_resolve_mod f proposed
  apply UInt8.toNat_inj.mp
  rw [UInt8.toNat_and]
  show (spec.resolve f proposed).toNat &&& (2 ^ 4 - 1) = 0
  rw [Nat.and_two_pow_sub_one_eq_mod]
  exact hlower

/-- EI leaves the processor awake. -/
theorem halted_of_ei (h : i.opcode.mnemonic = .ei) (m : Machine) :
    (execute i (m.entering i)).state.cpu.halted = false := by
  simp only [execute, h]
  rfl

namespace Regular

theorem isSettled (h : m.Regular) : m.bus.interrupts.IsSettled :=
  h.armed.imp id And.left

/-- An executed instruction keeps a machine regular, whichever it is. -/
theorem run (h : m.Regular) (hfits : i.opcode.fits = true) : (run i m).state.Regular := by
  obtain ⟨completion, m', events, writes, hexecute, -, hbus, -, -⟩ :=
    execute_of_fits hfits (m.entering i)
  rw [run_of_execute hexecute]
  constructor
  case flags => exact resolve_and_lower_half _ _ _
  case bus =>
    have hwritten : m'.bus.Regular := by
      rw [hbus]
      exact (h.bus.writeAll writes).mapInterrupts _
    exact hwritten.mapInterrupts _
  case armed =>
    -- The writes do not reach the switch, so the instruction finds it as it was before.
    have hsettled : (m.bus.writeAll writes).interrupts.IsSettled := by
      have hswitch := Bus.switch_writeAll m.bus writes
      refine h.isSettled.imp (fun hnone => ?_) fun harmed => hswitch.trans harmed
      exact (congrArg Prod.snd hswitch).trans hnone
    have hend := InterruptController.delay?_of_isSettled hsettled i.opcode.mnemonic
    show (m'.bus.mapInterrupts _).interrupts.delay? = none ∨ _
    rw [leaving, hbus]
    refine hend.imp id fun ⟨hei, hswitch⟩ => ⟨hswitch, ?_⟩
    have hawake := halted_of_ei hei m
    rw [hexecute] at hawake
    exact hawake

theorem step (h : m.Regular) : (step m).state.Regular := by
  cases step_cases m with
  | idles _ hstep =>
      rw [hstep]
      exact h
  | undefined _ _ _ hstep =>
      rw [hstep]
      exact h
  | executes i _ _ _ hidle hfetch _ _ =>
      rw [step_of_fetch hidle hfetch]
      exact h.run (fits_of_fetch hfetch)

theorem after (h : m.Regular) {ticks : Nat} (hticks : 4 ∣ ticks) : (m.after ticks).Regular where
  flags := h.flags
  bus := h.bus.tick hticks
  armed := by
    have hswitch := Bus.switch_tick m.bus ticks
    refine h.armed.imp (fun hnone => ?_) fun ⟨harmed, hawake⟩ => ⟨?_, hawake⟩
    · exact (congrArg Prod.snd hswitch).trans hnone
    · exact hswitch.trans harmed

/-- An acceptance leaves the switch off and not armed. -/
theorem accepting (h : m.Regular) (k : Interrupt) : (m.accepting k).Regular where
  flags := h.flags
  armed := .inl (congrArg Prod.snd (switch_accepting m k))
  bus := (h.bus.mapInterrupts _).writeAll _

theorem entry (h : m.Regular) : m.entry.Regular := by
  cases hpending : m.bus.interrupts.pending? with
  | none =>
      rw [entry_of_not_pending hpending]
      exact h
  | some k =>
      rw [entry_of_pending hpending]
      exact (h.accepting k).after (by decide)

theorem request (h : m.Regular) (k : Interrupt) :
    Machine.Regular ⟨m.cpu, m.bus.mapInterrupts (·.request k)⟩ where
  flags := h.flags
  armed := h.armed
  bus := h.bus.mapInterrupts fun ic => ic.request k

end Regular

end Machine

/-! ## The console -/

/-- What can be done to a console from outside: a call, or a request for an interrupt. -/
inductive Stimulus where
  | call (c : Call)
  | request (k : Interrupt)

namespace Console

def respond (c : Console) : Stimulus → Console
  | .call call => c.perform call
  | .request k => ⟨⟨c.machine.cpu, c.machine.bus.mapInterrupts (·.request k)⟩, c.elapsed⟩

/-- The console after a sequence of stimuli. -/
def respondAll (c : Console) (stimuli : List Stimulus) : Console :=
  stimuli.foldl respond c

/-- What a console keeps between steps. -/
structure Regular (c : Console) : Prop where
  machine : c.machine.Regular
  elapsed : 4 ∣ c.elapsed.toNat

variable {c : Console}

/-- What every step keeps, every call keeps. -/
theorem perform_of_next {p : Console → Prop} (hnext : ∀ c, p c → p c.next) (h : p c)
    (call : Call) : p (c.perform call) := by
  have hrun : ∀ s, Metered.Run (.ofConsole c) s → p s.console := by
    intro s hs
    induction hs with
    | refl => exact h
    | @tail s' _ ih =>
        have hforget := congrArg Metered.console (Metered.step_eq s').2
        rw [hforget]
        exact hnext s'.console ih
  have hcall := Metered.console_perform (.ofConsole c) call
  rw [Metered.ofConsole] at hcall
  rw [← hcall]
  exact hrun _ (Metered.run_perform _ call)

theorem Regular.next (h : c.Regular) : c.next.Regular := by
  have hentry := h.machine.entry
  have hstep := hentry.step
  rw [Console.next]
  cases step_cases c with
  | stops _ _ _ hstops _ =>
      rw [hstops]
      exact ⟨hentry, h.elapsed⟩
  | full ticks m' _ _ hmachine _ hfull =>
      have hticks := Machine.ticks_of_step (congrArg Outcome.result hmachine)
      rw [hmachine] at hstep
      rw [hfull]
      exact ⟨hstep.after hticks.1, h.elapsed⟩
  | goesOn ticks m' _ _ hmachine hroom hgoes _ =>
      have hticks := Machine.ticks_of_step (congrArg Outcome.result hmachine)
      rw [hmachine] at hstep
      rw [hgoes]
      refine ⟨hstep.after hticks.1, ?_⟩
      rw [toNat_elapsed_add hroom]
      exact Nat.dvd_add h.elapsed (Nat.dvd_add c.machine.four_dvd_entryTicks hticks.1)

theorem Regular.respond (h : c.Regular) (stimulus : Stimulus) : (c.respond stimulus).Regular := by
  cases stimulus with
  | call call => exact perform_of_next (fun _ hc => Regular.next hc) h call
  | request k => exact ⟨h.machine.request k, h.elapsed⟩

theorem regular_start (cartridge : Cartridge) : (start cartridge).Regular where
  machine := by
    constructor
    case flags =>
      show Cpu.initial.f &&& 0x0F = 0
      decide
    case armed =>
      have hboot := Bus.switch_writeAll (Bus.initial.insert cartridge) Bus.bootWrites
      exact .inl (congrArg Prod.snd hboot)
    case bus => exact Bus.regular_withCartridge cartridge
  elapsed := Nat.dvd_zero 4

/-- The fields of a regular console, one by one. -/
structure IsRegular (c : Console) : Prop where
  flags : c.machine.cpu.f &&& 0x0F = 0
  delay : c.machine.bus.interrupts.delay? = none ∨ c.machine.bus.interrupts.delay? = some 1
  armed : c.machine.bus.interrupts.delay? = some 1 →
    c.machine.bus.interrupts.master = false ∧ c.machine.cpu.halted = false
  control : c.machine.bus.timer.control ≤ 7
  counter : 4 ∣ c.machine.bus.timer.counter.toNat
  owed : 4 ∣ c.machine.bus.timer.owed ∧ c.machine.bus.timer.owed < 1024
  elapsed : 4 ∣ c.elapsed.toNat
  hidden : ∀ a : Word,
    0xFEA0 ≤ a ∧ a ≤ 0xFEFF ∨ 0xFF04 ≤ a ∧ a ≤ 0xFF07 ∨ a = 0xFF0F ∨ a = 0xFFFF →
      c.machine.bus.memory.read a = 0
  serialControl : c.machine.bus.memory.read 0xFF02 ≠ 0x81

theorem Regular.isRegular (h : c.Regular) : c.IsRegular := by
  have htimer := h.machine.bus.timer
  constructor
  case flags => exact h.machine.flags
  case delay => exact h.machine.isSettled.imp id fun harmed => congrArg Prod.snd harmed
  case armed =>
    intro hdelay
    rcases h.machine.armed with hnone | ⟨harmed, hawake⟩
    · rw [hnone] at hdelay
      cases hdelay
    · exact ⟨congrArg Prod.fst harmed, hawake⟩
  case control => exact htimer.control
  case counter => exact htimer.counter
  case owed => exact ⟨htimer.owed, htimer.owed_lt⟩
  case elapsed => exact h.elapsed
  case hidden => exact h.machine.bus.hidden
  case serialControl => exact h.machine.bus.serial

/-- A console that has started a cartridge is regular after any sequence of calls, whether they
go on to their end or stop, and of requests for interrupts in between. -/
theorem isRegular_of_stimuli (cartridge : Cartridge) (stimuli : List Stimulus) :
    ((start cartridge).respondAll stimuli).IsRegular := by
  have hregular : ((start cartridge).respondAll stimuli).Regular := by
    generalize hstart : start cartridge = c
    have hc : c.Regular := hstart ▸ regular_start cartridge
    clear hstart
    induction stimuli generalizing c with
    | nil => exact hc
    | cons stimulus stimuli ih => exact ih _ (hc.respond stimulus)
  exact hregular.isRegular

end Console

end Handheld
