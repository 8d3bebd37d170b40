import Handheld.Proofs.Checked
import Handheld.Proofs.Console.Step

/-!
# Steps without faults

Every entry of the opcode tables suits its handler, a step takes at most 44 ticks, and no
sum or difference that a step computes leaves its range.  So a step of the console either
goes on or stops at an undefined opcode, as long as the tick counter has room for 44 ticks.
-/

namespace Handheld

namespace Console

/-- The time of a step that goes on. -/
theorem ticks_of_step {c : Console} {ticks : Nat} (h : (step c).result = .ok ticks) :
    4 ∣ ticks ∧ 4 ≤ ticks ∧ ticks ≤ 44 := by
  cases step_cases c with
  | stops _ _ _ hstep _ | full _ _ _ _ _ _ hstep =>
      rw [hstep] at h
      cases h
  | goesOn executed m' events _ hmachine _ hstep _ =>
      rw [hstep] at h
      obtain rfl := Except.ok.inj h
      obtain ⟨hdvd, hge, hle⟩ := Machine.ticks_of_step (congrArg Outcome.result hmachine)
      have hentry := c.machine.entryTicks_le
      exact ⟨(Nat.dvd_add_right c.machine.four_dvd_entryTicks).mpr hdvd, by omega, by omega⟩

/-- With room for 44 ticks, a step goes on or stops at an undefined opcode. -/
theorem step_of_room {c : Console} (h : c.elapsed.toNat ≤ 2 ^ 64 - 1 - 44) :
    (∃ ticks, (step c).result = .ok ticks) ∨
      ∃ e, (step c).result = .error (.undefinedOpcode e) := by
  cases step_cases c with
  | stops e _ _ hstep _ => exact .inr ⟨e, by rw [hstep]⟩
  | goesOn _ _ _ _ _ _ hstep _ => exact .inl ⟨_, by rw [hstep]⟩
  | full ticks m' events _ hmachine hfull _ =>
      obtain ⟨_, _, hle⟩ := Machine.ticks_of_step (congrArg Outcome.result hmachine)
      have hentry := c.machine.entryTicks_le
      have hsize : UInt64.size = 2 ^ 64 := rfl
      omega

/-- No state of the processor, the bus and the tick counter lets a step fail in any way but
at an undefined opcode, if there is room for 44 ticks.  Every entry of the tables suits its
handler, with any operand bytes, at any address and in any machine; every address in the
timer's window belongs to one of its registers; and no checked sum, difference, remainder
or shift fails. -/
theorem step_never_faults :
    (∀ c : Console, c.elapsed.toNat ≤ 2 ^ 64 - 1 - 44 →
      (∃ ticks, (step c).result = .ok ticks ∧ 4 ∣ ticks ∧ 4 ≤ ticks ∧ ticks ≤ 44) ∨
        ∃ e, (step c).result = .error (.undefinedOpcode e)) ∧
    (∀ (page : OpcodePage) (code : Byte) (op : Opcode),
      Opcode.lookup? page code = some op →
        ∀ (operand address : Word) (m : Machine),
          ∃ completion, (Machine.execute ⟨op, operand, address⟩ m).result = .ok completion) ∧
    (∀ address : Word, 0xFF04 ≤ address → address ≤ 0xFF07 →
      ∃ r, Timer.Register.at? address = some r) ∧
    Checked.Exact := by
  refine ⟨fun c hroom => ?_, fun page code op hlookup operand address m => ?_,
    fun _ => Timer.Register.at?_of_le, Checked.exact⟩
  · rcases step_of_room hroom with ⟨ticks, hstep⟩ | hstop
    · exact .inl ⟨ticks, hstep, ticks_of_step hstep⟩
    · exact .inr hstop
  · obtain ⟨completion, _, _, _, hexecute, _⟩ :=
      Machine.execute_of_fits (i := ⟨op, operand, address⟩) (Opcode.fits_of_lookup? hlookup) m
    exact ⟨completion, by rw [hexecute]⟩

/-- The last state of the tick counter that has room, an operation from each page, and an
address in the timer's window. -/
theorem step_never_faults_with_least_room :
    (0xFFFFFFFFFFFFFFD3 : UInt64).toNat ≤ 2 ^ 64 - 1 - 44 ∧
      ((∃ ticks, (step ⟨.initial, 0xFFFFFFFFFFFFFFD3⟩).result = .ok ticks ∧
          4 ∣ ticks ∧ 4 ≤ ticks ∧ ticks ≤ 44) ∨
        ∃ e, (step ⟨.initial, 0xFFFFFFFFFFFFFFD3⟩).result = .error (.undefinedOpcode e)) ∧
      (∃ op, Opcode.lookup? .base 0x3A = some op ∧
        ∃ completion, (Machine.execute ⟨op, 0, 0x0100⟩ .initial).result = .ok completion) ∧
      (∃ op, Opcode.lookup? .extended 0x7E = some op ∧
        ∃ completion, (Machine.execute ⟨op, 0, 0x0100⟩ .initial).result = .ok completion) ∧
      ∃ r, Timer.Register.at? 0xFF06 = some r := by
  obtain ⟨hstep, hexecute, haddress, _⟩ := step_never_faults
  have hroom : (0xFFFFFFFFFFFFFFD3 : UInt64).toNat ≤ 2 ^ 64 - 1 - 44 := by decide
  refine ⟨hroom, hstep _ hroom, ⟨_, rfl, ?_⟩, ⟨_, rfl, ?_⟩, ?_⟩
  · exact hexecute .base 0x3A _ rfl 0 0x0100 .initial
  · exact hexecute .extended 0x7E _ rfl 0 0x0100 .initial
  · exact haddress 0xFF06 (by decide) (by decide)

end Console

end Handheld
