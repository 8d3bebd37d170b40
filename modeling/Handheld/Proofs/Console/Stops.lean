import Handheld.Proofs.Console.Sent

/-!
# Runs that stop by themselves

There are two loops that take steps, one for a budget and one that goes on until a step stops.
From a console that stops by itself (`StopsAfter`) both take the same steps, if the budget is more
than the ticks of the steps before the stop (`StopsAfter.runFor_of_lt`,
`StopsAfter.runUntilStop_of_lt`).  With a smaller budget a run ends well, at one of the steps before
the stop.
-/

namespace Handheld.Console

/-- After `n` steps that take `t` ticks, the next step stops. -/
structure StopsAfter (c : Console) (n t : Nat) (s : Stop) : Prop where
  goesOn : (steps n c).result = .ok t
  stops : (step (steps n c).state).result = .error s

variable {c c' : Console} {budget fuel k n t : Nat} {s : Stop} {events : List Event}

/-- If a number of steps goes on, every smaller number does, and takes no longer. -/
theorem exists_le_of_steps_ok (h : (steps n c).result = .ok t) (hk : k ≤ n) :
    ∃ t' ≤ t, (steps k c).result = .ok t' := by
  obtain ⟨j, rfl⟩ := Nat.exists_eq_add_of_le hk
  rcases hfirst : steps k c with ⟨_ | t', c', events⟩
  · rw [steps_add_of_error hfirst] at h
    cases h
  · rw [steps_add_of_ok hfirst] at h
    cases hlast : (steps j c').result with
    | error e =>
        rw [hlast] at h
        cases h
    | ok more =>
        rw [hlast] at h
        obtain rfl := Except.ok.inj h
        exact ⟨t', Nat.le_add_right t' more, rfl⟩

/-! ## The loop without a budget -/

/-- As long as steps go on, the loop takes them and adds what they report to its log.  The induction
takes off the last step, so that the loop has fuel for it left. -/
theorem runUntilStop_of_steps (filter : Event → Bool) (fuel : Nat) (log : Array Event)
    (h : steps n c = ⟨.ok t, c', events⟩) :
    runUntilStop filter (n + fuel) log c =
      runUntilStop filter fuel (log ++ events.filter filter) c' := by
  induction n generalizing fuel t c' events with
  | zero =>
      obtain ⟨-, rfl, rfl⟩ := Outcome.mk.inj h
      rw [Nat.zero_add, List.filter_nil, Array.appendList_nil]
  | succ n ih =>
      obtain ⟨t', c'', earlier, ticks, hfirst, hlast, -⟩ :=
        exists_of_steps_ok (congrArg Outcome.result h)
      rw [steps_succ_of_ok hfirst] at h
      obtain ⟨-, rfl, rfl⟩ := Outcome.mk.inj h
      -- The log of the loop grows step by step, that of the steps is filtered as a whole.
      have hlog : log ++ (earlier ++ (step c'').events).filter filter =
          log ++ earlier.filter filter ++ (step c'').events.filter filter := by
        apply Array.toList_inj.mp
        simp only [Array.toList_appendList, List.filter_append, List.append_assoc]
      rw [Nat.add_assoc, Nat.add_comm 1, ih (fuel + 1) hfirst, runUntilStop,
        Outcome.eq_of_result hlast, hlog]

theorem runUntilStop_of_error (filter : Event → Bool) (fuel : Nat) (log : Array Event)
    (h : step c = ⟨.error s, c', events⟩) :
    runUntilStop filter (fuel + 1) log c =
      ⟨.error s, c', log.toList ++ events.filter filter⟩ := by
  rw [runUntilStop, h, ← Array.toList_appendList]

/-! ## Both loops -/

namespace StopsAfter

theorem result_steps_succ (h : c.StopsAfter n t s) : (steps (n + 1) c).result = .error s := by
  rw [steps_succ_of_ok (Outcome.eq_of_result h.goesOn), h.stops]
  rfl

theorem state_steps_succ (h : c.StopsAfter n t s) :
    (steps (n + 1) c).state = (step (steps n c).state).state := by
  rw [steps_succ_of_ok (Outcome.eq_of_result h.goesOn)]

theorem events_steps_succ (h : c.StopsAfter n t s) :
    (steps (n + 1) c).events = (steps n c).events ++ (step (steps n c).state).events := by
  rw [steps_succ_of_ok (Outcome.eq_of_result h.goesOn)]

theorem staysBelow (h : c.StopsAfter n t s) (hbudget : t < budget) :
    c.StaysBelow budget (n + 1) := by
  intro j hj
  obtain ⟨t', hle, hgoesOn⟩ := exists_le_of_steps_ok h.goesOn (Nat.le_of_lt_succ hj)
  exact ⟨t', hgoesOn, Nat.lt_of_le_of_lt hle hbudget⟩

/-- With a budget that the steps before the stop leave something of, a run comes to the stop. -/
theorem runFor_of_lt (h : c.StopsAfter n t s) (hbudget : t < budget) (filter : Event → Bool) :
    runFor filter budget c = (steps (n + 1) c).filtered filter := by
  have hends := endsAfter_of_error (h.staysBelow hbudget) (Nat.le_refl _) h.result_steps_succ
  exact hends.runFor_eq filter

/-- With any other budget, a run goes on, and takes no more than the steps before the stop. -/
theorem runFor_of_le (h : c.StopsAfter n t s) (hbudget : budget ≤ t) :
    ∃ k ≤ n, ∃ passed ≤ t, (steps k c).result = .ok passed ∧
      ∀ filter, runFor filter budget c = (steps k c).filtered filter := by
  obtain ⟨k, -, hends⟩ := c.exists_endsAfter budget
  have hk : k ≤ n := by
    by_contra hlt
    obtain ⟨t', ht', hbelow⟩ := hends.below n (Nat.not_le.mp hlt)
    rw [h.goesOn] at ht'
    obtain rfl := Except.ok.inj ht'
    exact Nat.not_lt.mpr hbudget hbelow
  obtain ⟨passed, hpassed, hgoesOn⟩ := exists_le_of_steps_ok h.goesOn hk
  exact ⟨k, hk, passed, hpassed, hgoesOn, hends.runFor_eq⟩

/-- Without a budget, a run comes to the stop with more fuel than there are steps before it. -/
theorem runUntilStop_of_lt (h : c.StopsAfter n t s) (hfuel : n < fuel) (filter : Event → Bool) :
    runUntilStop filter fuel #[] c =
      ⟨.error s, (steps (n + 1) c).state, (steps (n + 1) c).events.filter filter⟩ := by
  obtain ⟨more, rfl⟩ := Nat.exists_eq_add_of_lt hfuel
  rw [Nat.add_assoc, runUntilStop_of_steps filter _ _ (Outcome.eq_of_result h.goesOn),
    runUntilStop_of_error filter _ _ (Outcome.eq_of_result h.stops), h.state_steps_succ,
    h.events_steps_succ, List.filter_append, Array.toList_appendList]
  rfl

end StopsAfter

end Handheld.Console
