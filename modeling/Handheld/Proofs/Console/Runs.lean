import Handheld.Proofs.Console.Faults

/-!
# Runs for a budget

A run for a budget is a number of steps (`Console.steps`): the least number that takes as many
ticks as the budget has, unless one of these steps stops (`EndsAfter`).  Every step takes four
ticks or more, so there is such a number and the loop finds it before its fuel is used up
(`runLoop_eq`); and a step takes 44 ticks or fewer, so a run that goes on passes its budget by
less than that.
-/

namespace Handheld

/-- The outcome with only those events that pass the filter. -/
def Outcome.filtered (o : Outcome σ α) (filter : Event → Bool) : Outcome σ α :=
  ⟨o.result, o.state, o.events.filter filter⟩

theorem Outcome.eq_of_result {o : Outcome σ α} {result : Except Stop α} (h : o.result = result) :
    o = ⟨result, o.state, o.events⟩ := by
  rw [← h]

/-- To work on what an action yields changes nothing else of its outcome. -/
theorem Action.bind_return (x : Action σ α) (f : α → β) (s : σ) :
    (do
      let a ← x
      return f a) s = ⟨(x s).result.map f, (x s).state, (x s).events⟩ := by
  rcases h : x s with ⟨_ | a, s', events⟩
  · rw [Action.bind_of_error h]
    rfl
  · rw [Action.bind_of_ok h]
    show Outcome.mk _ _ (events ++ []) = _
    rw [List.append_nil]
    rfl

namespace Console

variable {c c' : Console} {budget k m n t : Nat} {s : Stop} {events : List Event}

/-! ## A number of steps -/

/-- So many steps, and the time they took. -/
def steps : (n : Nat) → Action Console Nat
  | 0 => return 0
  | n + 1 => do
    let ticks ← step
    let more ← steps n
    return ticks + more

theorem steps_zero (c : Console) : steps 0 c = ⟨.ok 0, c, []⟩ := rfl

theorem steps_one : steps 1 = step := by
  simp only [steps, pure_bind, Nat.add_zero, bind_pure]

theorem steps_add (m n : Nat) :
    steps (m + n) = do
      let ticks ← steps m
      let more ← steps n
      return ticks + more := by
  induction m with
  | zero => simp only [steps, Nat.zero_add, pure_bind, bind_pure]
  | succ m ih =>
      rw [Nat.add_right_comm, steps, ih, steps]
      simp only [bind_assoc, pure_bind, Nat.add_assoc]

theorem steps_add_of_ok (h : steps m c = ⟨.ok t, c', events⟩) (n : Nat) :
    steps (m + n) c =
      ⟨(steps n c').result.map (t + ·), (steps n c').state, events ++ (steps n c').events⟩ := by
  rw [steps_add, Action.bind_of_ok h, Action.bind_return]

theorem steps_add_of_error (h : steps m c = ⟨.error s, c', events⟩) (n : Nat) :
    steps (m + n) c = ⟨.error s, c', events⟩ := by
  rw [steps_add, Action.bind_of_error h]

/-- The steps before the last one go on. -/
theorem steps_succ_of_ok (h : steps n c = ⟨.ok t, c', events⟩) :
    steps (n + 1) c =
      ⟨(step c').result.map (t + ·), (step c').state, events ++ (step c').events⟩ := by
  rw [steps_add_of_ok h 1, steps_one]

theorem exists_of_steps_ok {total : Nat} (h : (steps (n + 1) c).result = .ok total) :
    ∃ t c' events ticks, steps n c = ⟨.ok t, c', events⟩ ∧ (step c').result = .ok ticks ∧
      total = t + ticks := by
  rcases hfirst : steps n c with ⟨_ | t, c', events⟩
  · rw [steps_add_of_error hfirst] at h
    cases h
  · rw [steps_succ_of_ok hfirst] at h
    cases hlast : (step c').result with
    | error e =>
        rw [hlast] at h
        cases h
    | ok ticks =>
        rw [hlast] at h
        exact ⟨t, c', events, ticks, rfl, hlast, (Except.ok.inj h).symm⟩

theorem elapsed_of_step {ticks : Nat} (h : (step c).result = .ok ticks) :
    (step c).state.elapsed.toNat = c.elapsed.toNat + ticks := by
  cases step_cases c with
  | stops _ _ _ hstep _ | full _ _ _ _ _ _ hstep =>
      rw [hstep] at h
      cases h
  | goesOn executed m' _ _ _ hroom hstep _ =>
      rw [hstep] at h ⊢
      obtain rfl := Except.ok.inj h
      exact toNat_elapsed_add hroom

theorem elapsed_of_steps (h : steps n c = ⟨.ok t, c', events⟩) :
    c'.elapsed.toNat = c.elapsed.toNat + t := by
  induction n generalizing t c' events with
  | zero =>
      obtain ⟨hzero, rfl, -⟩ := Outcome.mk.inj h
      obtain rfl := Except.ok.inj hzero
      rfl
  | succ n ih =>
      obtain ⟨t', c'', events', ticks, hfirst, hlast, rfl⟩ :=
        exists_of_steps_ok (congrArg Outcome.result h)
      obtain rfl : (step c'').state = c' := by
        rw [steps_succ_of_ok hfirst] at h
        exact congrArg Outcome.state h
      rw [elapsed_of_step hlast, ih hfirst, Nat.add_assoc]

/-! ## The number of steps for a budget -/

/-- Fewer steps than `k` go on and take less than the budget. -/
def StaysBelow (c : Console) (budget k : Nat) : Prop :=
  ∀ j < k, ∃ t, (steps j c).result = .ok t ∧ t < budget

/-- The least number of steps that take as many ticks as the budget has is `k`, or the step
number `k` is the first one to stop, and comes before that. -/
structure EndsAfter (c : Console) (budget k : Nat) : Prop where
  below : c.StaysBelow budget k
  reached : ∀ t, (steps k c).result = .ok t → budget ≤ t

/-- The steps before the end are as many as there are steps that stay below the budget. -/
theorem EndsAfter.le_of_staysBelow (h : c.EndsAfter budget k) (hn : c.StaysBelow budget n) :
    n ≤ k := by
  by_contra hlt
  obtain ⟨t, ht, hbelow⟩ := hn k (Nat.not_le.mp hlt)
  exact Nat.not_lt.mpr (h.reached t ht) hbelow

theorem EndsAfter.unique (h : c.EndsAfter budget k) (h' : c.EndsAfter budget n) : k = n :=
  Nat.le_antisymm (h'.le_of_staysBelow h.below) (h.le_of_staysBelow h'.below)

theorem StaysBelow.mono {b : Nat} (h : c.StaysBelow budget k) (hb : budget ≤ b) :
    c.StaysBelow b k := by
  intro j hj
  obtain ⟨t, ht, hbelow⟩ := h j hj
  exact ⟨t, ht, Nat.lt_of_lt_of_le hbelow hb⟩

/-- Steps that stay below a budget can be followed by such as stay below what is left of it. -/
theorem StaysBelow.append (h : c.StaysBelow budget m) (hm : steps m c = ⟨.ok t, c', events⟩)
    (h' : c'.StaysBelow (budget - t) n) : c.StaysBelow budget (m + n) := by
  intro j hj
  by_cases hfirst : j < m
  · exact h j hfirst
  · obtain ⟨i, rfl⟩ := Nat.exists_eq_add_of_le (Nat.not_lt.mp hfirst)
    obtain ⟨more, hmore, hbelow⟩ := h' i (by omega)
    refine ⟨t + more, ?_, by omega⟩
    rw [steps_add_of_ok hm, hmore]
    rfl

theorem EndsAfter.append (h : c.StaysBelow budget m) (hm : steps m c = ⟨.ok t, c', events⟩)
    (h' : c'.EndsAfter (budget - t) n) : c.EndsAfter budget (m + n) where
  below := h.append hm h'.below
  reached := by
    intro total htotal
    rw [steps_add_of_ok hm] at htotal
    cases hlater : (steps n c').result with
    | error e =>
        rw [hlater] at htotal
        cases htotal
    | ok more =>
        rw [hlater] at htotal
        have hreached := h'.reached more hlater
        obtain rfl := Except.ok.inj htotal
        exact Nat.sub_le_iff_le_add'.mp hreached

theorem endsAfter_of_error {b : Nat} (h : c.StaysBelow budget k) (hb : budget ≤ b)
    (hk : (steps k c).result = .error s) : c.EndsAfter b k where
  below := h.mono hb
  reached := by
    intro t ht
    rw [hk] at ht
    cases ht

theorem staysBelow_zero (c : Console) (budget : Nat) : c.StaysBelow budget 0 := by
  intro j hj
  exact absurd hj (Nat.not_lt_zero j)

theorem endsAfter_zero (c : Console) (h : budget = 0) : c.EndsAfter budget 0 where
  below := staysBelow_zero c budget
  reached := by
    intro t _
    rw [h]
    exact Nat.zero_le t

theorem staysBelow_one (c : Console) (hbudget : 0 < budget) : c.StaysBelow budget 1 := by
  intro j hj
  obtain rfl := Nat.lt_one_iff.mp hj
  exact ⟨0, rfl, hbudget⟩

/-! ## The loop -/

theorem map_add_map_add (x : Except Stop Nat) (m n : Nat) :
    (x.map (n + ·)).map (m + ·) = x.map (m + n + ·) := by
  cases x with
  | error e => rfl
  | ok t => exact congrArg Except.ok (Nat.add_assoc m n t).symm

section Loop

variable (filter : Event → Bool) (fuel : Nat) {passed : Nat} (log : Array Event)

theorem runLoop_of_passed (h : budget ≤ passed) (c : Console) :
    runLoop filter budget fuel passed log c = ⟨.ok passed, c, log.toList⟩ := by
  cases fuel with
  | zero => rfl
  | succ fuel => rw [runLoop, if_pos h]

theorem runLoop_of_ok (h : ¬ budget ≤ passed) (hstep : step c = ⟨.ok t, c', events⟩) :
    runLoop filter budget (fuel + 1) passed log c =
      runLoop filter budget fuel (passed + t) (log ++ events.filter filter) c' := by
  rw [runLoop, if_neg h, hstep]

theorem runLoop_of_error (h : ¬ budget ≤ passed) (hstep : step c = ⟨.error s, c', events⟩) :
    runLoop filter budget (fuel + 1) passed log c =
      ⟨.error s, c', log.toList ++ events.filter filter⟩ := by
  rw [runLoop, if_neg h, hstep, ← Array.toList_appendList]

end Loop

/-- With fuel for the budget, the loop takes the steps that the budget calls for.  The induction
is on the fuel: each step takes four ticks off the budget or more. -/
theorem runLoop_eq (filter : Event → Bool) (fuel passed : Nat) (log : Array Event) (c : Console)
    (hfuel : budget ≤ passed + 4 * fuel) :
    ∃ k ≤ fuel, c.EndsAfter (budget - passed) k ∧
      runLoop filter budget fuel passed log c =
        ⟨(steps k c).result.map (passed + ·), (steps k c).state,
          log.toList ++ (steps k c).events.filter filter⟩ := by
  induction fuel generalizing passed log c with
  | zero =>
      have hpassed : budget ≤ passed := hfuel
      refine ⟨0, Nat.le_refl 0, endsAfter_zero c (Nat.sub_eq_zero_of_le hpassed), ?_⟩
      rw [runLoop_of_passed filter 0 log hpassed, steps_zero, List.filter_nil, List.append_nil]
      rfl
  | succ fuel ih =>
      by_cases hpassed : budget ≤ passed
      · refine ⟨0, Nat.zero_le _, endsAfter_zero c (Nat.sub_eq_zero_of_le hpassed), ?_⟩
        rw [runLoop_of_passed filter _ log hpassed, steps_zero, List.filter_nil, List.append_nil]
        rfl
      · have hleft : 0 < budget - passed := Nat.sub_pos_of_lt (Nat.not_le.mp hpassed)
        have hbelow := staysBelow_one c hleft
        rcases hstep : step c with ⟨e | ticks, c', events⟩
        · have hone : steps 1 c = ⟨.error e, c', events⟩ := by rw [steps_one, hstep]
          have hends := endsAfter_of_error hbelow (Nat.le_refl _) (congrArg Outcome.result hone)
          refine ⟨1, Nat.succ_pos fuel, hends, ?_⟩
          rw [runLoop_of_error filter fuel log hpassed hstep, hone]
          rfl
        · have hone : steps 1 c = ⟨.ok ticks, c', events⟩ := by rw [steps_one, hstep]
          obtain ⟨-, hticks, -⟩ := ticks_of_step (congrArg Outcome.result hstep)
          obtain ⟨k, hk, hends, hloop⟩ :=
            ih (passed + ticks) (log ++ events.filter filter) c' (by omega)
          rw [← Nat.sub_sub] at hends
          refine ⟨1 + k, by omega, .append hbelow hone hends, ?_⟩
          rw [runLoop_of_ok filter fuel log hpassed hstep, hloop, steps_add_of_ok hone,
            Array.toList_appendList, map_add_map_add, List.filter_append, List.append_assoc]

theorem exists_endsAfter (c : Console) (budget : Nat) :
    ∃ k ≤ (budget + 3) / 4, c.EndsAfter budget k := by
  have hfuel : budget ≤ 0 + 4 * ((budget + 3) / 4) := by omega
  obtain ⟨k, hk, hends, -⟩ := runLoop_eq (fun _ => false) _ 0 #[] c hfuel
  exact ⟨k, hk, hends⟩

/-- A run is the number of steps that its budget calls for, also with more fuel than it needs. -/
theorem EndsAfter.runLoop_eq (h : c.EndsAfter budget k) (filter : Event → Bool) {fuel : Nat}
    (hfuel : (budget + 3) / 4 ≤ fuel) :
    runLoop filter budget fuel 0 #[] c = (steps k c).filtered filter := by
  have henough : budget ≤ 0 + 4 * fuel := by omega
  obtain ⟨n, -, hn, hloop⟩ := Console.runLoop_eq filter fuel 0 #[] c henough
  obtain rfl := h.unique hn
  have hresult : (steps k c).result.map (0 + ·) = (steps k c).result := by
    cases (steps k c).result with
    | error e => rfl
    | ok t => exact congrArg Except.ok (Nat.zero_add t)
  rw [hloop, hresult]
  rfl

theorem EndsAfter.runFor_eq (h : c.EndsAfter budget k) (filter : Event → Bool) :
    runFor filter budget c = (steps k c).filtered filter :=
  h.runLoop_eq filter (Nat.le_refl _)

/-! ## What a run comes to -/

/-- A run that goes on passes its budget by less than the time of a step. -/
theorem EndsAfter.lt_of_ok (h : c.EndsAfter budget k) (hk : (steps k c).result = .ok t) :
    t < budget + 44 := by
  cases k with
  | zero =>
      obtain rfl : 0 = t := Except.ok.inj hk
      omega
  | succ k =>
      obtain ⟨before, c', events, ticks, hbefore, hlast, rfl⟩ := exists_of_steps_ok hk
      obtain ⟨t', ht', hbelow⟩ := h.below k (Nat.lt_succ_self k)
      rw [hbefore] at ht'
      obtain rfl := Except.ok.inj ht'
      obtain ⟨-, -, hticks⟩ := ticks_of_step hlast
      omega

/-- With room for the budget and a step, a run stops at an undefined opcode or not at all. -/
theorem EndsAfter.undefinedOpcode_of_error (h : c.EndsAfter budget k)
    (hroom : c.elapsed.toNat + budget + 44 < UInt64.size) (hk : (steps k c).result = .error s) :
    ∃ e, s = .undefinedOpcode e := by
  have hsize : UInt64.size = 2 ^ 64 := rfl
  cases k with
  | zero => cases hk
  | succ k =>
      obtain ⟨t, ht, hbelow⟩ := h.below k (Nat.lt_succ_self k)
      rcases hbefore : steps k c with ⟨result, c', events⟩
      rw [hbefore] at ht
      obtain rfl : result = .ok t := ht
      have helapsed := elapsed_of_steps hbefore
      rw [steps_succ_of_ok hbefore] at hk
      rcases step_of_room (c := c') (by omega) with ⟨ticks, hlast⟩ | ⟨e, hlast⟩
      · rw [hlast] at hk
        cases hk
      · rw [hlast] at hk
        exact ⟨e, (Except.error.inj hk).symm⟩

/-- A run takes a step for every four ticks of its budget at most, also if it has more fuel.  It
takes the least number of steps that come to the budget, or it ends with the first one that stops,
and then at an undefined opcode.  If it goes on, it yields the ticks of these steps, which are by
less than 44 more than the budget, and the tick counter has moved by just as many. -/
theorem runFor_ends_in_time (filter : Event → Bool) (budget : Nat) (c : Console)
    (hroom : c.elapsed.toNat + budget + 44 < UInt64.size) :
    ∃ k ≤ (budget + 3) / 4, c.EndsAfter budget k ∧
      runFor filter budget c = (steps k c).filtered filter ∧
      (∀ fuel, (budget + 3) / 4 ≤ fuel →
        runLoop filter budget fuel 0 #[] c = runFor filter budget c) ∧
      (∀ t, (runFor filter budget c).result = .ok t →
        budget ≤ t ∧ t < budget + 44 ∧
          (runFor filter budget c).state.elapsed.toNat = c.elapsed.toNat + t) ∧
      ∀ s, (runFor filter budget c).result = .error s → ∃ e, s = .undefinedOpcode e := by
  obtain ⟨k, hk, hends⟩ := c.exists_endsAfter budget
  have hrun := hends.runFor_eq filter
  refine ⟨k, hk, hends, hrun, ?_, ?_, ?_⟩
  · intro fuel hfuel
    rw [hrun, hends.runLoop_eq filter hfuel]
  · rw [hrun]
    intro t ht
    have hresult : (steps k c).result = .ok t := ht
    have helapsed := elapsed_of_steps (Outcome.eq_of_result hresult)
    exact ⟨hends.reached t hresult, hends.lt_of_ok hresult, helapsed⟩
  · rw [hrun]
    intro s hs
    exact hends.undefinedOpcode_of_error hroom hs

/-- A console that sleeps on, with just as much room in its tick counter as a run for ten ticks
may need. -/
def sleepingLate : Console :=
  ⟨⟨{ Cpu.initial with halted := true }, .initial⟩, 0xFFFFFFFFFFFFFFC9⟩

/-- Three steps are as many as it takes. -/
theorem sleepingLate_ends_in_time :
    sleepingLate.elapsed.toNat + 10 + 44 < UInt64.size ∧
      (runFor (fun _ => true) 10 sleepingLate).result = .ok 12 ∧
      (∃ k ≤ 3, sleepingLate.EndsAfter 10 k ∧
        runFor (fun _ => true) 10 sleepingLate = (steps k sleepingLate).filtered fun _ => true) ∧
      10 ≤ 12 ∧ 12 < 10 + 44 ∧
      (runFor (fun _ => true) 10 sleepingLate).state.elapsed.toNat =
        sleepingLate.elapsed.toNat + 12 := by
  have hroom : sleepingLate.elapsed.toNat + 10 + 44 < UInt64.size := by decide
  have hresult : (runFor (fun _ => true) 10 sleepingLate).result = .ok 12 := by decide +kernel
  obtain ⟨k, hk, hends, hrun, _, hok, _⟩ :=
    runFor_ends_in_time (fun _ => true) 10 sleepingLate hroom
  exact ⟨hroom, hresult, ⟨k, hk, hends, hrun⟩, hok 12 hresult⟩

end Console

end Handheld
