import Handheld.Proofs.Console.Runs
import Handheld.Proofs.Machine.Yields

/-!
# Runs in chunks

A run for a budget can be cut anywhere: to run for a part of the budget, and then for what the
first run has left of it, is to run for the whole budget at once (`runFor_eq_bind`).  The first
run may pass its own budget, and it may stop; neither makes a difference.  So whatever list of
budgets a run is led through, it only passes through states of the run for the last one.
-/

namespace Handheld.Console

variable {c c' : Console} {a b e k m n passed : Nat} {s : Stop} {events : List Event}
  {filter : Event → Bool}

/-! ## One cut -/

theorem runFor_of_error (hab : a ≤ b) (h : (runFor filter a c).result = .error s) :
    runFor filter b c = runFor filter a c := by
  obtain ⟨k, -, hends⟩ := c.exists_endsAfter a
  have hrun := hends.runFor_eq filter
  have hk : (steps k c).result = .error s := by
    rw [hrun] at h
    exact h
  rw [hrun, (endsAfter_of_error hends.below hab hk).runFor_eq]

theorem runFor_of_ok (hab : a ≤ b) (h : runFor filter a c = ⟨.ok e, c', events⟩) :
    runFor filter b c =
      ⟨(runFor filter (b - min e b) c').result.map (e + ·),
        (runFor filter (b - min e b) c').state,
        events ++ (runFor filter (b - min e b) c').events⟩ := by
  have hmin : b - min e b = b - e := by omega
  obtain ⟨k, -, hends⟩ := c.exists_endsAfter a
  obtain ⟨n, -, hleft⟩ := c'.exists_endsAfter (b - e)
  rw [hends.runFor_eq] at h
  obtain ⟨hresult, rfl, hevents⟩ := Outcome.mk.inj h
  have hk := Outcome.eq_of_result hresult
  rw [hmin, (EndsAfter.append (hends.below.mono hab) hk hleft).runFor_eq, hleft.runFor_eq,
    Outcome.filtered, steps_add_of_ok hk, List.filter_append, hevents]
  rfl

/-- A run is one for a part of its budget, and then one for what the first has left of it. -/
theorem runFor_eq_bind (filter : Event → Bool) (hab : a ≤ b) :
    runFor filter b = do
      let e ← runFor filter a
      let more ← runFor filter (b - min e b)
      return e + more := by
  funext c
  rcases h : runFor filter a c with ⟨_ | e, c', events⟩
  · rw [Action.bind_of_error h, runFor_of_error hab (congrArg Outcome.result h), h]
  · rw [Action.bind_of_ok h, Action.bind_return, runFor_of_ok hab h]

/-! ## Any number of cuts -/

/-- Runs for one budget after the other, all counted from the start, of which `passed` ticks have
passed, and yields how many have then. -/
def runThrough (filter : Event → Bool) : (budgets : List Nat) → (passed : Nat) → Action Console Nat
  | [], passed => return passed
  | budget :: budgets, passed => do
    let more ← runFor filter (budget - min passed budget)
    runThrough filter budgets (passed + more)

/-- A run that is led through smaller budgets first is the run for the last budget. -/
theorem runThrough_bind (filter : Event → Bool) {budgets : List Nat}
    (hbudgets : ∀ a ∈ budgets, a ≤ b) (passed : Nat) :
    (do
      let e ← runThrough filter budgets passed
      let more ← runFor filter (b - min e b)
      return e + more) =
    do
      let more ← runFor filter (b - min passed b)
      return passed + more := by
  induction budgets generalizing passed with
  | nil => rw [runThrough, pure_bind]
  | cons a budgets ih =>
      rw [List.forall_mem_cons] at hbudgets
      obtain ⟨hab, hrest⟩ := hbudgets
      have hcut : a - min passed a ≤ b - min passed b := by omega
      rw [runThrough, runFor_eq_bind filter hcut]
      simp only [bind_assoc, pure_bind]
      congr 1
      funext more
      rw [ih hrest]
      have hleft : b - min (passed + more) b =
          b - min passed b - min more (b - min passed b) := by omega
      rw [hleft]
      simp only [Nat.add_assoc]

/-- Whatever smaller budgets a run is led through, it is at a state of the run for `b`. -/
theorem runThrough_visits (filter : Event → Bool) {budgets : List Nat}
    (hbudgets : ∀ a ∈ budgets, a ≤ b) {c₀ : Console} (hbelow : c₀.StaysBelow b m)
    (hm : steps m c₀ = ⟨.ok passed, c, events⟩) :
    ∃ j, c₀.StaysBelow b j ∧
      (runThrough filter budgets passed c).result = (steps j c₀).result ∧
      (runThrough filter budgets passed c).state = (steps j c₀).state := by
  induction budgets generalizing m passed c events with
  | nil =>
      refine ⟨m, hbelow, ?_, ?_⟩
      · rw [hm]
        rfl
      · rw [hm]
        rfl
  | cons a budgets ih =>
      rw [List.forall_mem_cons] at hbudgets
      obtain ⟨hab, hrest⟩ := hbudgets
      obtain ⟨k, -, hends⟩ := c.exists_endsAfter (a - min passed a)
      have hboth : c₀.StaysBelow b (m + k) :=
        hbelow.append hm (hends.below.mono (by omega))
      have hrun := hends.runFor_eq filter
      rcases hk : steps k c with ⟨_ | more, c', later⟩
      · rw [hk] at hrun
        refine ⟨m + k, hboth, ?_, ?_⟩
        · rw [runThrough, Action.bind_of_error hrun, steps_add_of_ok hm, hk]
          rfl
        · rw [runThrough, Action.bind_of_error hrun, steps_add_of_ok hm, hk]
      · rw [hk] at hrun
        have hsum : steps (m + k) c₀ = ⟨.ok (passed + more), c', events ++ later⟩ := by
          rw [steps_add_of_ok hm, hk]
          rfl
        obtain ⟨j, hj, hresult, hstate⟩ := ih hrest hboth hsum
        refine ⟨j, hj, ?_, ?_⟩
        · rw [runThrough, Action.bind_of_ok hrun, hresult]
        · rw [runThrough, Action.bind_of_ok hrun, hstate]

/-- Running in chunks is running at once.  If a run for a part of the budget `b` stops, the run
for `b` stops in the same way and place.  If it goes on, then to run for what it has left of `b`
ends in the same state as the run for `b`, with what the two yield together, or stops in the
same way.  However many parts of `b` a run is led through, it passes through states of the one
run for `b`, and to run for what is left ends that run. -/
theorem run_in_chunks_is_run_at_once (filter : Event → Bool) (b : Nat) (c : Console) :
    (∀ a ≤ b, ∀ s, (runFor filter a c).result = .error s →
      runFor filter b c = runFor filter a c) ∧
    (∀ a ≤ b, ∀ e c', (runFor filter a c).result = .ok e → (runFor filter a c).state = c' →
      (runFor filter b c).state = (runFor filter (b - min e b) c').state ∧
      (runFor filter b c).result = (runFor filter (b - min e b) c').result.map (e + ·)) ∧
    ∃ k, c.EndsAfter b k ∧ runFor filter b c = (steps k c).filtered filter ∧
      ∀ budgets : List Nat, (∀ a ∈ budgets, a ≤ b) →
        (∃ j ≤ k, (runThrough filter budgets 0 c).result = (steps j c).result ∧
          (runThrough filter budgets 0 c).state = (steps j c).state) ∧
        (do
          let e ← runThrough filter budgets 0
          let more ← runFor filter (b - min e b)
          return e + more) c = runFor filter b c := by
  refine ⟨?_, ?_, ?_⟩
  · intro a hab s hs
    exact runFor_of_error hab hs
  · rintro a hab e c' he rfl
    rw [runFor_of_ok hab (Outcome.eq_of_result he)]
    exact ⟨rfl, rfl⟩
  · obtain ⟨k, -, hends⟩ := c.exists_endsAfter b
    refine ⟨k, hends, hends.runFor_eq filter, ?_⟩
    intro budgets hbudgets
    constructor
    · obtain ⟨j, hj, hvisited⟩ :=
        runThrough_visits filter hbudgets (staysBelow_zero c b) (steps_zero c)
      exact ⟨j, hends.le_of_staysBelow hj, hvisited⟩
    · rw [runThrough_bind filter hbudgets]
      simp only [Nat.zero_min, Nat.sub_zero, Nat.zero_add, bind_pure]

/-- A console that executes NOP twice and then meets an undefined opcode. -/
def stoppingThird : Console :=
  ofMachine (Machine.running .initial [0x00, 0x00, 0xD3])

/-- A run for 9 ticks stops already, one for 5 ticks goes on for 8, and the run for 12 ticks
comes to the same through either of them. -/
theorem stoppingThird_runs_in_chunks :
    (runFor (fun _ => true) 9 stoppingThird).result =
        .error (.undefinedOpcode ⟨0xD3, .base, 0x0102⟩) ∧
      runFor (fun _ => true) 12 stoppingThird = runFor (fun _ => true) 9 stoppingThird ∧
      (runFor (fun _ => true) 5 stoppingThird).result = .ok 8 ∧
      (runFor (fun _ => true) 12 stoppingThird).state =
        (runFor (fun _ => true) 4 (runFor (fun _ => true) 5 stoppingThird).state).state ∧
      (∀ a ∈ [3, 5, 4], a ≤ 12) ∧
      (do
        let e ← runThrough (fun _ => true) [3, 5, 4] 0
        let more ← runFor (fun _ => true) (12 - min e 12)
        return e + more) stoppingThird = runFor (fun _ => true) 12 stoppingThird := by
  obtain ⟨hstops, hgoesOn, k, _, _, hthrough⟩ :=
    run_in_chunks_is_run_at_once (fun _ => true) 12 stoppingThird
  have hnine : (runFor (fun _ => true) 9 stoppingThird).result =
      .error (.undefinedOpcode ⟨0xD3, .base, 0x0102⟩) := by decide +kernel
  have hfive : (runFor (fun _ => true) 5 stoppingThird).result = .ok 8 := by decide +kernel
  have hbudgets : ∀ a ∈ [3, 5, 4], a ≤ 12 := by decide
  exact ⟨hnine, hstops 9 (by decide) _ hnine, hfive,
    (hgoesOn 5 (by decide) 8 _ hfive rfl).1, hbudgets, (hthrough _ hbudgets).2⟩

end Handheld.Console
