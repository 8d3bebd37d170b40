import Handheld.Proofs.Console.Step

/-!
# Metered runs

A metered console notes the ticks that its devices are handed, and the states in which its
steps start.  It takes the same steps as the console alone: the meter can be forgotten
(`step_eq`), and what it shows is `Console.handed`, summed over the steps.  A call is a
single step, a run for a budget of ticks, or a run for a picture; after a call that has
stopped, the next call starts from where it has left the console.
-/

namespace Handheld

/-! ## Calls -/

/-- What a user of a console can ask it to do.  A run reports the events that pass its
filter. -/
inductive Call where
  | step
  | runFor (filter : Event → Bool) (budget : Nat)
  | runFrame (filter : Event → Bool)

namespace Console

/-- The console after a call, whether it went on to its end or stopped. -/
def perform (c : Console) : Call → Console
  | .step => (step c).state
  | .runFor filter budget => (runFor filter budget c).state
  | .runFrame filter => (runFrame filter c).state

/-- The console after a sequence of calls. -/
def performAll (c : Console) (calls : List Call) : Console :=
  calls.foldl perform c

end Console

/-! ## The meter -/

structure Metered where
  console : Console
  /-- The ticks that the devices have been handed. -/
  handed : Nat
  /-- The consoles in which steps have started, the latest one first. -/
  starts : List Console

namespace Metered

/-- Before the first step. -/
def ofConsole (c : Console) : Metered :=
  ⟨c, 0, []⟩

/-- An action that hands the devices no ticks. -/
def lift (x : Action Console α) : Action Metered α :=
  fun s =>
    match x s.console with
    | ⟨result, console, events⟩ => ⟨result, { s with console }, events⟩

/-- Lets so many ticks pass for the devices. -/
def tick (ticks : Nat) : Action Metered Unit := do
  lift (Console.onMachine (Machine.tick ticks))
  .modify fun s => { s with handed := s.handed + ticks }

def acceptPending : Action Metered Nat := do
  match ← .view fun s => s.console.machine.bus.interrupts.pending? with
  | some k =>
    let ticks ← lift (Console.onMachine (Machine.accept k))
    tick ticks
    return ticks
  | none => return 0

/-- One step, and the time it took. -/
def step : Action Metered Nat := do
  .modify fun s => { s with starts := s.console :: s.starts }
  let accepted ← acceptPending
  let executed ← lift (Console.onMachine Console.reportingStep)
  tick executed
  lift (Console.count (accepted + executed))
  return accepted + executed

/-- Steps until `budget` ticks have passed, of which `passed` have, for at most `fuel`
steps. -/
def runLoop (budget : Nat) : (fuel passed : Nat) → Metered → Metered
  | 0, _, s => s
  | fuel + 1, passed, s =>
    if budget ≤ passed then s
    else
      match step s with
      | ⟨.ok ticks, s, _⟩ => runLoop budget fuel (passed + ticks) s
      | ⟨.error _, s, _⟩ => s

def runFor (budget : Nat) (s : Metered) : Metered :=
  runLoop budget ((budget + 3) / 4) 0 s

def perform (s : Metered) : Call → Metered
  | .step => (step s).state
  | .runFor _ budget => runFor budget s
  | .runFrame _ => runFor Console.frameTicks s

def performAll (s : Metered) (calls : List Call) : Metered :=
  calls.foldl perform s

end Metered

/-- The console and its meter after a sequence of calls. -/
def Console.metered (c : Console) (calls : List Call) : Metered :=
  (Metered.ofConsole c).performAll calls

/-! ## What a step shows on the meter -/

/-- The ticks that the devices are handed in a step. -/
def Console.handed (c : Console) : Nat :=
  match (Machine.step c.machine.entry).result with
  | .ok ticks => c.machine.entryTicks + ticks
  | .error _ => c.machine.entryTicks

namespace Metered

theorem lift_eq {x : Action Console α} {s : Metered} {result : Except Stop α} {c : Console}
    {events : List Event} (h : x s.console = ⟨result, c, events⟩) :
    lift x s = ⟨result, { s with console := c }, events⟩ := by
  unfold lift
  rw [h]

theorem tick_eq (s : Metered) (ticks : Nat) :
    tick ticks s =
      ⟨.ok (), ⟨⟨s.console.machine.after ticks, s.console.elapsed⟩, s.handed + ticks, s.starts⟩,
        s.console.machine.bus.tickEvents ticks⟩ := by
  have hlift := lift_eq (s := s) (Console.onMachine_eq (Machine.tick_eq s.console.machine ticks))
  rw [tick, Action.bind_of_ok hlift]
  show Outcome.mk _ _ (_ ++ []) = _
  rw [List.append_nil]
  rfl

theorem acceptPending_eq (s : Metered) :
    ∃ events, acceptPending s =
      ⟨.ok s.console.machine.entryTicks,
        ⟨⟨s.console.machine.entry, s.console.elapsed⟩, s.handed + s.console.machine.entryTicks,
          s.starts⟩, events⟩ := by
  have hview : Action.view (fun s : Metered => s.console.machine.bus.interrupts.pending?) s =
      ⟨.ok s.console.machine.bus.interrupts.pending?, s, []⟩ := rfl
  rw [acceptPending, Action.bind_of_silent hview]
  cases h : s.console.machine.bus.interrupts.pending? with
  | none =>
      refine ⟨[], ?_⟩
      rw [Machine.entry_of_not_pending h, Machine.entryTicks_of_not_pending h]
      rfl
  | some k =>
      have haccept := lift_eq (s := s)
        (Console.onMachine_eq (Machine.accept_eq s.console.machine k))
      dsimp only
      rw [Action.bind_of_ok haccept, Action.bind_of_ok (tick_eq _ _),
        Machine.entry_of_pending h, Machine.entryTicks_of_pending h]
      exact ⟨_, rfl⟩

/-- The console and the meter after a pending interrupt has been accepted. -/
def entry (s : Metered) : Metered :=
  ⟨⟨s.console.machine.entry, s.console.elapsed⟩, s.handed + s.console.machine.entryTicks,
    s.console :: s.starts⟩

/-- The rest of a step. -/
def finish (accepted : Nat) : Action Metered Nat := do
  let executed ← lift (Console.onMachine Console.reportingStep)
  tick executed
  lift (Console.count (accepted + executed))
  return accepted + executed

theorem step_eq_finish (s : Metered) :
    (step s).result = (finish s.console.machine.entryTicks s.entry).result ∧
      (step s).state = (finish s.console.machine.entryTicks s.entry).state := by
  have hnote : Action.modify (fun s : Metered => { s with starts := s.console :: s.starts }) s =
      ⟨.ok (), { s with starts := s.console :: s.starts }, []⟩ := rfl
  obtain ⟨events, haccept⟩ := acceptPending_eq { s with starts := s.console :: s.starts }
  rw [step, Action.bind_of_silent hnote, Action.bind_of_ok haccept]
  exact ⟨rfl, rfl⟩

/-- A step does to the console what it does without the meter, and the meter shows it. -/
theorem step_eq (s : Metered) :
    (step s).result = (Console.step s.console).result ∧
      (step s).state = ⟨(Console.step s.console).state, s.handed + s.console.handed,
        s.console :: s.starts⟩ := by
  obtain ⟨hresult, hstate⟩ := step_eq_finish s
  rw [hresult, hstate, Console.handed]
  cases Console.step_cases s.console with
  | stops e events hmachine hstep _ =>
      have hreport := lift_eq (s := s.entry)
        (Console.onMachine_eq (Console.reportingStep_of_error hmachine))
      rw [finish, Action.bind_of_error hreport, hstep, hmachine]
      exact ⟨rfl, rfl⟩
  | full ticks m' events later hmachine hfull hstep =>
      have hreport := lift_eq (s := s.entry)
        (Console.onMachine_eq (Console.reportingStep_of_ok hmachine))
      have hcount := Console.count_of_full (c := ⟨m'.after ticks, s.console.elapsed⟩) hfull
      rw [finish, Action.bind_of_ok hreport, Action.bind_of_ok (tick_eq _ _),
        Action.bind_of_error (lift_eq hcount), hstep, hmachine]
      refine ⟨rfl, ?_⟩
      rw [← Nat.add_assoc]
      rfl
  | goesOn ticks m' events later hmachine hroom hstep _ =>
      have hreport := lift_eq (s := s.entry)
        (Console.onMachine_eq (Console.reportingStep_of_ok hmachine))
      have hcount := Console.count_of_room (c := ⟨m'.after ticks, s.console.elapsed⟩) hroom
      rw [finish, Action.bind_of_ok hreport, Action.bind_of_ok (tick_eq _ _),
        Action.bind_of_silent (lift_eq hcount), hstep, hmachine]
      refine ⟨rfl, ?_⟩
      rw [← Nat.add_assoc]
      rfl

/-! ## Forgetting the meter -/

theorem console_runLoop (filter : Event → Bool) (budget fuel passed : Nat) (log : Array Event)
    (s : Metered) :
    (runLoop budget fuel passed s).console =
      (Console.runLoop filter budget fuel passed log s.console).state := by
  induction fuel generalizing passed log s with
  | zero => rfl
  | succ fuel ih =>
      obtain ⟨hresult, hstate⟩ := step_eq s
      rw [runLoop, Console.runLoop]
      split
      · rfl
      · rcases hmetered : step s with ⟨result, s', events⟩
        rcases hplain : Console.step s.console with ⟨result', c', events'⟩
        rw [hmetered, hplain] at hresult hstate
        obtain rfl : result = result' := hresult
        obtain rfl : c' = s'.console := (congrArg Metered.console hstate).symm
        cases result with
        | ok ticks => exact ih (passed + ticks) (log ++ events'.filter filter) s'
        | error e => rfl

theorem console_perform (s : Metered) (call : Call) :
    (s.perform call).console = s.console.perform call := by
  cases call with
  | step => exact congrArg Metered.console (step_eq s).2
  | runFor filter budget => exact console_runLoop filter budget _ 0 #[] s
  | runFrame filter => exact console_runLoop filter Console.frameTicks _ 0 #[] s

theorem console_performAll (s : Metered) (calls : List Call) :
    (s.performAll calls).console = s.console.performAll calls := by
  induction calls generalizing s with
  | nil => rfl
  | cons call calls ih =>
      show ((s.perform call).performAll calls).console = _
      rw [ih, console_perform]
      rfl

/-! ## Calls as sequences of steps -/

/-- The second state comes from the first one by steps, taken one after the other. -/
inductive Run (s : Metered) : Metered → Prop where
  | refl : Run s s
  | tail {s' : Metered} (h : Run s s') : Run s (step s').state

theorem Run.trans {s s' s'' : Metered} (h : Run s s') (h' : Run s' s'') : Run s s'' := by
  induction h' with
  | refl => exact h
  | tail _ ih => exact ih.tail

theorem run_runLoop (budget fuel passed : Nat) (s : Metered) :
    Run s (runLoop budget fuel passed s) := by
  induction fuel generalizing passed s with
  | zero => exact .refl
  | succ fuel ih =>
      rw [runLoop]
      split
      · exact .refl
      · have hstep : Run s (step s).state := .tail .refl
        rcases hmetered : step s with ⟨result, s', events⟩
        rw [hmetered] at hstep
        cases result with
        | ok ticks => exact hstep.trans (ih (passed + ticks) s')
        | error e => exact hstep

theorem run_perform (s : Metered) (call : Call) : Run s (s.perform call) := by
  cases call with
  | step => exact .tail .refl
  | runFor _ budget => exact run_runLoop budget _ 0 s
  | runFrame _ => exact run_runLoop Console.frameTicks _ 0 s

theorem run_performAll (s : Metered) (calls : List Call) : Run s (s.performAll calls) := by
  induction calls generalizing s with
  | nil => exact .refl
  | cons call calls ih => exact (run_perform s call).trans (ih (s.perform call))

end Metered

end Handheld
