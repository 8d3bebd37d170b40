import Mathlib.Data.List.Forall2
import Mathlib.Data.List.Infix
import Handheld.Proofs.Console.Requests
import Handheld.Proofs.Console.Sleep
import Handheld.Proofs.Machine.Composition
import Handheld.Proofs.Snapshot.RoundTrip

/-!
# The record that a run leaves

Of the messages at the trace level, only the lines of snapshots have the key of the bytes at the
program counter in them (`isRecord_iff`).  No action that handlers are made of takes a snapshot,
and neither does the acceptance of an interrupt or the passing of time.  So a step leaves one
record if it executes an instruction, of the machine at its fetch, and none otherwise
(`records_step`); and from the records of a run, the snapshots at its fetches are read back in
their order.  Such a snapshot shows all registers and the four bytes that the bus reads at the
program counter (`Snapshot.Shows`).
-/

namespace Handheld

namespace Hex

/-! ## A letter that no number has -/

theorem digit_ne_upperP : ∀ {n : Nat}, n < 16 → digit n ≠ 'P' := by
  decide

theorem upperP_notMem_byteText (b : Byte) : 'P' ∉ (byteText b).toList := by
  rw [byteText, String.toList_ofList]
  intro h
  obtain ⟨n, hn, hp⟩ := exists_digit_of_mem_byte h
  exact digit_ne_upperP hn hp.symm

theorem upperP_notMem_wordText (w : Word) : 'P' ∉ (wordText w).toList := by
  have hsplit : wordText w = byteText (Word.high w) ++ byteText (Word.low w) := by
    rw [wordText, word, String.ofList_append, byteText, byteText]
  rw [hsplit, String.toList_append, List.mem_append, not_or]
  exact ⟨upperP_notMem_byteText _, upperP_notMem_byteText _⟩

end Hex

namespace Event

/-! ## Which messages are records -/

/-- The beginning of the last field of a snapshot. -/
def codeMarker : List Char :=
  ['P', 'C', 'M', 'E', 'M', ':']

/-- The message is at the trace level and has the marker in it. -/
def IsRecord (event : Event) : Prop :=
  event.level = .trace ∧ codeMarker <:+: event.message.toList

instance : DecidablePred IsRecord :=
  fun event => inferInstanceAs (Decidable (event.level = .trace ∧ _))

/-- The records among the messages of events, in their order. -/
def records (events : List Event) : List String :=
  (events.filter IsRecord).map message

/-- The state before an instruction, if the event tells of it. -/
def snapshot? : Event → Option Snapshot
  | snapshot s => some s
  | _ => none

def snapshots (events : List Event) : List Snapshot :=
  events.filterMap snapshot?

variable {event : Event} {s : Snapshot}

theorem snapshot?_eq_some_iff : event.snapshot? = some s ↔ event = .snapshot s := by
  cases event <;> simp [snapshot?]

theorem codeMarker_infix_text (s : Snapshot) : codeMarker <:+: s.text.toList := by
  -- The marker stands between the other ten fields and the bytes.
  obtain ⟨v₀, v₁, v₂, v₃, hcode, hparts⟩ := s.exists_codeParts
  refine ⟨[' '].intercalate s.fields.dropLast ++ [' '], [','].intercalate s.codeParts, ?_⟩
  simp [Snapshot.text, Snapshot.chars, Snapshot.fields, Snapshot.field, codeMarker,
    List.intercalate, hcode, hparts]

theorem upperP_notMem_append {before after : String} (hbefore : 'P' ∉ before.toList)
    (hafter : 'P' ∉ after.toList) : 'P' ∉ (before ++ after).toList := by
  rw [String.toList_append, List.mem_append, not_or]
  exact ⟨hbefore, hafter⟩

/-- The marker starts with a letter that no other message at the trace level has in it. -/
theorem upperP_notMem_message (hlevel : event.level = .trace) (hnone : event.snapshot? = none) :
    'P' ∉ event.message.toList := by
  cases event with
  | snapshot s => cases hnone
  | write region address v =>
      have hnote : 'P' ∉ (regionNote region).toList := by
        cases region with
        | timer r => show 'P' ∉ " (TIMER)".toList; decide
        | cell | unusable | interruptRequests | interruptEnable | serialControl => decide
      refine upperP_notMem_append ?_ hnote
      refine upperP_notMem_append ?_ (Hex.upperP_notMem_byteText v)
      refine upperP_notMem_append ?_ (by decide)
      exact upperP_notMem_append (by decide) (Hex.upperP_notMem_wordText address)
  | dividerCleared v =>
      refine upperP_notMem_append ?_ (by decide)
      exact upperP_notMem_append (by decide) (Hex.upperP_notMem_byteText v)
  | timerOverflow v => exact upperP_notMem_append (by decide) (Hex.upperP_notMem_byteText v)
  | requested k => cases k <;> decide
  | masterOn => decide
  | _ => cases hlevel

/-- A record is the line of a snapshot. -/
theorem isRecord_iff : event.IsRecord ↔ ∃ s, event = .snapshot s := by
  constructor
  · rintro ⟨hlevel, hmarker⟩
    cases h : event.snapshot? with
    | some s => exact ⟨s, snapshot?_eq_some_iff.mp h⟩
    | none =>
        have hp : 'P' ∈ event.message.toList := hmarker.subset List.mem_cons_self
        exact absurd hp (upperP_notMem_message hlevel h)
  · rintro ⟨s, rfl⟩
    exact ⟨rfl, codeMarker_infix_text s⟩

theorem records_append (events later : List Event) :
    records (events ++ later) = records events ++ records later := by
  rw [records, List.filter_append, List.map_append]
  rfl

theorem records_singleton (event : Event) :
    records [event] = event.snapshot?.toList.map Snapshot.text := by
  cases h : event.snapshot? with
  | some s =>
      obtain rfl := snapshot?_eq_some_iff.mp h
      rw [records, List.filter_singleton, decide_eq_true (isRecord_iff.mpr ⟨s, rfl⟩)]
      rfl
  | none =>
      have hrecord : ¬ event.IsRecord := by
        rw [isRecord_iff]
        rintro ⟨s, rfl⟩
        cases h
      rw [records, List.filter_singleton, decide_eq_false hrecord]
      rfl

theorem records_eq_map_text (events : List Event) :
    records events = (snapshots events).map Snapshot.text := by
  induction events with
  | nil => rfl
  | cons event events ih =>
      have hcons : snapshots (event :: events) = event.snapshot?.toList ++ snapshots events := by
        cases h : event.snapshot? <;> simp [snapshots, h]
      rw [← List.singleton_append, records_append, records_singleton, ih, List.singleton_append,
        hcons, List.map_append]

/-! ## What takes no snapshot -/

theorem snapshots_append (events later : List Event) :
    snapshots (events ++ later) = snapshots events ++ snapshots later :=
  List.filterMap_append

theorem snapshots_writeEvents (bus : Bus) (address : Word) (v : Byte) :
    snapshots (bus.writeEvents address v) = [] := by
  unfold Bus.writeEvents
  split
  · rfl
  · split <;> rfl
  · rfl

theorem snapshots_writeAllEvents (bus : Bus) (writes : List (Word × Byte)) :
    snapshots (bus.writeAllEvents writes) = [] := by
  induction writes generalizing bus with
  | nil => rfl
  | cons w writes ih => rw [Bus.writeAllEvents, snapshots_append, snapshots_writeEvents, ih]; rfl

theorem snapshots_tickEvents (bus : Bus) (ticks : Nat) :
    snapshots (bus.tickEvents ticks) = [] := by
  unfold Bus.tickEvents
  split <;> rfl

end Event

namespace Machine

variable {m : Machine} {i : Instruction}

theorem snapshots_acceptingEvents (m : Machine) (k : Interrupt) :
    Event.snapshots (m.acceptingEvents k) = [] := by
  show Event.snapshots (Bus.writeAllEvents _ _) = _
  rw [Event.snapshots_writeAllEvents]

theorem snapshots_leavingEvents (m : Machine) :
    Event.snapshots m.leavingEvents = [] := by
  unfold leavingEvents
  split <;> rfl

/-- The wakening of the processor, which comes first, makes no difference to the snapshot. -/
theorem snapshots_enteringEvents (m : Machine) (i : Instruction) :
    Event.snapshots (m.enteringEvents i) = [.take m.cpu m.bus] := by
  unfold enteringEvents
  split <;> rfl

/-- From every machine, the action takes no snapshot. -/
def IsUnrecorded (x : Action Machine α) : Prop :=
  ∀ m, Event.snapshots (x m).events = []

theorem IsUnrecorded.bind {x : Action Machine α} {f : α → Action Machine β}
    (hx : IsUnrecorded x) (hf : ∀ a, IsUnrecorded (f a)) : IsUnrecorded (x >>= f) := by
  intro m
  have hfirst := hx m
  rcases h : x m with ⟨result, m', events⟩
  rw [h] at hfirst
  cases result with
  | error e => rw [Action.bind_of_error h, hfirst]
  | ok a => rw [Action.bind_of_ok h, Event.snapshots_append, hfirst, hf a m', List.nil_append]

theorem isCompositional_isUnrecorded : IsCompositional fun _ x => IsUnrecorded x where
  pure _ _ := rfl
  bind := .bind
  fault _ _ := rfl
  viewCpu _ _ := rfl
  modifyCpu _ _ := rfl
  modifyInterrupts _ _ := rfl
  read _ _ := rfl
  write address v m := by rw [write_eq, Event.snapshots_writeEvents]
  halting _ _ := rfl
  stopping _ _ := rfl

theorem execute_isUnrecorded (i : Instruction) : IsUnrecorded (execute i) :=
  isCompositional_isUnrecorded.execute i

theorem leave_isUnrecorded (i : Instruction) (completion : Completion) :
    IsUnrecorded (leave i completion) := by
  intro m
  rw [leave_eq, snapshots_leavingEvents]

/-! ## Steps of the machine -/

/-- A run of an instruction takes one snapshot, of the machine that it starts from. -/
theorem snapshots_run (i : Instruction) (m : Machine) :
    Event.snapshots (run i m).events = [.take m.cpu m.bus] := by
  have hrest := (execute_isUnrecorded i).bind (leave_isUnrecorded i) (m.entering i)
  rw [run_eq, Event.snapshots_append, snapshots_enteringEvents, hrest, List.append_nil]

/-- The instruction that a step from here executes, with the machine at its fetch. -/
def execution? (m : Machine) : Option (Machine × Instruction) :=
  m.upcoming?.map (m, ·)

end Machine

namespace Snapshot

/-- The snapshot at a fetch. -/
def atFetch (execution : Machine × Instruction) : Snapshot :=
  .take execution.1.cpu execution.1.bus

/-- The snapshot shows the registers of a machine, and the four bytes that its bus reads from the
program counter on. -/
structure Shows (s : Snapshot) (m : Machine) : Prop where
  a : s.a = m.cpu.a
  f : s.f = m.cpu.f
  b : s.b = m.cpu.b
  c : s.c = m.cpu.c
  d : s.d = m.cpu.d
  e : s.e = m.cpu.e
  h : s.h = m.cpu.h
  l : s.l = m.cpu.l
  sp : s.sp = m.cpu.sp
  pc : s.pc = m.cpu.pc
  code : ∀ k : Fin 4, s.code.get k = m.bus.read (m.cpu.pc + UInt16.ofNat k.val)

theorem shows_take (m : Machine) : (take m.cpu m.bus).Shows m where
  a := rfl
  f := rfl
  b := rfl
  c := rfl
  d := rfl
  e := rfl
  h := rfl
  l := rfl
  sp := rfl
  pc := rfl
  code k := by
    match k with
    | 0 => exact congrArg m.bus.read (UInt16.add_zero _).symm
    | 1 | 2 | 3 => rfl

end Snapshot

namespace Console

open Machine

variable {c : Console} {i : Instruction} {e : UndefinedOpcode}

/-! ## Steps of the console -/

theorem snapshots_acceptPending (m : Machine) :
    Event.snapshots (acceptPending m).events = [] := by
  cases h : m.bus.interrupts.pending? with
  | none =>
      rw [acceptPending_of_not_pending h]
      rfl
  | some k =>
      rw [acceptPending_of_pending h, Event.snapshots_append, snapshots_acceptingEvents,
        Event.snapshots_tickEvents]
      rfl

theorem snapshots_machineStep (m : Machine) :
    Event.snapshots (machineStep m).events = m.execution?.toList.map .atFetch := by
  cases Machine.step_cases m with
  | idles hidle hstep =>
      rw [machineStep_of_ok hstep, execution?, upcoming?_of_isIdle hidle]
      exact Event.snapshots_tickEvents _ _
  | undefined e hidle hfetch hstep =>
      rw [machineStep_of_error hstep, execution?, upcoming?_of_undefined hidle hfetch]
      rfl
  | executes i ticks m' events hidle hfetch hstep _ =>
      have hrun := snapshots_run i m
      rw [← step_of_fetch hidle hfetch, hstep] at hrun
      rw [machineStep_of_ok hstep, execution?, upcoming?_of_fetch hidle hfetch,
        Event.snapshots_append, hrun, Event.snapshots_tickEvents]
      rfl

/-- A step leaves a record of the instruction that it executes, and no other. -/
theorem records_step (c : Console) :
    Event.records (step c).events =
      c.machine.entry.execution?.toList.map fun x => (Snapshot.atFetch x).text := by
  rw [Event.records_eq_map_text, events_step, Event.snapshots_append, snapshots_acceptPending,
    snapshots_machineStep, List.nil_append, List.map_map]
  rfl

theorem records_step_of_fetch (hawake : c.machine.entry.isIdle = false)
    (hfetch : c.machine.entry.fetch = .ok i) :
    Event.records (step c).events =
      [(Snapshot.take c.machine.entry.cpu c.machine.entry.bus).text] := by
  rw [records_step, execution?, upcoming?_of_fetch hawake hfetch]
  rfl

theorem records_step_of_isIdle (h : c.machine.isIdle = true) :
    Event.records (step c).events = [] := by
  rw [records_step, entry_of_not_pending (pending?_of_isIdle h), execution?,
    upcoming?_of_isIdle h]
  rfl

theorem records_step_of_undefinedOpcode
    (h : (step c).result = .error (.undefinedOpcode e)) :
    Event.records (step c).events = [] := by
  have hmachine := congrArg Outcome.result (step_eq_undefinedOpcode_iff.mp h)
  obtain ⟨hawake, e', hfetch, -⟩ := step_result_eq_error_iff.mp hmachine
  rw [records_step, execution?, upcoming?_of_undefined hawake hfetch]
  rfl

/-! ## Runs -/

/-- The instructions that so many steps execute, the first one first, each with the machine at
its fetch. -/
def executionsWithin (c : Console) (n : Nat) : List (Machine × Instruction) :=
  (List.range n).filterMap fun l => (next^[l] c).machine.entry.execution?

theorem executionsWithin_succ (c : Console) (n : Nat) :
    c.executionsWithin (n + 1) =
      c.executionsWithin n ++ (next^[n] c).machine.entry.execution?.toList := by
  rw [executionsWithin, List.range_succ, List.filterMap_append, executionsWithin]
  cases h : (next^[n] c).machine.entry.execution? <;> simp [h]

theorem records_eventsWithin (c : Console) (n : Nat) :
    Event.records (c.eventsWithin n) =
      (c.executionsWithin n).map fun x => (Snapshot.atFetch x).text := by
  induction n with
  | zero => rfl
  | succ n ih =>
      rw [eventsWithin_succ, Event.records_append, ih, records_step, executionsWithin_succ,
        List.map_append]

theorem parse_records_eventsWithin (c : Console) (n : Nat) :
    (Event.records (c.eventsWithin n)).map Snapshot.parse =
      (c.executionsWithin n).map fun x => .ok (.atFetch x) := by
  rw [records_eventsWithin, List.map_map]
  apply List.map_congr_left
  intro x _
  exact Snapshot.parse_text (.atFetch x)

/-- What is read back from a record shows the machine at the fetch that it stands for. -/
theorem forall₂_records_eventsWithin (c : Console) (n : Nat) :
    List.Forall₂ (fun line x => ∃ s, Snapshot.parse line = .ok s ∧ s.Shows x.1)
      (Event.records (c.eventsWithin n)) (c.executionsWithin n) := by
  rw [records_eventsWithin, List.forall₂_map_left_iff, List.forall₂_same]
  intro x _
  exact ⟨.atFetch x, Snapshot.parse_text _, Snapshot.shows_take x.1⟩

/-- The records of a run are as many as the instructions that it executes, and the snapshots at
the fetches of these, after the acceptance of an interrupt in the same step, are read back from
them in their order: each shows the registers and the four bytes at the program counter at its
fetch.  Of a single step, there is one record if it executes an instruction, and none if the
processor sleeps on or an undefined opcode is met. -/
theorem every_fetch_is_recorded (c : Console) (n : Nat) :
    (Event.records (c.eventsWithin n)).map Snapshot.parse =
        (c.executionsWithin n).map (fun x => .ok (.atFetch x)) ∧
      List.Forall₂ (fun line x => ∃ s, Snapshot.parse line = .ok s ∧ s.Shows x.1)
        (Event.records (c.eventsWithin n)) (c.executionsWithin n) ∧
      (∀ i, c.machine.entry.isIdle = false → c.machine.entry.fetch = .ok i →
        Event.records (step c).events =
          [(Snapshot.take c.machine.entry.cpu c.machine.entry.bus).text] ∧
        (Snapshot.take c.machine.entry.cpu c.machine.entry.bus).Shows c.machine.entry) ∧
      (c.machine.isIdle = true → Event.records (step c).events = []) ∧
      ∀ e, (step c).result = .error (.undefinedOpcode e) →
        Event.records (step c).events = [] := by
  refine ⟨parse_records_eventsWithin c n, forall₂_records_eventsWithin c n, ?_,
    records_step_of_isIdle, fun e => records_step_of_undefinedOpcode⟩
  intro i hawake hfetch
  exact ⟨records_step_of_fetch hawake hfetch, Snapshot.shows_take _⟩

/-- A console whose sleep an interrupt is about to end, with a handler that does nothing and goes
to sleep again. -/
def roused : Console :=
  ofMachine ⟨{ Cpu.initial with halted := true }, { Bus.initial with
    memory := Memory.zero.writeAll 0x40 [0x00, 0x76]
    interrupts := ⟨1, 1, true, none⟩ }⟩

/-- The return address is on the stack when the handler is fetched. -/
def rousedSnapshot (pc : Word) (code : Vector Byte 4) : Snapshot :=
  ⟨0x01, 0xB0, 0x00, 0x13, 0x00, 0xD8, 0x01, 0x4D, 0xFFFC, pc, code⟩

/-- Of three steps the last one executes nothing. -/
theorem fetches_of_roused_are_recorded :
    (Event.records (roused.eventsWithin 3)).map Snapshot.parse =
        [.ok (rousedSnapshot 0x0040 #v[0x00, 0x76, 0x00, 0x00]),
          .ok (rousedSnapshot 0x0041 #v[0x76, 0x00, 0x00, 0x00])] ∧
      List.Forall₂ (fun line x => ∃ s, Snapshot.parse line = .ok s ∧ s.Shows x.1)
        (Event.records (roused.eventsWithin 3)) (roused.executionsWithin 3) ∧
      Event.records (step roused).events =
        [(rousedSnapshot 0x0040 #v[0x00, 0x76, 0x00, 0x00]).text] ∧
      Event.records (step (next^[2] roused)).events = [] ∧
      Event.records (step trapped).events = [] := by
  obtain ⟨hrun, hshown, hfetch, _, _⟩ := every_fetch_is_recorded roused 3
  obtain ⟨_, _, _, hsleep, _⟩ := every_fetch_is_recorded (next^[2] roused) 0
  obtain ⟨_, _, _, _, hstop⟩ := every_fetch_is_recorded trapped 0
  have hfetched : ∃ i, roused.machine.entry.fetch = .ok i := by
    cases h : roused.machine.entry.fetch with
    | ok i => exact ⟨i, rfl⟩
    | error e => exact absurd (fetch_eq_error_iff.mp h).1 (by decide +kernel)
  obtain ⟨i, hi⟩ := hfetched
  have hsnapshots : (roused.executionsWithin 3).map Snapshot.atFetch =
      [rousedSnapshot 0x0040 #v[0x00, 0x76, 0x00, 0x00],
        rousedSnapshot 0x0041 #v[0x76, 0x00, 0x00, 0x00]] := by decide +kernel
  have hfirst : Snapshot.take roused.machine.entry.cpu roused.machine.entry.bus =
      rousedSnapshot 0x0040 #v[0x00, 0x76, 0x00, 0x00] := by decide +kernel
  refine ⟨?_, hshown, ?_, hsleep (by decide +kernel),
    hstop ⟨0xD3, .base, 0x40⟩ (by decide +kernel)⟩
  · have hmap : (roused.executionsWithin 3).map (fun x => .ok (.atFetch x)) =
        ((roused.executionsWithin 3).map Snapshot.atFetch).map
          (.ok : Snapshot → Except Snapshot.ParseError Snapshot) := List.map_map.symm
    rw [hrun, hmap, hsnapshots]
    rfl
  · rw [← hfirst]
    exact (hfetch i (by decide +kernel) hi).1

end Console

end Handheld
