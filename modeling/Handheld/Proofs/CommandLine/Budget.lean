import Handheld.CommandLine.Session
import Handheld.Proofs.Bus.Regular
import Handheld.Proofs.Console.Stops
import Handheld.Proofs.Text.Utf8

/-!
# Budgets past the end

A session takes its steps in one of two loops, depending on whether there is a budget.  For a
cartridge with which the machine stops by itself, a budget past the stop makes no difference to
what comes of the play, and all that a session leaves behind depends on the budget by the play
only (`runSession_eq_map`).  With a smaller budget the session succeeds, and has sent the
beginning of what the whole play sends.  Which events are selected makes no difference to the
steps that are taken.
-/

namespace Handheld.CommandLine

open Console (StopsAfter steps)

variable {c : Console} {budget fuel n t : Nat} {s : Stop}

/-! ## Plays -/

/-- What comes of a play of so many steps. -/
def playOf (filter : Event → Bool) (c : Console) (n : Nat) (stop? : Option Stop) : Play :=
  ⟨stop?, (steps n c).state, (steps n c).events.filter filter⟩

theorem console_playOf (filter : Event → Bool) (c : Console) (n : Nat) (stop? : Option Stop) :
    (playOf filter c n stop?).console = (steps n c).state := rfl

theorem play_of_lt (h : c.StopsAfter n t s) (hbudget : t < budget) (filter : Event → Bool)
    (fuel : Nat) : play filter c (some budget) fuel = some (playOf filter c (n + 1) (some s)) := by
  have hrun := h.runFor_of_lt hbudget filter
  rw [Outcome.filtered, h.result_steps_succ] at hrun
  simp only [play, hrun, playOf]

theorem play_without_budget (h : c.StopsAfter n t s) (hfuel : n < fuel)
    (filter : Event → Bool) : play filter c none fuel = some (playOf filter c (n + 1) (some s)) := by
  simp only [play, h.runUntilStop_of_lt hfuel, playOf]

/-- A play with a budget that the steps before the stop use up is not stopped. -/
theorem exists_play_of_le (h : c.StopsAfter n t s) (hbudget : budget ≤ t) :
    ∃ k ≤ n, ∀ filter fuel, play filter c (some budget) fuel = some (playOf filter c k none) := by
  obtain ⟨k, hk, passed, -, hgoesOn, hrun⟩ := h.runFor_of_le hbudget
  refine ⟨k, hk, fun filter fuel => ?_⟩
  have hfiltered := hrun filter
  rw [Outcome.filtered, hgoesOn] at hfiltered
  simp only [play, hfiltered, playOf]

/-- The ticks of a play that ends at an undefined opcode are those of the steps before it. -/
theorem elapsed_playOf {e : UndefinedOpcode} (h : c.StopsAfter n t (.undefinedOpcode e))
    (filter : Event → Bool) (stop? : Option Stop) :
    (playOf filter c (n + 1) stop?).console.elapsed.toNat = c.elapsed.toNat + t := by
  have htime := Console.elapsed_of_steps (Outcome.eq_of_result h.goesOn)
  rw [console_playOf, h.state_steps_succ]
  show (steps n c).state.next.elapsed.toNat = _
  rw [Console.next_of_undefinedOpcode h.stops]
  exact htime

theorem sendsOn_playOf (filter : Event → Bool) (c : Console) {k : Nat} (hk : k ≤ n)
    (stop? stop?' : Option Stop) :
    (playOf filter c k stop?).console.machine.bus.SendsOn
      (playOf filter c n stop?').console.machine.bus := by
  rw [console_playOf, console_playOf]
  exact Console.sendsOn_steps_of_le c hk

/-! ## What is shown -/

/-- Bytes as they are shown: their text on a line of its own, if there are any. -/
def lineOf (bytes : List Byte) : String :=
  if bytes = [] then "" else String.ofList (Utf8.decodeLossy bytes ++ ['\n'])

theorem shownText_eq_lineOf (c : Console) :
    shownText c = lineOf c.machine.bus.sent.toList := by
  have hempty : (sentText c).isEmpty = true ↔ c.machine.bus.sent.toList = [] := by
    rw [sentText, String.isEmpty_iff, String.ofList_eq_empty_iff, Utf8.decodeLossy_eq_nil_iff]
  rw [lineOf, String.ofList_append]
  unfold shownText
  simp only [hempty]
  rfl

/-! ## Sessions -/

/-- The arguments with a budget in place of theirs, or with none. -/
def Arguments.withBudget (arguments : Arguments) (maxTicks? : Option Nat) : Arguments :=
  { arguments with maxTicks? }

/-- The selection that a setting makes, or the one that holds where none is given. -/
def selection (channelName : Channel → String) (setting? : Option String) : Event → Bool :=
  (LogFilter.parse (setting?.getD defaultSetting)).1.admits channelName

section Sessions

variable (channelName : Channel → String) (setting? : Option String)
  {tree tree' : FileTree} {sink : Sink} {arguments : Arguments} {cartridge : Cartridge}
  {loading : List Event}

/-- With a cartridge that can be loaded, how a session ends depends on the budget by the play
only. -/
theorem loadAndPlay_eq_map (filter : Event → Bool)
    (hload : load arguments.cartridgePath
      ((tree.read arguments.cartridgePath).mapError FileError.message) =
        (.ok cartridge, loading)) :
    ∃ ending : Play → Ending,
      (∀ played, (ending played).error? = played.stop?.map .stopped ∧
        (ending played).output = lineOf played.console.machine.bus.sent.toList) ∧
      ∀ maxTicks? fuel,
        loadAndPlay filter tree (arguments.withBudget maxTicks?) fuel =
          (play filter (.start cartridge) maxTicks? fuel).map ending := by
  let starting := loading ++ Console.startEvents cartridge
  let ending (played : Play) : Ending :=
    { error? := played.stop?.map .stopped
      output := shownText played.console
      log := starting.filter filter ++ played.events ++
        [.finished played.console.elapsed.toNat].filter filter }
  refine ⟨ending, fun played => ⟨rfl, shownText_eq_lineOf _⟩, fun maxTicks? fuel => ?_⟩
  simp only [loadAndPlay, Arguments.withBudget, hload]
  rfl

/-- What a session puts out follows what its log has written to the same place, if it has. -/
def Follows (sink : Sink) (output whole : String) : Prop :=
  ∃ log, whole = log ++ output ∧ (sink ≠ .device .output → log = "")

/-- With a log that can be opened, what a session leaves behind depends on the budget by its
ending only. -/
theorem runSession_eq_map
    (hopen : openLog tree arguments.logPath? = .ok (tree', sink)) :
    ∃ report : Ending → Report,
      (∀ ending, (report ending).succeeded = ending.error?.isNone ∧
        Follows sink ending.output (report ending).output) ∧
      ∀ maxTicks? fuel,
        runSession channelName setting? tree (arguments.withBudget maxTicks?) fuel =
          (loadAndPlay (selection channelName setting?) tree' (arguments.withBudget maxTicks?)
            fuel).map report := by
  let warnings := (LogFilter.parse (setting?.getD defaultSetting)).2
  let log (ending : Ending) := lines (ending.log.map Event.message)
  let logAt (ending : Ending) (d : Device) : String :=
    if sink = .device d then log ending else ""
  let report (ending : Ending) : Report :=
    { succeeded := ending.error?.isNone
      output := logAt ending .output ++ ending.output
      diagnostics :=
        warningLines warnings ++ logAt ending .diagnostics ++ errorLines ending.error?
      tree := tree'.write (log ending) sink }
  refine ⟨report, fun ending => ⟨rfl, logAt ending .output, rfl, fun h => if_neg h⟩,
    fun maxTicks? fuel => ?_⟩
  simp only [runSession, Arguments.withBudget, hopen]
  rfl

end Sessions

/-! ## Sessions that stop by themselves -/

/-- What comes of a play, how the session around it ends, and what it leaves behind. -/
structure Course where
  played : Play
  ending : Ending
  report : Report

/-- Ending and report agree with the play: the session shows the bytes that were sent, and succeeds
if nothing has stopped it. -/
structure Course.Agrees (course : Course) (sink : Sink) : Prop where
  error? : course.ending.error? = course.played.stop?.map .stopped
  output : course.ending.output = lineOf course.played.console.machine.bus.sent.toList
  succeeded : course.report.succeeded = course.played.stop?.isNone
  follows : Follows sink course.ending.output course.report.output

/-- Where the log goes elsewhere, all that is put out is what was sent. -/
theorem Course.Agrees.output_eq {course : Course} {sink : Sink} (h : course.Agrees sink)
    (hsink : sink ≠ .device .output) :
    course.report.output = lineOf course.played.console.machine.bus.sent.toList := by
  obtain ⟨log, hwhole, hlog⟩ := h.follows
  rw [hwhole, hlog hsink, h.output, String.empty_append]

section Budgets

variable (filter : Event → Bool) (channelName : Channel → String) (setting? : Option String)
  (tree tree' : FileTree) (arguments : Arguments) (cartridge : Cartridge)

/-- So a play, and a session with whatever log, go with the budget given, from the tree `tree` and,
once the log is open, from the tree `tree'`. -/
structure Goes (maxTicks? : Option Nat) (fuel : Nat) (course : Course) : Prop where
  played : play filter (.start cartridge) maxTicks? fuel = some course.played
  ending : loadAndPlay filter tree' (arguments.withBudget maxTicks?) fuel = some course.ending
  report : runSession channelName setting? tree (arguments.withBudget maxTicks?) fuel =
    some course.report

variable {sink : Sink} {loading : List Event} {n t : Nat} {e : UndefinedOpcode}

/-- How a session goes depends on the budget by the number of its steps, and by what stops it. -/
theorem exists_course
    (hopen : openLog tree arguments.logPath? = .ok (tree', sink))
    (hload : load arguments.cartridgePath
      ((tree'.read arguments.cartridgePath).mapError FileError.message) =
        (.ok cartridge, loading))
    (k : Nat) (stop? : Option Stop) :
    ∃ course : Course, course.played = playOf filter (.start cartridge) k stop? ∧
      course.Agrees sink ∧
      ∀ maxTicks? fuel,
        (∀ filter, play filter (.start cartridge) maxTicks? fuel =
          some (playOf filter (.start cartridge) k stop?)) →
        Goes filter channelName setting? tree tree' arguments cartridge maxTicks? fuel course := by
  obtain ⟨ending, hending, hplay⟩ := loadAndPlay_eq_map filter hload
  obtain ⟨logged, hlogged, hplayLogged⟩ :=
    loadAndPlay_eq_map (selection channelName setting?) hload
  obtain ⟨report, hreport, hsession⟩ := runSession_eq_map channelName setting? hopen
  let played (filter : Event → Bool) := playOf filter (.start cartridge) k stop?
  obtain ⟨herror, houtput⟩ := hending (played filter)
  obtain ⟨herrorLogged, houtputLogged⟩ := hlogged (played (selection channelName setting?))
  obtain ⟨hsucceeded, hfollows⟩ := hreport (logged (played (selection channelName setting?)))
  refine ⟨⟨played filter, ending (played filter),
    report (logged (played (selection channelName setting?)))⟩, rfl,
    ⟨herror, houtput, ?_, ?_⟩, ?_⟩
  · rw [hsucceeded, herrorLogged, Option.isNone_map]
    rfl
  · show Follows sink (ending (played filter)).output _
    rw [houtput]
    rw [houtputLogged] at hfollows
    exact hfollows
  · intro maxTicks? fuel hplayed
    refine ⟨hplayed filter, ?_, ?_⟩
    · rw [hplay, hplayed, Option.map_some]
    · rw [hsession, hplayLogged, hplayed, Option.map_some, Option.map_some]

/-- A session with a cartridge that leads to an undefined opcode, after steps that take `t` ticks,
goes the same way with every budget of more than `t` ticks as without one, whichever events are
selected: it comes to the same console, which has counted `t` ticks, shows the same text of the
bytes that were sent and ends with the same error.  With any other budget it succeeds, and has sent
the beginning of what the whole session sends. -/
theorem budget_past_the_stop_makes_no_difference
    (hopen : openLog tree arguments.logPath? = .ok (tree', sink))
    (hload : load arguments.cartridgePath
      ((tree'.read arguments.cartridgePath).mapError FileError.message) =
        (.ok cartridge, loading))
    (hstops : (Console.start cartridge).StopsAfter n t (.undefinedOpcode e)) :
    ∃ course : Course,
      (course.played.stop? = some (.undefinedOpcode e) ∧
        course.played.console.elapsed.toNat = t ∧
        course.ending.error? = some (.stopped (.undefinedOpcode e)) ∧
        course.report.succeeded = false ∧
        course.Agrees sink) ∧
      (∀ fuel, n < fuel →
        Goes filter channelName setting? tree tree' arguments cartridge none fuel course) ∧
      (∀ budget, t < budget → ∀ fuel,
        Goes filter channelName setting? tree tree' arguments cartridge (some budget) fuel
          course) ∧
      ∀ budget ≤ t, ∀ fuel, ∃ early : Course,
        Goes filter channelName setting? tree tree' arguments cartridge (some budget) fuel early ∧
        early.played.stop? = none ∧ early.ending.error? = none ∧
        early.report.succeeded = true ∧ early.Agrees sink ∧
        early.played.console.machine.bus.SendsOn course.played.console.machine.bus := by
  obtain ⟨course, hplayed, hagrees, hgoes⟩ := exists_course filter channelName setting? tree tree'
    arguments cartridge hopen hload (n + 1) (some (.undefinedOpcode e))
  have hstop : course.played.stop? = some (.undefinedOpcode e) := by
    rw [hplayed]
    rfl
  have helapsed : course.played.console.elapsed.toNat = t := by
    have hstart : (Console.start cartridge).elapsed.toNat = 0 := rfl
    rw [hplayed, elapsed_playOf hstops, hstart, Nat.zero_add]
  refine ⟨course, ⟨hstop, helapsed, ?_, ?_, hagrees⟩, ?_, ?_, ?_⟩
  · rw [hagrees.error?, hstop]
    rfl
  · rw [hagrees.succeeded, hstop]
    rfl
  · intro fuel hfuel
    exact hgoes none fuel (play_without_budget hstops hfuel)
  · intro budget hbudget fuel
    exact hgoes (some budget) fuel fun filter => play_of_lt hstops hbudget filter fuel
  · intro budget hbudget fuel
    obtain ⟨k, hk, hplay⟩ := exists_play_of_le hstops hbudget
    obtain ⟨early, hearly, hagreesEarly, hgoesEarly⟩ := exists_course filter channelName setting?
      tree tree' arguments cartridge hopen hload k none
    have hnone : early.played.stop? = none := by
      rw [hearly]
      rfl
    refine ⟨early, hgoesEarly (some budget) fuel fun filter => hplay filter fuel, hnone, ?_, ?_,
      hagreesEarly, ?_⟩
    · rw [hagreesEarly.error?, hnone]
      rfl
    · rw [hagreesEarly.succeeded, hnone]
      rfl
    · have hfewer : k ≤ n + 1 := Nat.le_succ_of_le hk
      rw [hearly, hplayed]
      exact sendsOn_playOf filter _ hfewer _ _

end Budgets

/-! ## A session that sends a byte and stops -/

/-- A memory with a program that starts a serial transfer, and no code for an operation next. -/
def tappingMemory : Memory :=
  Memory.zero.writeAll 0x0100 [0x3E, 0x81, 0xE0, 0x02, 0xD3]

theorem read_tappingMemory {a : Word} (h : 0x8000 ≤ a.toNat) : tappingMemory.read a = 0 := by
  have hne : ∀ b : Word, b.toNat < 0x8000 → a ≠ b := by
    rintro b hb rfl
    omega
  simp only [tappingMemory, Memory.writeAll]
  repeat rw [Memory.read_write_of_ne _ _ (hne _ (by decide))]
  simp [Memory.read, Memory.zero]

/-- The cartridge that such a memory is filled from. -/
def tapping : Cartridge :=
  ⟨Array.ofFn fun i : Fin 0x8000 => tappingMemory.read (UInt16.ofNat i.val),
    Nat.le_of_eq Array.size_ofFn.symm⟩

theorem memory_insert_tapping : (Bus.initial.insert tapping).memory = tappingMemory := by
  apply Memory.ext_read
  intro a
  by_cases ha : a.toNat < 0x8000
  · apply Option.some.inj
    rw [Bus.memory_insert_of_lt _ _ ha]
    simp [tapping, ha]
  · rw [Bus.read_insert_initial tapping (Nat.not_lt.mp ha), read_tappingMemory (Nat.not_lt.mp ha)]

theorem start_tapping :
    Console.start tapping =
      .ofMachine ⟨.initial, Bus.finishBoot { Bus.initial with memory := tappingMemory }⟩ := by
  have hinsert : Bus.initial.insert tapping = { Bus.initial with memory := tappingMemory } := by
    rw [← memory_insert_tapping]
    rfl
  rw [Console.start, Bus.withCartridge, hinsert]

/-- The files that there are: the one of the cartridge. -/
def shelf : FileTree :=
  ⟨[([['a', '.', 'g', 'b']], .file tapping.image)], []⟩

def playing : Arguments :=
  ⟨"a.gb", none, none⟩

theorem load_tapping :
    load playing.cartridgePath
        ((shelf.read playing.cartridgePath).mapError FileError.message) =
      (.ok tapping, .fileRead "a.gb" tapping.image.size ::
        Cartridge.ofImageEvents tapping.image) := by
  have hread : shelf.read playing.cartridgePath = .ok tapping.image := rfl
  have hname : FileName.validate "a.gb".toUTF8.toList = .ok () := by decide +kernel
  rw [hread]
  simp only [load, playing, hname, Except.mapError]
  rw [Cartridge.ofImage_of_le tapping.fills]

theorem start_tapping_stopsAfter :
    (Console.start tapping).StopsAfter 2 20 (.undefinedOpcode ⟨0xD3, .base, 0x0104⟩) := by
  rw [start_tapping]
  exact ⟨by decide +kernel, by decide +kernel⟩

theorem exists_sent_tapping :
    ∃ b, (steps (2 + 1) (.start tapping)).state.machine.bus.sent.toList = [b] := by
  have hone : (steps (2 + 1) (.start tapping)).state.machine.bus.sent.size = 1 := by
    rw [start_tapping]
    decide +kernel
  exact List.length_eq_one_iff.mp hone

/-- The two steps before the stop take twenty ticks.  They send a byte, which is all that is put
out. -/
theorem tapping_stops_after_twenty_ticks :
    ∃ course early : Course,
      course.played.stop? = some (.undefinedOpcode ⟨0xD3, .base, 0x0104⟩) ∧
      course.played.console.elapsed.toNat = 20 ∧ course.report.succeeded = false ∧
      (∃ b, course.report.output = lineOf [b]) ∧
      Goes (fun _ => true) (fun _ => "") none shelf shelf playing tapping none 3 course ∧
      Goes (fun _ => true) (fun _ => "") none shelf shelf playing tapping (some 21) 0 course ∧
      Goes (fun _ => true) (fun _ => "") none shelf shelf playing tapping (some 20) 0 early ∧
      early.report.succeeded = true ∧
      early.played.console.machine.bus.SendsOn course.played.console.machine.bus := by
  obtain ⟨course, ⟨hstop, helapsed, _, hfailed, hagrees⟩, hunlimited, hpast, hwithin⟩ :=
    budget_past_the_stop_makes_no_difference (fun _ => true) (fun _ => "") none shelf shelf
      playing tapping rfl load_tapping start_tapping_stopsAfter
  obtain ⟨early, hearly, _, _, hsucceeded, _, hsends⟩ := hwithin 20 (by decide) 0
  have hgoes := hunlimited 3 (by decide)
  have hplayed := hgoes.played.symm.trans
    (play_without_budget start_tapping_stopsAfter (by decide) fun _ => true)
  obtain ⟨b, hsent⟩ := exists_sent_tapping
  have houtput : course.report.output = lineOf [b] := by
    rw [hagrees.output_eq (by decide), Option.some.inj hplayed, console_playOf, hsent]
  exact ⟨course, early, hstop, helapsed, hfailed, ⟨b, houtput⟩, hgoes, hpast 21 (by decide) 0,
    hearly, hsucceeded, hsends⟩

end Handheld.CommandLine
