import Handheld.Cartridge.FileName
import Handheld.CommandLine.Arguments
import Handheld.CommandLine.FileTree
import Handheld.CommandLine.LogFilter
import Handheld.Console

/-!
# Sessions

A session loads a cartridge, runs it until its time is up or the machine stops, and
shows what was sent.  The selected events go to the diagnostics, or into the log
file if one is named, which may be a device.
-/

namespace Handheld.CommandLine

/-! ## What ends a session before its time -/

inductive RunError where
  | load (e : LoadError)
  | stopped (e : Stop)
  /-- A file could not be written, for the reason given. -/
  | unwritable (reason : String)
  deriving DecidableEq

namespace RunError

def message : RunError → String
  | load e => "Failed to load cartridge: " ++ e.message
  | stopped e => "CPU stopped: " ++ e.message
  | unwritable reason => "I/O error: " ++ reason

def cause : RunError → String
  | load e => e.message
  | stopped e => e.message
  | unwritable reason => reason

end RunError

/-! ## Running a cartridge -/

/-- What comes of playing a cartridge. -/
structure Play where
  /-- What ended it, if not the time given. -/
  stop? : Option Stop
  console : Console
  events : List Event

/-- Runs a console for the time given, or without a limit until it stops.  Nothing
comes of a run that is still going on after `fuel` steps. -/
def play (filter : Event → Bool) (console : Console) (maxTicks? : Option Nat) (fuel : Nat) :
    Option Play :=
  match maxTicks? with
  | some budget =>
    match Console.runFor filter budget console with
    | ⟨.ok _, console, events⟩ => some ⟨none, console, events⟩
    | ⟨.error e, console, events⟩ => some ⟨some e, console, events⟩
  | none =>
    match Console.runUntilStop filter fuel #[] console with
    | ⟨.ok (), _, _⟩ => none
    | ⟨.error e, console, events⟩ => some ⟨some e, console, events⟩

/-- The text that was sent. -/
def sentText (console : Console) : String :=
  String.ofList (Utf8.decodeLossy console.machine.bus.sent.toList)

/-- The text that was sent as it is shown: on a line of its own, if there is any. -/
def shownText (console : Console) : String :=
  let text := sentText console
  if text.isEmpty then "" else text ++ "\n"

/-! ## The whole session -/

/-- How a session ended. -/
structure Ending where
  error? : Option RunError
  /-- What was sent, as it is shown. -/
  output : String
  /-- The selected events. -/
  log : List Event

/-- Makes a cartridge of the content of a file, with the events of doing so.  In place of
the content there may be the reason that the file cannot be read.  The name of the file is
checked first. -/
def load (path : String) (content : Except String (Array Byte)) :
    Except LoadError Cartridge × List Event :=
  match FileName.validate path.toUTF8.toList, content with
  | .error e, _ => (.error e, [])
  | .ok (), .error reason => (.error (.unreadable reason), [])
  | .ok (), .ok image =>
    (Cartridge.ofImage image, .fileRead path image.size :: Cartridge.ofImageEvents image)

/-- Loads a cartridge and plays it. -/
def loadAndPlay (filter : Event → Bool) (tree : FileTree) (arguments : Arguments)
    (fuel : Nat) : Option Ending :=
  let path := arguments.cartridgePath
  match load path ((tree.read path).mapError FileError.message) with
  | (.error e, loading) => some ⟨some (.load e), "", loading.filter filter⟩
  | (.ok cartridge, loading) =>
    let starting := loading ++ Console.startEvents cartridge
    (play filter (.start cartridge) arguments.maxTicks? fuel).map fun played =>
      let finished := [.finished played.console.elapsed.toNat]
      { error? := played.stop?.map .stopped
        output := shownText played.console
        log := starting.filter filter ++ played.events ++ finished.filter filter }

/-- Each text on a line of its own. -/
def lines (texts : List String) : String :=
  String.join (texts.map (· ++ "\n"))

def warningLines (warnings : List String) : String :=
  lines (warnings.map fun warning => "warning: " ++ warning ++ ", ignoring it")

def errorLines (error? : Option RunError) : String :=
  lines (error?.toList.map fun e => "Error: " ++ e.message)

/-- What a session leaves behind. -/
structure Report where
  succeeded : Bool
  output : String
  diagnostics : String
  tree : FileTree

/-- The setting that holds where none is given. -/
def defaultSetting : String := "info"

/-- Opens what the log is written to. -/
def openLog (tree : FileTree) : (logPath? : Option String) → Except FileError (FileTree × Sink)
  | none => .ok (tree, .device .diagnostics)
  | some path => tree.create path

/-- Runs a session.  The log file is created before anything else is done. -/
def runSession (channelName : Channel → String) (setting? : Option String)
    (tree : FileTree) (arguments : Arguments) (fuel : Nat) : Option Report :=
  let (filter, warnings) := LogFilter.parse (setting?.getD defaultSetting)
  match openLog tree arguments.logPath? with
  | .error e =>
    some
      { succeeded := false
        output := ""
        diagnostics := warningLines warnings ++ errorLines (some (.unwritable e.message))
        tree }
  | .ok (tree, sink) =>
    (loadAndPlay (filter.admits channelName) tree arguments fuel).map fun ending =>
      let log := lines (ending.log.map Event.message)
      let logAt (d : Device) : String := if sink = .device d then log else ""
      { succeeded := ending.error?.isNone
        output := logAt .output ++ ending.output
        diagnostics := warningLines warnings ++ logAt .diagnostics ++ errorLines ending.error?
        tree := tree.write log sink }

end Handheld.CommandLine
