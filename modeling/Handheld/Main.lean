import Handheld.CommandLine.Session

/-!
# The command

Runs a session on the files of the system.  Events are shown as they happen, on the
diagnostics or in the log file, so that a run without a limit shows them too.  The
variable `HANDHELD_LOG` of the environment selects them.
-/

namespace Handheld.CommandLine

/-- What the channels are called in a setting. -/
def channelName : Channel → String
  | .session => "session"
  | .file => "file"
  | .header => "cartridge.header"
  | .cartridge => "cartridge"
  | .console => "console"
  | .processor => "cpu"
  | .execution => "cpu.execution"
  | .interrupts => "interrupts"
  | .bus => "bus"
  | .timer => "timer"

/-- Why an operation on a file failed. -/
def reason : IO.Error → String
  | .noFileOrDirectory .. => FileError.message .notFound
  | .inappropriateType _ code _ =>
    FileError.message (if code = 21 then .isADirectory else .notADirectory)
  | e@(.invalidArgument _ code _) =>
    if code = 36 || code = -36 then FileError.message .nameTooLong else toString e
  | e => toString e

/-- Tries an operation on a file. -/
def attempt (operation : IO α) : IO (Except String α) := do
  try
    return .ok (← operation)
  catch e =>
    return .error (reason e)

def readContent (path : String) : IO (Except String (Array Byte)) :=
  attempt do return (← IO.FS.readBinFile path).data

/-- Runs a console a picture at a time until its time is up or it stops. -/
partial def playOn (filter : Event → Bool) (sink : Event → IO Unit) (console : Console) :
    (remaining? : Option Nat) → IO (Option Stop × Console)
  | some 0 => return (none, console)
  | remaining? => do
    let budget := min Console.frameTicks (remaining?.getD Console.frameTicks)
    match Console.runFor filter budget console with
    | ⟨.ok passed, console, events⟩ =>
      events.forM sink
      playOn filter sink console (remaining?.map (· - passed))
    | ⟨.error e, console, events⟩ =>
      events.forM sink
      return (some e, console)

/-- Loads a cartridge and plays it, and yields what ended it before its time. -/
def session (arguments : Arguments) (filter : Event → Bool) (sink : Event → IO Unit) :
    IO (Option RunError) := do
  let showAll (events : List Event) : IO Unit := (events.filter filter).forM sink
  let path := arguments.cartridgePath
  match load path (← readContent path) with
  | (.error e, loading) =>
    showAll loading
    return some (.load e)
  | (.ok cartridge, loading) =>
    showAll (loading ++ Console.startEvents cartridge)
    let (stop?, console) ← playOn filter sink (.start cartridge) arguments.maxTicks?
    showAll [.finished console.elapsed.toNat]
    IO.print (shownText console)
    return stop?.map .stopped

/-- Creates the log file, if one is named, and runs the session. -/
def command (arguments : Arguments) : IO UInt32 := do
  let setting? ← IO.getEnv "HANDHELD_LOG"
  let (filter, warnings) := LogFilter.parse (setting?.getD defaultSetting)
  IO.eprint (warningLines warnings)
  let run := session arguments (filter.admits channelName)
  let error? ← match arguments.logPath? with
    | none => run fun e => IO.eprintln e.message
    | some path => do
      match ← attempt (IO.FS.Handle.mk path .write) with
      | .ok handle => run fun e => handle.putStrLn e.message
      | .error reason => pure (some (.unwritable reason))
  IO.eprint (errorLines error?)
  return if error?.isSome then 1 else 0

end Handheld.CommandLine

open Handheld.CommandLine in
def main (words : List String) : IO UInt32 := do
  match Arguments.parse words with
  | .ok arguments => command arguments
  | .error e =>
    if e.isAnswer then
      IO.println e.message
      return 0
    else
      IO.eprintln ("error: " ++ e.message)
      return 2
