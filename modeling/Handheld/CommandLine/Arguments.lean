/-!
# Command-line arguments

The command takes three options, each at most once and with one value, and the
flags for help and for the version.  The value follows its option or is attached to
it with an equals sign.  Words are taken from left to right.  A value that follows
its option is checked only when the next option or flag, or the end, is reached; an
attached value is checked at once.  A word that is no option, flag or value ends
the reading on the spot.
-/

namespace Handheld.CommandLine

inductive ArgumentError where
  | missingRequired
  | unknown
  /-- The value of an option is missing or empty. -/
  | invalidValue
  | notANumber
  | repeated
  /-- A flag with a value attached. -/
  | unexpectedValue
  | helpRequested
  | versionRequested
  deriving DecidableEq

namespace ArgumentError

def message : ArgumentError → String
  | missingRequired => "no cartridge is named"
  | unknown => "a word is neither an option nor a value"
  | invalidValue => "an option needs a value"
  | notANumber => "the number of cycles is not a number of 64 bits"
  | repeated => "an option is given twice"
  | unexpectedValue => "a flag takes no value"
  | helpRequested =>
    "Options: --load-rom FILE [--log-path FILE] [--max-cycles N] [--help] [--version]"
  | versionRequested => "handheld 0.1.0"

/-- Whether the answer is what was asked for, and no failure. -/
def isAnswer (e : ArgumentError) : Bool :=
  e = helpRequested || e = versionRequested

end ArgumentError

structure Arguments where
  cartridgePath : String
  logPath? : Option String
  maxTicks? : Option Nat
  deriving DecidableEq

/-! ## Words -/

inductive OptionName where
  | loadRom
  | logPath
  | maxCycles
  deriving DecidableEq

/-- What a word of the command line looks like. -/
inductive Token where
  | option (name : OptionName) (attached? : Option String)
  | help (hasValue : Bool)
  | version (hasValue : Bool)
  /-- Two dashes: no options follow. -/
  | endOfOptions
  | unknownOption
  | value (text : String)
  deriving DecidableEq

namespace Token

/-- A long option without its dashes. -/
def ofLong (cs : List Char) : Token :=
  let attached? := match cs.dropWhile (· != '=') with
    | [] => none
    | _ :: v => some (String.ofList v)
  match String.ofList (cs.takeWhile (· != '=')) with
  | "load-rom" => option .loadRom attached?
  | "log-path" => option .logPath attached?
  | "max-cycles" => option .maxCycles attached?
  | "help" => help attached?.isSome
  | "version" => version attached?.isSome
  | _ => unknownOption

/-- Of a group of short flags the first one decides. -/
def ofWord (word : String) : Token :=
  match word.toList with
  | ['-', '-'] => endOfOptions
  | '-' :: '-' :: long => ofLong long
  | '-' :: 'h' :: _ => help false
  | '-' :: 'V' :: _ => version false
  | '-' :: _ :: _ => unknownOption
  | _ => value word

end Token

/-! ## Numbers -/

/-- Reads decimal digits onto the value so far, up to the limit. -/
def readDigits (limit : Nat) : Nat → List Char → Option Nat
  | acc, [] => some acc
  | acc, c :: rest =>
    if 48 ≤ c.toNat ∧ c.toNat ≤ 57 then
      let next := acc * 10 + (c.toNat - 48)
      if next ≤ limit then readDigits limit next rest else none
    else none

/-- A number of at most 64 bits, with a plus sign or without. -/
def readNumber? (text : String) : Option Nat :=
  let digits := match text.toList with
    | '+' :: digits => digits
    | digits => digits
  if digits = [] then none else readDigits (UInt64.size - 1) 0 digits

/-! ## Options -/

/-- The values given so far. -/
structure Given where
  loadRom? : Option String
  logPath? : Option String
  maxCycles? : Option Nat

namespace Given

def readPath (v : String) : Except ArgumentError String :=
  if v = "" then .error .invalidValue else .ok v

def readTicks (v : String) : Except ArgumentError Nat :=
  match readNumber? v with
  | some n => .ok n
  | none => .error .notANumber

/-- Checks an option and takes its value.  A missing value is noticed first, then a
repetition, then a value of the wrong form. -/
def accept (given : Given) (name : OptionName) (value? : Option String) :
    Except ArgumentError Given :=
  match value? with
  | none => .error .invalidValue
  | some v =>
    match name with
    | .loadRom =>
      if given.loadRom?.isSome then .error .repeated
      else return { given with loadRom? := some (← readPath v) }
    | .logPath =>
      if given.logPath?.isSome then .error .repeated
      else return { given with logPath? := some (← readPath v) }
    | .maxCycles =>
      if given.maxCycles?.isSome then .error .repeated
      else return { given with maxCycles? := some (← readTicks v) }

end Given

/-! ## Reading the command line -/

/-- The values given so far, and the last option if it is not checked yet, with its
value if that has been met. -/
structure Progress where
  given : Given
  open? : Option (OptionName × Option String)

namespace Progress

def initial : Progress :=
  ⟨⟨none, none, none⟩, none⟩

/-- Checks the last option. -/
def settle (progress : Progress) : Except ArgumentError Given :=
  match progress.open? with
  | none => .ok progress.given
  | some (name, value?) => progress.given.accept name value?

def finish (progress : Progress) : Except ArgumentError Arguments := do
  let given ← progress.settle
  match given.loadRom? with
  | some path => return ⟨path, given.logPath?, given.maxCycles?⟩
  | none => .error .missingRequired

/-- A flag ends the reading, once the last option is found in order. -/
def flag (progress : Progress) (hasValue : Bool) (e : ArgumentError) :
    Except ArgumentError Arguments :=
  if hasValue then .error .unexpectedValue
  else do
    let _ ← progress.settle
    .error e

end Progress

/-- Reads the remaining words. -/
def readWords (progress : Progress) : List String → Except ArgumentError Arguments
  | [] => progress.finish
  | word :: rest =>
    match Token.ofWord word with
    | .option name none => do
      let given ← progress.settle
      readWords ⟨given, some (name, none)⟩ rest
    | .option name (some v) => do
      let given ← progress.settle
      let given ← given.accept name (some v)
      readWords ⟨given, none⟩ rest
    | .help hasValue => progress.flag hasValue .helpRequested
    | .version hasValue => progress.flag hasValue .versionRequested
    | .endOfOptions => if rest = [] then progress.finish else .error .unknown
    | .unknownOption => .error .unknown
    | .value text =>
      match progress.open? with
      | some (name, none) => readWords ⟨progress.given, some (name, some text)⟩ rest
      | _ => .error .unknown

/-- The arguments that the words of a command line give. -/
def Arguments.parse (words : List String) : Except ArgumentError Arguments :=
  readWords .initial words

end Handheld.CommandLine
