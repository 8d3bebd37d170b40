import Handheld.Event
import Handheld.Pattern.Reader
import Handheld.Pattern.Search
import Handheld.Text.Split

/-!
# Selecting events

A setting selects the events to show.  It consists of directives, with commas
between them, and after a slash a pattern that has to occur in a message.  A directive
is a level, which holds for all channels, or the beginning of a channel's name with
or without an equals sign and a level.  For an event the directive with the longest
fitting name counts.  A directive or a pattern that cannot be read is passed over with
a warning.  Without any directive only errors are shown.
-/

namespace Handheld.CommandLine

/-- Shows events of a channel up to a level, or none at all. -/
structure Directive where
  /-- How the names of the channels begin that it holds for. -/
  name? : Option (List Char)
  level? : Option Level
  deriving DecidableEq

namespace Directive

def fits (d : Directive) (channel : List Char) : Bool :=
  d.name?.all (·.isPrefixOf channel)

/-- Length of the name in bytes, zero if there is none. -/
def nameLength (d : Directive) : Nat :=
  d.name?.elim 0 fun name => (String.ofList name).utf8ByteSize

end Directive

structure LogFilter where
  directives : List Directive
  pattern? : Option Pattern

namespace LogFilter

/-! ## Reading a setting -/

/-- Removes blanks at both ends. -/
def trim (cs : List Char) : List Char :=
  ((cs.dropWhile Text.isBlank).reverse.dropWhile Text.isBlank).reverse

/-- A level or `off`, in letters of either case. -/
def readLevel? (cs : List Char) : Option (Option Level) :=
  match String.ofList (cs.map Char.toLower) with
  | "off" => some none
  | "error" => some (some .error)
  | "warn" => some (some .warn)
  | "info" => some (some .info)
  | "debug" => some (some .debug)
  | "trace" => some (some .trace)
  | _ => none

/-- Reads a directive, or yields the part of it that cannot be read. -/
def readDirective (cs : List Char) : Except (List Char) Directive :=
  match Text.splitAll '=' cs with
  | [part] =>
    match readLevel? part with
    | some level? => .ok ⟨none, level?⟩
    | none => .ok ⟨some part, some .trace⟩
  | [name, level] =>
    let level := trim level
    if level = [] then .ok ⟨some name, some .trace⟩
    else
      match readLevel? level with
      | some level? => .ok ⟨some name, level?⟩
      | none => .error level
  | _ => .error cs

/-- Adds a directive.  One with the same name gives way to it. -/
def insert (directives : List Directive) (d : Directive) : List Directive :=
  if directives.any (·.name? = d.name?) then
    directives.map fun old => if old.name? = d.name? then d else old
  else directives ++ [d]

/-- Reads directives one after the other, with a warning for each that cannot be. -/
def readDirectives : List (List Char) → List Directive × List String
  | parts => parts.foldl (fun (directives, warnings) part =>
      match trim part with
      | [] => (directives, warnings)
      | part =>
        match readDirective part with
        | .ok d => (insert directives d, warnings)
        | .error bad =>
          (directives, warnings ++ ["invalid logging spec '" ++ String.ofList bad ++ "'"]))
    ([], [])

/-- Reads a pattern, or yields a warning. -/
def readPattern (text : List Char) : Option Pattern × List String :=
  match Pattern.ofText text with
  | .ok p => (some p, [])
  | .error e => (none, ["invalid regex filter - " ++ e.message text])

/-- Reads a setting, with warnings for what cannot be read. -/
def parse (setting : String) : LogFilter × List String :=
  match Text.splitAll '/' setting.toList with
  | [directives] =>
    let (directives, warnings) := readDirectives (Text.splitAll ',' directives)
    (⟨directives, none⟩, warnings)
  | [directives, text] =>
    let (directives, warnings) := readDirectives (Text.splitAll ',' directives)
    let (pattern?, more) := readPattern text
    (⟨directives, pattern?⟩, warnings ++ more)
  | _ => (⟨[], none⟩, ["invalid logging spec '" ++ setting ++ "' (too many '/'s)"])

/-! ## Applying it -/

/-- The directive that counts for a channel: of those that fit and have the longest
name the last one. -/
def decisive? (directives : List Directive) (channel : List Char) : Option Directive :=
  (directives.filter (·.fits channel)).foldl
    (fun best? d =>
      match best? with
      | some best =>
        if best.nameLength ≤ d.nameLength then some d else some best
      | none => some d)
    none

/-- Whether an event is shown, given what the channels are called. -/
def admits (filter : LogFilter) (channelName : Channel → String) (e : Event) : Bool :=
  let directives := match filter.directives with
    | [] => [⟨none, some .error⟩]
    | directives => directives
  let level? := (decisive? directives (channelName e.channel).toList).bind (·.level?)
  level?.any (e.level.rank ≤ ·.rank) &&
    filter.pattern?.all (·.occursIn e.message.toList)

end LogFilter

end Handheld.CommandLine
