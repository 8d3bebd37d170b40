import Handheld.Pattern.Basic
import Handheld.Pattern.ReadError

/-!
# Reading a pattern

Reading goes through the characters of a written pattern in order, and keeps the
options that are in force.  A pattern may be well formed and still ask for what there
is not; it is refused for the first such flaw, once it is read to the end without
another one.
-/

namespace Handheld.Pattern

/-- How a pattern is meant. -/
structure Options where
  /-- Letters stand for both of their cases. -/
  anyCase : Bool := false
  /-- Lines have starts and ends of their own. -/
  multiLine : Bool := false
  /-- A dot stands for line ends too. -/
  dotAll : Bool := false
  unicode : Bool := true
  /-- A carriage return ends a line too. -/
  returns : Bool := false
  /-- Blanks and comments stand between the parts of a pattern. -/
  freeSpacing : Bool := false
  deriving DecidableEq

/-- Turns the option of a letter on or off.  Which of several matches is taken does not
matter here, so the option `U` does nothing. -/
def Options.set? (options : Options) (on : Bool) : Char → Option Options
  | 'i' => some { options with anyCase := on }
  | 'm' => some { options with multiLine := on }
  | 's' => some { options with dotAll := on }
  | 'U' => some options
  | 'u' => some { options with unicode := on }
  | 'R' => some { options with returns := on }
  | 'x' => some { options with freeSpacing := on }
  | _ => none

/-- How far a pattern is read. -/
structure Progress where
  offset : Nat
  rest : List Char
  options : Options
  /-- The names of groups, and where they stand. -/
  names : List (List Char × Span)
  refusal? : Option ReadError

def Progress.start (pattern : List Char) : Progress :=
  ⟨0, pattern, {}, [], none⟩

abbrev Reading := StateT Progress (Except ReadError)

namespace Reading

/-! ## Going on -/

def offset : Reading Nat :=
  return (← get).offset

def peek? : Reading (Option Char) :=
  return (← get).rest.head?

def options : Reading Options :=
  return (← get).options

def setOptions (options : Options) : Reading Unit :=
  modify fun p => { p with options }

/-- Goes over so many characters. -/
def advance (n : Nat) : Reading Unit :=
  modify fun p =>
    let passed := min n p.rest.length
    { p with offset := p.offset + passed, rest := p.rest.drop n }

/-- How many characters the blanks and comments at the beginning have.  A comment goes from a
number sign to the end of its line. -/
def blankLength : (inComment : Bool) → List Char → Nat
  | _, [] => 0
  | true, c :: rest => 1 + blankLength (c ≠ '\n') rest
  | false, c :: rest =>
    if Text.isBlank c then 1 + blankLength false rest
    else if c = '#' then 1 + blankLength true rest
    else 0

/-- Goes over blanks and comments, where they do not belong to the pattern. -/
def skipBlanks : Reading Unit := do
  let p ← get
  if p.options.freeSpacing then advance (blankLength false p.rest)

/-- Goes over a character and what is to be skipped behind it. -/
def proceed : Reading (Option Char) := do
  advance 1
  skipBlanks
  peek?

/-- Goes over a text if it comes next. -/
def accept (text : String) : Reading Bool := do
  if text.toList.isPrefixOf (← get).rest then
    advance text.length
    return true
  else
    return false

/-- Goes over the first of several texts that comes next, if one does. -/
def acceptOne : List String → Reading Bool
  | [] => return false
  | text :: others => do
    if ← accept text then return true else acceptOne others

/-- Reads characters as long as they have a property. -/
def takeWhile (p : Char → Bool) : Reading (List Char) := do
  go (← get).rest.length
where
  go : Nat → Reading (List Char)
    | 0 => return []
    | n + 1 => do
      match ← peek? with
      | none => return []
      | some c =>
        if p c then
          let _ ← proceed
          return c :: (← go n)
        else
          return []

/-! ## Flaws -/

def fail (flaw : Flaw) (span : Span) (other? : Option Span) : Reading α :=
  throw ⟨flaw, span, other?⟩

/-- A flaw between an offset and the present one. -/
def failSince (start : Nat) (flaw : Flaw) : Reading α := do
  fail flaw ⟨start, ← offset⟩ none

/-- A flaw in front of the next character. -/
def failHere (flaw : Flaw) : Reading α := do
  failSince (← offset) flaw

/-- A flaw of the next character. -/
def failNext (flaw : Flaw) : Reading α := do
  let here ← offset
  fail flaw ⟨here, here + 1⟩ none

/-- Marks a pattern to be refused. -/
def refuse (flaw : Flaw) (span : Span) : Reading Unit :=
  modify fun p => { p with refusal? := p.refusal?.or (some ⟨flaw, span, none⟩) }

end Reading

/-! ## Parts -/

/-- A part of a pattern: what it means, where it stands, and the first of the parts in it
at each depth, from the outermost on. -/
structure Part (α : Type) where
  value : α
  span : Span
  levels : List Span

namespace Part

/-- The first of the parts at each depth of two neighbours. -/
def mergeLevels : List Span → List Span → List Span
  | [], levels => levels
  | level :: rest, levels => level :: mergeLevels rest levels.tail

/-- A part without parts in it. -/
def leaf (value : α) (span : Span) : Part α :=
  ⟨value, span, []⟩

/-- A part that consists of others. -/
def enclose (value : β) (span : Span) (inner : List (Part α)) : Part β :=
  ⟨value, span, span :: (inner.map (·.levels)).foldl mergeLevels []⟩

end Part

end Handheld.Pattern
