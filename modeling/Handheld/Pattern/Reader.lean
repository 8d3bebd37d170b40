import Handheld.Pattern.Bracket

/-!
# Reading whole patterns

A pattern consists of alternatives with bars between them.  An alternative is a
sequence of primitives, sets in brackets and groups in parentheses, and each of these
may be followed by how often it is to be repeated.  A text is accepted as a pattern if
it can be read, if a machine that searches for it does not take too much memory, and if
it does not ask for words beyond ASCII, whose characters are not known.
-/

namespace Handheld

namespace Pattern

namespace Reading

/-! ## Repetitions -/

/-- Reads a number with blanks around it.  Where there is none, reading goes on all the same. -/
def decimal : Reading (Except ReadError Nat) := do
  let _ ← takeWhile Text.isBlank
  let start ← offset
  let digits ← takeWhile Char.isDigit
  let span : Span := ⟨start, ← offset⟩
  let _ ← takeWhile Text.isBlank
  let n := digits.foldl (fun n c => 10 * n + (c.toNat - '0'.toNat)) 0
  if digits.isEmpty then return .error ⟨.countEmpty, span, none⟩
  else if UInt32.size ≤ n then return .error ⟨.decimalTooLarge, span, none⟩
  else return .ok n

/-- Reads the end of braces that count, which are open since `start`. -/
def closeBraces (start : Nat) : Reading Unit := do
  if (← peek?) != some '\x7D' then failSince start .countUnclosed
  let next? ← proceed
  if next? = some '?' then advance 1

/-- Reads how often something is to be repeated, between braces: so often, at least so
often, or from so often to so often. -/
def counts : Reading (Nat × Option Nat) := do
  let start ← offset
  if (← proceed).isNone then failSince start .countUnclosed
  let least ← decimal
  match ← peek? with
  | none => failSince start .countUnclosed
  | some ',' =>
    match ← proceed with
    | none => failSince start .countUnclosed
    | some '\x7D' =>
      let least ← least
      closeBraces start
      return (least, none)
    | some _ =>
      let least ← least
      let most ← (← decimal)
      closeBraces start
      if most < least then failSince start .countReversed
      return (least, some most)
  | some _ =>
    let n ← least
    closeBraces start
    return (n, some n)

/-- Reads how often something is to be repeated, given the sign that tells it.  A question mark
behind asks for as few repetitions as possible, which makes no difference here. -/
def repetition (sign : Char) : Reading (Nat × Option Nat) := do
  let simply (range : Nat × Option Nat) : Reading (Nat × Option Nat) := do
    advance 1
    let _ ← accept "?"
    return range
  match sign with
  | '?' => simply (0, some 1)
  | '*' => simply (0, none)
  | '+' => simply (1, none)
  | _ => counts

/-! ## The beginning of a group -/

/-- Reads the name of a group. -/
def groupName : Reading Unit := do
  let start ← offset
  let isFollowing (c : Char) : Bool :=
    c = '_' || c = '.' || c = '[' || c = ']' || Text.isAlphanumeric c
  let isLeading (c : Char) : Bool := c = '_' || Text.isAlphabetic c
  let name := (← get).rest.takeWhile (· ≠ '>')
  match name with
  | [] => pure ()
  | first :: others =>
    if !isLeading first then failNext .nameMalformed
    let good := others.takeWhile isFollowing
    advance (1 + good.length)
    if good.length < others.length then failNext .nameMalformed
  let span : Span := ⟨start, ← offset⟩
  if (← peek?).isNone then failHere .nameUnclosed
  advance 1
  if name.isEmpty then fail .nameEmpty span none
  match (← get).names.find? (·.1 = name) with
  | some (_, other) => fail .nameRepeated span (some other)
  | none => modify fun p => { p with names := (name, span) :: p.names }

/-- Reads the letters of options, up to a colon or a parenthesis.  Behind a hyphen
options are turned off.  `read` has the letters so far, the last one first. -/
def flags : (fuel : Nat) → (read : List (Char × Nat)) → Options → Reading Options
  | 0, _, o => return o
  | fuel + 1, read, o => do
    let here ← offset
    match ← peek? with
    | none => failHere .flagMissing
    | some c =>
      if c = ':' || c = ')' then
        match read with
        | ('-', last) :: _ => fail .negationOfNothing ⟨last, last + 1⟩ none
        | _ => return o
      else
        let on := !(read.any (·.1 = '-'))
        let o' ← match c, o.set? on c with
          | '-', _ => pure o
          | _, some o' => pure o'
          | _, none => failNext .flagUnknown
        if let some (_, other) := read.find? (·.1 = c) then
          fail (if c = '-' then .negationRepeated else .flagRepeated) ⟨here, here + 1⟩
            (some ⟨other, other + 1⟩)
        advance 1
        flags fuel ((c, here) :: read) o'

/-- What an opening parenthesis introduces. -/
inductive Opening where
  /-- A group to be remembered or not, in which such options hold. -/
  | group (remembered : Bool) (options : Options)
  /-- Options that hold from there on. -/
  | setting (options : Options)

/-- Reads an opening parenthesis and what belongs to it. -/
def opening : Reading Opening := do
  let start ← offset
  let o ← options
  let _ ← proceed
  let inner ← offset
  if ← acceptOne ["?=", "?!", "?<=", "?<!"] then failSince start .lookAround
  if ← acceptOne ["?P<", "?<"] then
    groupName
    return .group true o
  else if ← accept "?" then
    let present ← offset
    let rest := (← get).rest
    if rest.isEmpty then fail .groupUnclosed ⟨start, start + 1⟩ none
    let o' ← flags (rest.length + 1) [] o
    let isGroup := (← peek?) = some ':'
    let isBare := (← offset) = present
    advance 1
    if isGroup then return .group false o'
    else if isBare then fail .nothingToRepeat ⟨inner, inner⟩ none
    else return .setting o'
  else
    return .group true o

/-! ## Groups and alternatives -/

/-- A part of an alternative. -/
structure Piece where
  part : Part Pattern
  /-- Options cannot be repeated. -/
  repeatable : Bool

/-- A group that is open, or the whole pattern. -/
structure OpenGroup where
  /-- The opening parenthesis. -/
  paren? : Option Span
  /-- Where the alternatives begin. -/
  begun : Nat
  /-- The alternatives that are complete, last first. -/
  finished : List (Part Pattern)
  /-- Where the present alternative begins. -/
  current : Nat
  /-- The pieces of the present alternative, last first. -/
  pieces : List Piece

namespace OpenGroup

def start (paren? : Option Span) (begun : Nat) : OpenGroup :=
  ⟨paren?, begun, [], begun, []⟩

def add (g : OpenGroup) (part : Part Pattern) (repeatable : Bool) : OpenGroup :=
  { g with pieces := ⟨part, repeatable⟩ :: g.pieces }

/-- The present alternative, which ends at an offset. -/
def alternative (g : OpenGroup) (stop : Nat) : Part Pattern :=
  let span : Span := ⟨g.current, stop⟩
  match g.pieces with
  | [] => .leaf .empty span
  | [piece] => piece.part
  | pieces =>
    let parts := pieces.reverse.map (·.part)
    .enclose (.seqs (parts.map (·.value))) span parts

/-- Goes on to the next alternative behind a bar. -/
def next (g : OpenGroup) (bar : Nat) : OpenGroup :=
  { g with
    finished := g.alternative bar :: g.finished
    current := bar + 1
    pieces := [] }

/-- All alternatives, the last of which ends at an offset. -/
def close (g : OpenGroup) (stop : Nat) : Part Pattern :=
  match g.finished with
  | [] => g.alternative stop
  | finished =>
    let parts := (g.alternative stop :: finished).reverse
    .enclose (.alts (parts.map (·.value))) ⟨g.begun, stop⟩ parts

/-- Takes off the last piece, if it can be repeated. -/
def takeLast? (g : OpenGroup) : Option (Part Pattern × OpenGroup) :=
  match g.pieces with
  | ⟨part, true⟩ :: pieces => some (part, { g with pieces })
  | _ => none

end OpenGroup

/-- Reads on to the end of an open group.  Each step goes over a character, so that `fuel`
may be one more than their number. -/
def groupFrom : (fuel : Nat) → OpenGroup → Reading (Part Pattern)
  | 0, g => return g.close (← offset)
  | fuel + 1, g => do
    skipBlanks
    let here ← offset
    match ← peek?, g.paren? with
    | none, some paren => fail .groupUnclosed paren none
    | none, none => return g.close here
    | some ')', none => failNext .groupUnopened
    | some ')', some _ => do
      advance 1
      return g.close here
    | some '|', _ => do
      advance 1
      groupFrom fuel (g.next here)
    | some '(', _ => do
      let outer ← options
      match ← opening with
      | .setting o =>
        setOptions o
        groupFrom fuel (g.add (.leaf .empty ⟨here, ← offset⟩) false)
      | .group remembered o =>
        setOptions o
        let inner ← groupFrom fuel (.start (some ⟨here, here + 1⟩) (← offset))
        setOptions outer
        let p := if remembered then .group inner.value else inner.value
        groupFrom fuel (g.add (.enclose p ⟨here, ← offset⟩ [inner]) true)
    | some '[', _ => do
      let s ← bracket
      groupFrom fuel (g.add { s with value := .char s.value } true)
    | some c, _ => do
      if c = '?' || c = '*' || c = '+' || c = '\x7B' then
        match g.takeLast? with
        | none => failHere .nothingToRepeat
        | some (part, g) =>
          let (least, most?) ← repetition c
          groupFrom fuel
            (g.add (.enclose (.times part.value least most?) ⟨part.span.start, ← offset⟩ [part])
              true)
      else
        let part ← primitive c
        groupFrom fuel (g.add { part with value := ← patternOf part } true)

end Reading

/-! ## Whole patterns -/

/-- How deep the parts of a pattern may be nested. -/
def greatestDepth : Nat := 250

/-- Reads a pattern. -/
def read (pattern : List Char) : Except ReadError Pattern := do
  let whole := Reading.groupFrom (pattern.length + 1) (.start none 0)
  let (part, progress) ← whole.run (.start pattern)
  if let some span := part.levels[greatestDepth]? then
    throw ⟨.tooDeep greatestDepth, span, none⟩
  if let some e := progress.refusal? then throw e
  return part.value

end Pattern

/-! ## Patterns of texts -/

/-- Why a text is not accepted as a pattern. -/
inductive PatternError where
  | unreadable (e : Pattern.ReadError)
  | tooLarge
  | wordsUnknown
  deriving DecidableEq

namespace Pattern

/-- How many bytes a searching machine may take. -/
def sizeLimit : Nat := 10485760

/-- Bytes for the states in front of a pattern and behind it. -/
def frameSize : Nat := 5 * stateSize + 4

def ofText (text : List Char) : Except PatternError Pattern := do
  let p ← (read text).mapError .unreadable
  if sizeLimit < p.size + frameSize then throw .tooLarge
  if p.asksForUnicodeWords then throw .wordsUnknown
  return p

end Pattern

/-- The reason, given the text. -/
def PatternError.message (text : List Char) : PatternError → String
  | unreadable e => e.message text
  | tooLarge => "Compiled regex exceeds size limit of " ++ toString Pattern.sizeLimit ++ " bytes."
  | wordsUnknown => "error building NFA"

end Handheld
