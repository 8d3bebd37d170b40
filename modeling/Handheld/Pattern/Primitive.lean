import Handheld.Pattern.Progress
import Handheld.Text.Hex

/-!
# The smallest parts of a pattern

A character, a shorthand for a set of characters, a dot or an anchor.  What is not a
plain character is written with a backslash, but for the dot and the ends of lines.
-/

namespace Handheld.Pattern

inductive Primitive where
  /-- A character, and whether it is written as a byte. -/
  | char (c : Char) (isByte : Bool)
  /-- One of the ASCII sets that have a letter. -/
  | shorthand (s : CharSet) (negated : Bool)
  /-- A property of characters.  There are no tables of properties. -/
  | property (flaw : Flaw)
  | dot
  | anchor (a : Anchor)
  deriving DecidableEq

namespace Reading

/-! ## Characters by their number -/

/-- The character with a number of hexadecimal digits. -/
def charOfHex? (digits : List Char) : Option Char :=
  let n := digits.foldl (fun n c => 16 * n + (Hex.value? c).getD 0) 0
  if n.isValidChar then some (Char.ofNat n) else none

def isHexDigit (c : Char) : Bool :=
  (Hex.value? c).isSome

/-- Reads so many hexadecimal digits. -/
def hexDigits : Nat → Reading (List Char)
  | 0 => return []
  | n + 1 => do
    match ← peek? with
    | none => failHere .escapeUnfinished
    | some c =>
      if isHexDigit c then
        let _ ← proceed
        return c :: (← hexDigits n)
      else
        failNext .hexNoDigit

/-- Reads a number of so many digits, or of any number of them between braces. -/
def hexNumber (count : Nat) : Reading Primitive := do
  match ← proceed with
  | none => failHere .escapeUnfinished
  | some '\x7B' =>
    let brace ← offset
    let _ ← proceed
    let digits ← takeWhile isHexDigit
    let stop ← offset
    match ← peek? with
    | none => failSince brace .escapeUnfinished
    | some '\x7D' =>
      let _ ← proceed
      if digits.isEmpty then failSince brace .hexEmpty
      match charOfHex? digits with
      | some c => return .char c false
      | none => fail .hexNoCharacter ⟨brace + 1, stop⟩ none
    | some _ => failNext .hexNoDigit
  | some _ =>
    let start ← offset
    let digits ← hexDigits count
    match charOfHex? digits with
    | some c => return .char c (count = 2)
    | none => failSince start .hexNoCharacter

/-! ## Properties -/

/-- The name of a property without what does not matter in it. -/
def propertyName (name : List Char) : List Char :=
  let name := match name with
    | a :: b :: rest => if a.toLower = 'i' && b.toLower = 's' then rest else name
    | _ => name
  (name.filter fun c => c ≠ ' ' && c ≠ '_' && c ≠ '-' && c ≤ '\x7F').map Char.toLower

/-- What is wrong with a property.  Three names are those of values. -/
def propertyFlaw (name : List Char) : Flaw :=
  match String.ofList (propertyName name) with
  | "cf" | "sc" | "lc" => .propertyValueUnknown
  | _ => .propertyUnknown

/-- Reads the name of a property, a single letter or any name between braces. -/
def property : Reading Primitive := do
  match ← proceed with
  | none => failHere .escapeUnfinished
  | some '\x7B' =>
    let _ ← proceed
    let name ← takeWhile (· ≠ '\x7D')
    if (← peek?).isNone then failHere .escapeUnfinished
    advance 1
    return .property (propertyFlaw name)
  | some '\\' => failNext .propertyMalformed
  | some c =>
    let _ ← proceed
    return .property (propertyFlaw [c])

/-! ## Edges of words -/

def isEdgeChar (c : Char) : Bool :=
  c.isAlpha || c = '-'

/-- Reads what kind of an edge is meant, between braces.  Braces that begin otherwise
are left alone, as they count repetitions. -/
def wordEdge (start : Nat) : Reading WordEdge := do
  if (← peek?) != some '\x7B' then return .boundary
  let before ← get
  match ← proceed with
  | none => failSince start .wordEdgeUnfinished
  | some c =>
    if !isEdgeChar c then
      set before
      return .boundary
    let inside ← offset
    let name ← takeWhile isEdgeChar
    let stop ← offset
    if (← peek?) != some '\x7D' then failSince before.offset .wordEdgeUnclosed
    advance 1
    match String.ofList name with
    | "start" => return .start
    | "end" => return .stop
    | "start-half" => return .startHalf
    | "end-half" => return .stopHalf
    | _ => fail .wordEdgeUnknown ⟨inside, stop⟩ none

/-! ## Escapes and all the others -/

/-- Reads what a letter behind a backslash means, and the characters that belong to it. -/
def escapeOf (start : Nat) (c : Char) : Reading Primitive := do
  let word (edge : WordEdge) : Reading Primitive := do
    return .anchor (.word edge !(← options).unicode)
  match c with
  | 'x' => hexNumber 2
  | 'u' => hexNumber 4
  | 'U' => hexNumber 8
  | 'p' | 'P' => property
  | _ =>
    advance 1
    match c with
    | 'd' => return .shorthand .digits false
    | 's' => return .shorthand .spaces false
    | 'w' => return .shorthand .wordChars false
    | 'D' => return .shorthand .digits true
    | 'S' => return .shorthand .spaces true
    | 'W' => return .shorthand .wordChars true
    | 'a' => return .char '\x07' false
    | 'f' => return .char '\x0C' false
    | 't' => return .char '\t' false
    | 'n' => return .char '\n' false
    | 'r' => return .char '\r' false
    | 'v' => return .char '\x0B' false
    | 'A' => return .anchor .textStart
    | 'z' => return .anchor .textEnd
    | 'b' => word (← wordEdge start)
    | 'B' => word .inner
    | '<' => word .start
    | '>' => word .stop
    | _ =>
      if c ≤ '\x7F' && !c.isAlphanum then return .char c false
      failSince start .escapeUnknown

/-- Reads what a backslash introduces. -/
def escape : Reading (Part Primitive) := do
  let start ← offset
  advance 1
  match ← peek? with
  | none => failSince start .escapeUnfinished
  | some c =>
    if c.isDigit then fail .backreference ⟨start, start + 2⟩ none
    let value ← escapeOf start c
    return .leaf value ⟨start, ← offset⟩

/-- Which of an end of the text and two kinds of ends of lines is meant. -/
def lineAnchor (o : Options) (ofText ofLine ofReturnLine : Anchor) : Anchor :=
  if !o.multiLine then ofText
  else if o.returns then ofReturnLine
  else ofLine

/-- Reads a primitive outside brackets, given the next character. -/
def primitive (c : Char) : Reading (Part Primitive) := do
  if c = '\\' then escape
  else
    let start ← offset
    let o ← options
    let value : Primitive :=
      match c with
      | '.' => .dot
      | '^' => .anchor (lineAnchor o .textStart .lineStart .returnLineStart)
      | '$' => .anchor (lineAnchor o .textEnd .lineEnd .returnLineEnd)
      | c => .char c false
    advance 1
    return .leaf value ⟨start, start + 1⟩

/-! ## What they mean -/

/-- The set of a shorthand.  It is known within ASCII only, and there without negation. -/
def shorthandSet (s : CharSet) (negated : Bool) (span : Span) : Reading CharSet := do
  if (← options).unicode then refuse .noWordCharacters span
  else if negated then refuse .invalidText span
  return if negated then .compl s else s

/-- No characters, as a property is refused. -/
def propertySet (flaw : Flaw) (span : Span) : Reading CharSet := do
  refuse (if (← options).unicode then flaw else .notAscii) span
  return .empty

/-- A byte beyond ASCII is not a character. -/
def checkByte (c : Char) (isByte : Bool) (span : Span) : Reading Unit := do
  if !(← options).unicode && isByte && '\x7F' < c then refuse .invalidText span

/-- A character as a pattern. -/
def charPattern (c : Char) (isByte : Bool) (span : Span) : Reading Pattern := do
  checkByte c isByte span
  let o ← options
  if o.anyCase && o.unicode then refuse .noOtherCases span
  return .char (if o.anyCase && c.isAlpha then .anyCase (.single c) else .single c)

/-- Any character, but line ends only if they are meant too. -/
def dotPattern (span : Span) : Reading Pattern := do
  let o ← options
  if !o.unicode then refuse .invalidText span
  let lineEnds : CharSet :=
    if o.dotAll then .empty
    else if o.returns then .union (.single '\n') (.single '\r')
    else .single '\n'
  return .char (.compl lineEnds)

def patternOf (part : Part Primitive) : Reading Pattern := do
  match part.value with
  | .char c isByte => charPattern c isByte part.span
  | .shorthand s negated => return .char (← shorthandSet s negated part.span)
  | .property flaw => return .char (← propertySet flaw part.span)
  | .dot => dotPattern part.span
  | .anchor a => return .anchor a

end Reading

end Handheld.Pattern
