import Handheld.Pattern.Primitive

/-!
# Sets in brackets

Between brackets stand characters, ranges, shorthands, named sets and further
brackets.  Side by side they are united; two ampersands intersect what stands before
with what stands behind, two hyphens subtract, and two tildes keep what only one side
has.
-/

namespace Handheld.Pattern.Reading

/-! ## Items -/

/-- A set with the other cases of its letters, where they are meant. -/
def foldCase (s : CharSet) (span : Span) : Reading CharSet := do
  let o ← options
  if o.anyCase && o.unicode && s.namesChars then refuse .noOtherCases span
  return if o.anyCase then .anyCase s else s

/-- A set or all that is not in it. -/
def negate (negated : Bool) (s : CharSet) (span : Span) : Reading CharSet := do
  if negated && !(← options).unicode then refuse .invalidText span
  return if negated then .compl s else s

/-- Refuses a character that cannot be in a set. -/
def checkMember (c : Char) (isByte : Bool) (span : Span) : Reading Unit := do
  checkByte c isByte span
  if !(← options).unicode && '\x7F' < c then refuse .notAscii span

def itemOf (part : Part Primitive) : Reading (Part CharSet) := do
  let span := part.span
  match part.value with
  | .char c isByte =>
    checkMember c isByte span
    return .leaf (.single c) span
  | .shorthand s negated => return .leaf (← shorthandSet s negated span) span
  | .property flaw => return .leaf (← propertySet flaw span) span
  | .dot | .anchor _ => fail .bracketEscape span none

/-- A range between two characters. -/
def rangeOf (first last : Part Primitive) : Reading (Part CharSet) := do
  let span : Span := ⟨first.span.start, last.span.stop⟩
  match first.value, last.value with
  | .char c isByte, .char d isByte' =>
    if d < c then fail .rangeReversed span none
    checkMember c isByte first.span
    checkMember d isByte' last.span
    return .leaf (.range c d) span
  | .char _ _, _ => fail .rangeOfSets last.span none
  | _, _ => fail .rangeOfSets first.span none

/-- Reads a character or an escape within brackets. -/
def member (c : Char) : Reading (Part Primitive) := do
  if c = '\\' then escape
  else
    let start ← offset
    advance 1
    return .leaf (.char c false) ⟨start, start + 1⟩

/-- What comes behind the next character, blanks and the first number sign left out. -/
def peekBehind? : Reading (Option Char) := do
  let p ← get
  let behind := p.rest.tail
  if !p.options.freeSpacing then return behind.head?
  let significant :=
    match behind.dropWhile Text.isBlank with
    | '#' :: rest => rest.dropWhile Text.isBlank
    | rest => rest
  return significant.head?.or behind.head?

/-- Reads a range, or a single member.  A hyphen in front of a bracket or of another
hyphen makes no range.  `opening` is where the brackets were opened. -/
def item (opening : Span) (c : Char) : Reading (Part CharSet) := do
  let first ← member c
  skipBlanks
  match ← peek? with
  | none => fail .bracketUnclosed opening none
  | some c =>
    let behind? ← peekBehind?
    if c ≠ '-' || behind? = some ']' || behind? = some '-' then itemOf first
    else
      match ← proceed with
      | none => fail .bracketUnclosed opening none
      | some c => rangeOf first (← member c)

/-- Reads a set with a name, or goes over nothing. -/
def namedSet? : Reading (Option (Part CharSet)) := do
  let before ← get
  if ← accept "[:" then
    let negated ← accept "^"
    let name := (← get).rest.takeWhile (· ≠ ':')
    advance name.length
    if ← accept ":]" then
      if let some s := CharSet.named? name then
        let span : Span := ⟨before.offset, ← offset⟩
        return some (.leaf (← negate negated (← foldCase s span) span) span)
  set before
  return none

/-! ## Operations -/

inductive SetOperation where
  | intersect
  | subtract
  | disunite

def SetOperation.apply : SetOperation → CharSet → CharSet → CharSet
  | intersect => .inter
  | subtract => .diff
  | disunite => .symmDiff

/-- Reads the sign of an operation, or goes over nothing. -/
def setOperation? : Reading (Option SetOperation) := do
  if ← accept "&&" then return some .intersect
  else if ← accept "--" then return some .subtract
  else if ← accept "~~" then return some .disunite
  else return none

/-- Brackets that are open. -/
structure OpenBracket where
  /-- The opening bracket and what belongs to it. -/
  span : Span
  negated : Bool
  /-- What stands before the last operation. -/
  left? : Option (SetOperation × Part CharSet)
  /-- Where the items behind it begin. -/
  begun : Nat
  /-- The items, last first. -/
  items : List (Part CharSet)

namespace OpenBracket

/-- The union of the items. -/
def union (b : OpenBracket) : Part CharSet :=
  match b.items with
  | [] => .leaf .empty ⟨b.begun, b.begun⟩
  | [item] => item
  | last :: _ =>
    let items := b.items.reverse
    .enclose (.ofList (items.map (·.value)))
      ⟨(items.head?.getD last).span.start, last.span.stop⟩ items

/-- What stands between the brackets so far. -/
def content (b : OpenBracket) : Reading (Part CharSet) := do
  let right := b.union
  match b.left? with
  | none => return right
  | some (operation, left) =>
    let s ← foldCase right.value right.span
    let t ← foldCase left.value left.span
    return .enclose (operation.apply t s) ⟨left.span.start, right.span.stop⟩ [left, right]

/-- What the brackets stand for, once they are closed. -/
def close (b : OpenBracket) : Reading (Part CharSet) := do
  let inner ← b.content
  let span : Span := ⟨b.span.start, ← offset⟩
  return .enclose (← negate b.negated (← foldCase inner.value span) span) span [inner]

end OpenBracket

/-! ## Brackets -/

/-- Reads hyphens at the beginning, which stand for themselves. -/
def leadingHyphens (start : Nat) : Nat → Reading (List (Part CharSet))
  | 0 => return []
  | n + 1 => do
    if (← peek?) != some '-' then return []
    let here ← offset
    if (← proceed).isNone then fail .bracketUnclosed ⟨start, start⟩ none
    return (← leadingHyphens start n) ++ [.leaf (.single '-') ⟨here, here + 1⟩]

/-- Reads an opening bracket and what has a meaning of its own there: a negation,
hyphens, or a closing bracket that stands for itself. -/
def openBracket : Reading OpenBracket := do
  let start ← offset
  if (← proceed).isNone then failSince start .bracketUnclosed
  let negated := (← peek?) = some '^'
  if negated then
    if (← proceed).isNone then failSince start .bracketUnclosed
  let begun ← offset
  let hyphens ← leadingHyphens start (← get).rest.length
  let here ← offset
  let mut items := hyphens
  if items.isEmpty && (← peek?) = some ']' then
    if (← proceed).isNone then failSince start .bracketUnclosed
    items := [.leaf (.single ']') ⟨here, here + 1⟩]
  return ⟨⟨start, ← offset⟩, negated, none, begun, items⟩

/-- Reads on to the end of open brackets.  Each step goes over a character, so that
`fuel` may be one more than their number. -/
def bracketFrom : (fuel : Nat) → OpenBracket → Reading (Part CharSet)
  | 0, b => fail .bracketUnclosed b.span none
  | fuel + 1, b => do
    skipBlanks
    match ← peek? with
    | none => fail .bracketUnclosed b.span none
    | some '[' =>
      match ← namedSet? with
      | some s => bracketFrom fuel { b with items := s :: b.items }
      | none =>
        let inner ← bracketFrom fuel (← openBracket)
        bracketFrom fuel { b with items := inner :: b.items }
    | some ']' =>
      advance 1
      b.close
    | some c =>
      match ← setOperation? with
      | some operation =>
        let left ← b.content
        bracketFrom fuel { b with left? := some (operation, left), begun := ← offset, items := [] }
      | none =>
        let next ← item b.span c
        bracketFrom fuel { b with items := next :: b.items }

/-- Reads a set in brackets. -/
def bracket : Reading (Part CharSet) := do
  let b ← openBracket
  bracketFrom ((← get).rest.length + 1) b

end Handheld.Pattern.Reading
