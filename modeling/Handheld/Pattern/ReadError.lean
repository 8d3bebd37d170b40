import Handheld.Text.Split

/-!
# Why a pattern cannot be read

A flaw lies in a stretch of the written pattern.  The message shows the pattern with
marks under that stretch, and under another one if the flaw is a clash with it.  A
pattern of several lines is shown with line numbers.
-/

namespace Handheld.Pattern

/-- A stretch of a written pattern, between two offsets in characters. -/
structure Span where
  start : Nat
  stop : Nat
  deriving DecidableEq

inductive Flaw where
  | escapeUnfinished
  | escapeUnknown
  | backreference
  | hexEmpty
  | hexNoDigit
  | hexNoCharacter
  | propertyMalformed
  | wordEdgeUnclosed
  | wordEdgeUnknown
  | wordEdgeUnfinished
  | decimalTooLarge
  | nothingToRepeat
  | countUnclosed
  | countEmpty
  | countReversed
  | groupUnclosed
  | groupUnopened
  | nameEmpty
  | nameMalformed
  | nameUnclosed
  | nameRepeated
  | flagUnknown
  | flagRepeated
  | flagMissing
  | negationRepeated
  | negationOfNothing
  | lookAround
  | bracketUnclosed
  | bracketEscape
  | rangeReversed
  | rangeOfSets
  | tooDeep (limit : Nat)
  | invalidText
  | notAscii
  | propertyUnknown
  | propertyValueUnknown
  | noWordCharacters
  | noOtherCases
  deriving DecidableEq

def Flaw.message : Flaw → String
  | escapeUnfinished => "incomplete escape sequence, reached end of pattern prematurely"
  | escapeUnknown => "unrecognized escape sequence"
  | backreference => "backreferences are not supported"
  | hexEmpty => "hexadecimal literal empty"
  | hexNoDigit => "invalid hexadecimal digit"
  | hexNoCharacter => "hexadecimal literal is not a Unicode scalar value"
  | propertyMalformed => "invalid Unicode character class"
  | wordEdgeUnclosed =>
    "special word boundary assertion is either unclosed or contains an invalid character"
  | wordEdgeUnknown =>
    "unrecognized special word boundary assertion, valid choices are: start, end, start-half " ++
      "or end-half"
  | wordEdgeUnfinished =>
    "found either the beginning of a special word boundary or a bounded repetition on a \\b " ++
      "with an opening brace, but no closing brace"
  | decimalTooLarge => "decimal literal invalid"
  | nothingToRepeat => "repetition operator missing expression"
  | countUnclosed => "unclosed counted repetition"
  | countEmpty => "repetition quantifier expects a valid decimal"
  | countReversed => "invalid repetition count range, the start must be <= the end"
  | groupUnclosed => "unclosed group"
  | groupUnopened => "unopened group"
  | nameEmpty => "empty capture group name"
  | nameMalformed => "invalid capture group character"
  | nameUnclosed => "unclosed capture group name"
  | nameRepeated => "duplicate capture group name"
  | flagUnknown => "unrecognized flag"
  | flagRepeated => "duplicate flag"
  | flagMissing => "expected flag but got end of regex"
  | negationRepeated => "flag negation operator repeated"
  | negationOfNothing => "dangling flag negation operator"
  | lookAround => "look-around, including look-ahead and look-behind, is not supported"
  | bracketUnclosed => "unclosed character class"
  | bracketEscape => "invalid escape sequence found in character class"
  | rangeReversed => "invalid character class range, the start must be <= the end"
  | rangeOfSets => "invalid range boundary, must be a literal"
  | tooDeep limit =>
    "exceed the maximum number of nested parentheses/brackets (" ++ toString limit ++ ")"
  | invalidText => "pattern can match invalid UTF-8"
  | notAscii => "Unicode not allowed here"
  | propertyUnknown => "Unicode property not found"
  | propertyValueUnknown => "Unicode property value not found"
  | noWordCharacters =>
    "Unicode-aware Perl class not found (make sure the unicode-perl feature is enabled)"
  | noOtherCases =>
    "Unicode-aware case insensitivity matching is not available (make sure the unicode-case " ++
      "feature is enabled)"

structure ReadError where
  flaw : Flaw
  span : Span
  /-- What the flaw clashes with. -/
  other? : Option Span
  deriving DecidableEq

namespace ReadError

/-! ## Lines and columns -/

/-- The line of an offset, counted from zero. -/
def lineOf (pattern : List Char) (offset : Nat) : Nat :=
  (pattern.take offset).count '\n'

/-- How far an offset is from the start of its line. -/
def columnOf (pattern : List Char) (offset : Nat) : Nat :=
  ((pattern.take offset).reverse.takeWhile (· ≠ '\n')).length

/-- The lines as they are shown.  There is none after a final line end, and a carriage
return in front of a line end belongs to it. -/
def shownLines (pattern : List Char) : List (List Char) :=
  let parts := Text.splitAll '\n' pattern
  parts.dropLast.map (fun line => if line.getLast? = some '\r' then line.dropLast else line) ++
    (parts.getLast?.filter (· ≠ [])).toList

/-! ## The message -/

/-- The stretches concerned, in order. -/
def spans (e : ReadError) : List Span :=
  match e.other? with
  | none => [e.span]
  | some other =>
    if other.start < e.span.start || other.start = e.span.start && other.stop < e.span.stop then
      [other, e.span]
    else [e.span, other]

/-- Marks under stretches of a line, given how far the line is marked already. -/
def marks (pattern : List Char) : (column : Nat) → List Span → List Char
  | _, [] => []
  | column, span :: rest =>
    let start := columnOf pattern span.start
    let width := max 1 (columnOf pattern span.stop - start)
    List.replicate (start - column) ' ' ++ List.replicate width '^' ++
      marks pattern (max column start + width) rest

/-- The pattern, each line with a margin, and below a line the marks. -/
def annotated (pattern : List Char) (margin : Nat → List Char) (spans : List Span) :
    List Char :=
  (shownLines pattern).zipIdx.flatMap fun (line, i) =>
    let here := spans.filter (lineOf pattern ·.start = i)
    margin i ++ line ++ ['\n'] ++
      if here.isEmpty then []
      else List.replicate (margin i).length ' ' ++ marks pattern 0 here ++ ['\n']

def divider : List Char :=
  List.replicate 79 '~' ++ ['\n']

/-- Line numbers, as wide as the last one. -/
def numberMargin (lines i : Nat) : List Char :=
  let digits (n : Nat) : List Char := (toString n).toList
  List.replicate ((digits lines).length - (digits (i + 1)).length) ' ' ++ digits (i + 1) ++
    [':', ' ']

/-- Where a stretch is that goes over several lines. -/
def rangeNote (pattern : List Char) (span : Span) : String :=
  "on line " ++ toString (lineOf pattern span.start + 1) ++
    " (column " ++ toString (columnOf pattern span.start + 1) ++
    ") through line " ++ toString (lineOf pattern span.stop + 1) ++
    " (column " ++ toString (columnOf pattern span.stop) ++ ")\n"

def message (pattern : List Char) (e : ReadError) : String :=
  let lines := pattern.count '\n' + 1
  let (here, across) := e.spans.partition fun span =>
    lineOf pattern span.start = lineOf pattern span.stop
  let shown :=
    if lines = 1 then annotated pattern (fun _ => [' ', ' ', ' ', ' ']) here
    else divider ++ annotated pattern (numberMargin lines) here ++ divider
  "regex parse error:\n" ++ String.ofList shown ++
    String.join (across.map (rangeNote pattern)) ++ "error: " ++ e.flaw.message

end ReadError

end Handheld.Pattern
