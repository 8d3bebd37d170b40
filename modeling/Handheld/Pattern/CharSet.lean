/-!
# Sets of characters

A set of characters is described by ranges and by operations on sets, as between
the brackets of a pattern.  The other case of a letter is known for ASCII letters.
-/

namespace Handheld

inductive CharSet where
  | empty
  | range (first last : Char)
  | union (s t : CharSet)
  | inter (s t : CharSet)
  | diff (s t : CharSet)
  | symmDiff (s t : CharSet)
  | compl (s : CharSet)
  /-- The characters of a set and their other cases. -/
  | anyCase (s : CharSet)
  deriving DecidableEq

namespace CharSet

/-- An ASCII letter in its other case, any other character as it is. -/
def otherCase (c : Char) : Char :=
  if c.isUpper then c.toLower else c.toUpper

def contains : CharSet → Char → Bool
  | empty, _ => false
  | range first last, c => first ≤ c && c ≤ last
  | union s t, c => s.contains c || t.contains c
  | inter s t, c => s.contains c && t.contains c
  | diff s t, c => s.contains c && !t.contains c
  | symmDiff s t, c => s.contains c != t.contains c
  | compl s, c => !s.contains c
  | anyCase s, c => s.contains c || s.contains (otherCase c)

def single (c : Char) : CharSet :=
  range c c

/-- The union of several sets. -/
def ofList : List CharSet → CharSet
  | [] => empty
  | [s] => s
  | s :: t :: rest => union s (ofList (t :: rest))

def any : CharSet :=
  compl empty

/-! ## Sets with a name -/

def digits : CharSet :=
  range '0' '9'

def uppers : CharSet :=
  range 'A' 'Z'

def lowers : CharSet :=
  range 'a' 'z'

def letters : CharSet :=
  union uppers lowers

/-- Letters, digits and the low line. -/
def wordChars : CharSet :=
  ofList [letters, digits, single '_']

def spaces : CharSet :=
  ofList [range '\t' '\r', single ' ']

/-- The ASCII sets that have a name between colons. -/
def named? (name : List Char) : Option CharSet :=
  match String.ofList name with
  | "alnum" => some (union letters digits)
  | "alpha" => some letters
  | "ascii" => some (range '\x00' '\x7F')
  | "blank" => some (union (single '\t') (single ' '))
  | "cntrl" => some (union (range '\x00' '\x1F') (single '\x7F'))
  | "digit" => some digits
  | "graph" => some (range '!' '~')
  | "lower" => some lowers
  | "print" => some (range ' ' '~')
  | "punct" => some (ofList [range '!' '/', range ':' '@', range '[' '\x60', range '\x7B' '~'])
  | "space" => some spaces
  | "upper" => some uppers
  | "word" => some wordChars
  | "xdigit" => some (ofList [digits, range 'A' 'F', range 'a' 'f'])
  | _ => none

/-! ## What a description tells -/

/-- Whether a description names a character at all. -/
def namesChars : CharSet → Bool
  | empty => false
  | range _ _ => true
  | union s t | inter s t | diff s t | symmDiff s t => s.namesChars || t.namesChars
  | compl s | anyCase s => s.namesChars

/-- Whether a set is seen to have ASCII characters only. -/
def isAscii : CharSet → Bool
  | empty => true
  | range _ last => last ≤ '\x7F'
  | union s t | symmDiff s t => s.isAscii && t.isAscii
  | inter s t => s.isAscii || t.isAscii
  | diff s _ => s.isAscii
  | compl _ => false
  | anyCase s => s.isAscii

/-- How many runs of adjacent ASCII characters a set has. -/
def asciiRuns (s : CharSet) : Nat :=
  let has (n : Nat) : Bool := s.contains (Char.ofNat n)
  (List.range 128).countP fun n => has n && (n = 0 || !has (n - 1))

end CharSet

end Handheld
