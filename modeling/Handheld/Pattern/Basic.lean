import Handheld.Pattern.CharSet

/-!
# Patterns

A pattern describes the stretches of a text that match it.  A stretch lies between
two positions, and a position lies between two characters or at an end of the text.
-/

namespace Handheld

/-- What decides whether a position is at an edge of a word. -/
inductive WordEdge where
  /-- A word starts or ends. -/
  | boundary
  /-- No word starts or ends. -/
  | inner
  | start
  | stop
  /-- No word reaches up to the position. -/
  | startHalf
  /-- No word goes on from the position. -/
  | stopHalf
  deriving DecidableEq

/-- What is asked of a position. -/
inductive Anchor where
  | textStart
  | textEnd
  | lineStart
  | lineEnd
  /-- A line that ends with a carriage return, a line feed or both. -/
  | returnLineStart
  | returnLineEnd
  /-- Words are of ASCII characters, or else of those of the Unicode standard. -/
  | word (edge : WordEdge) (ascii : Bool)
  deriving DecidableEq

inductive Pattern where
  /-- The empty stretch. -/
  | empty
  | char (s : CharSet)
  /-- The empty stretch at such a position. -/
  | anchor (a : Anchor)
  | seq (p q : Pattern)
  | alt (p q : Pattern)
  /-- At least so many repetitions, and at most so many, if there is a limit. -/
  | times (p : Pattern) (least : Nat) (most? : Option Nat)
  /-- A part that is to be remembered. -/
  | group (p : Pattern)

namespace Pattern

/-- Several patterns one after the other. -/
def seqs : List Pattern → Pattern
  | [] => empty
  | [p] => p
  | p :: q :: rest => seq p (seqs (q :: rest))

/-- One of several patterns. -/
def alts : List Pattern → Pattern
  | [] => char .empty
  | [p] => p
  | p :: q :: rest => alt p (alts (q :: rest))

/-! ## What a pattern takes -/

/-- Whether only empty stretches match. -/
def readsNothing : Pattern → Bool
  | empty | anchor _ => true
  | char _ => false
  | seq p q | alt p q => p.readsNothing && q.readsNothing
  | times p _ most? => p.readsNothing || most? == some 0
  | group p => p.readsNothing

/-- Whether words beyond ASCII are asked for.  A part that is repeated no times asks
for nothing. -/
def asksForUnicodeWords : Pattern → Bool
  | empty | char _ => false
  | anchor (.word _ ascii) => !ascii
  | anchor _ => false
  | seq p q | alt p q => p.asksForUnicodeWords || q.asksForUnicodeWords
  | times p _ most? => most? != some 0 && p.asksForUnicodeWords
  | group p => p.asksForUnicodeWords

/-- Bytes that a state of a searching machine takes. -/
def stateSize : Nat := 32

/-- Bytes for a set of characters: a state for each byte of a single character, a branching
state for ASCII characters, and a tree of states for others. -/
def setSize (s : CharSet) : Nat :=
  match s with
  | .range first last =>
    if first = last then first.utf8Size * stateSize
    else if last ≤ '\x7F' then 2 * stateSize + 8
    else 1000
  | s => if s.isAscii then 2 * stateSize + 8 * s.asciiRuns else 1000

/-- Bytes for repetitions of a pattern that takes `size` bytes.  Each of them has states of
its own. -/
def timesSize (size least : Nat) : (most? : Option Nat) → Nat
  | some most =>
    least * size +
      if most = least then 0 else (most - least) * (size + stateSize + 8) + stateSize
  | none => max 1 least * size + stateSize + 8

/-- About how many bytes a machine takes that searches for a pattern. -/
def size : Pattern → Nat
  | empty | anchor _ => stateSize
  | char s => setSize s
  | seq p q => p.size + q.size
  | alt p q => p.size + q.size + 2 * stateSize + 8
  | times p least most? =>
    if p.readsNothing then p.size else timesSize p.size least most?
  | group p => p.size + 2 * stateSize

end Pattern

end Handheld
