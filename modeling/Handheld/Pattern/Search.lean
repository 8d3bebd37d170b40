import Handheld.Pattern.Basic

/-!
# Searching for a pattern

A set of positions of a text is a number: position `i` belongs to it if bit `i` is
set.  A pattern leads from positions to the positions where its matches from there
end.  A match never ends before it starts, so repetitions lead to nothing new after
one more of them than the text has characters.
-/

namespace Handheld

/-- A set of positions of a text. -/
abbrev Positions := Nat

namespace Positions

/-- The positions in front of characters with a property. -/
def before (p : Char → Bool) : List Char → Positions
  | [] => 0
  | c :: rest => (before p rest) <<< 1 ||| (p c).toNat

/-- The positions with a property of the characters at both sides. -/
def between (p : Option Char → Option Char → Bool) : Option Char → List Char → Positions
  | left?, [] => (p left? none).toNat
  | left?, c :: rest => (between p (some c) rest) <<< 1 ||| (p left? (some c)).toNat

/-- All positions of a text. -/
def all (text : List Char) : Positions :=
  between (fun _ _ => true) none text

end Positions

namespace WordEdge

/-- Whether an edge is there, given whether a word reaches up to the position and whether
one goes on from it. -/
def holds : WordEdge → Bool → Bool → Bool
  | boundary, left, right => left != right
  | inner, left, right => left == right
  | start, left, right => !left && right
  | stop, left, right => left && !right
  | startHalf, left, _ => !left
  | stopHalf, _, right => !right

end WordEdge

namespace Anchor

/-- Whether a position is as asked, given the characters at both sides. -/
def holds (a : Anchor) (left? right? : Option Char) : Bool :=
  match a with
  | textStart => left?.isNone
  | textEnd => right?.isNone
  | lineStart => left?.all (· = '\n')
  | lineEnd => right?.all (· = '\n')
  | returnLineStart => left?.all fun c => c = '\n' || c = '\r' && right? != some '\n'
  | returnLineEnd => right?.all fun c => c = '\r' || c = '\n' && left? != some '\r'
  | word edge _ =>
    edge.holds (left?.any CharSet.wordChars.contains) (right?.any CharSet.wordChars.contains)

end Anchor

namespace Pattern

/-- Takes a step exactly so often. -/
def exactly (step : Positions → Positions) : Nat → Positions → Positions
  | 0, s => s
  | n + 1, s => if s = 0 then 0 else exactly step n (step s)

/-- Takes a step up to so often, from the positions that were new the time before. -/
def upTo (step : Positions → Positions) : Nat → (seen new : Positions) → Positions
  | 0, seen, _ => seen
  | n + 1, seen, new =>
    let seen' := seen ||| step new
    if seen' = seen then seen else upTo step n seen' (seen' ^^^ seen)

/-- Where the matches end that start at one of the positions. -/
def reach (text : List Char) : Pattern → Positions → Positions
  | empty, s => s
  | char c, s => (s &&& Positions.before c.contains text) <<< 1
  | anchor a, s => s &&& Positions.between a.holds none text
  | seq p q, s => q.reach text (p.reach text s)
  | alt p q, s => p.reach text s ||| q.reach text s
  | times p least most?, s =>
    let bound := text.length + 1
    let start := exactly (p.reach text) (min least bound) s
    upTo (p.reach text) ((most?.map (· - least)).elim bound (min bound)) start start
  | group p, s => p.reach text s

/-- Whether a stretch of a text matches. -/
def occursIn (p : Pattern) (text : List Char) : Bool :=
  p.reach text (Positions.all text) != 0

end Pattern

end Handheld
