import Handheld.Word

/-!
# Reading UTF-8

Bytes are read one at a time.  Between characters any byte may start one; within
a character the next byte has to lie in a range that the bytes so far determine.
A byte outside that range ends the unfinished character as malformed and is then
read afresh, so each longest beginning of a character that cannot be completed
counts as one malformed piece.
-/

namespace Handheld.Utf8

/-- An unfinished character: its value so far, how many bytes it still lacks, and
the range in which the next of them has to lie. -/
structure Pending where
  value : Nat
  owed : Nat
  least : Nat
  greatest : Nat

/-- A piece of a byte sequence is a character or malformed. -/
abbrev Piece := Option Char

/-- Starts an unfinished character whose next byte is unrestricted. -/
def Pending.plain (value owed : Nat) : Pending :=
  ⟨value, owed, 0x80, 0xBF⟩

/-- Reads a byte between characters. -/
def start (b : Byte) : List Piece × Option Pending :=
  let n := b.toNat
  if n ≤ 0x7F then ([some (Char.ofNat n)], none)
  else if n < 0xC2 then ([none], none)
  else if n ≤ 0xDF then ([], some (.plain (n - 0xC0) 1))
  else if n = 0xE0 then ([], some ⟨0, 2, 0xA0, 0xBF⟩)
  else if n = 0xED then ([], some ⟨0xD, 2, 0x80, 0x9F⟩)
  else if n ≤ 0xEF then ([], some (.plain (n - 0xE0) 2))
  else if n = 0xF0 then ([], some ⟨0, 3, 0x90, 0xBF⟩)
  else if n ≤ 0xF3 then ([], some (.plain (n - 0xF0) 3))
  else if n = 0xF4 then ([], some ⟨4, 3, 0x80, 0x8F⟩)
  else ([none], none)

/-- Reads a byte within a character. -/
def resume (p : Pending) (b : Byte) : List Piece × Option Pending :=
  let n := b.toNat
  if p.least ≤ n ∧ n ≤ p.greatest then
    let value := p.value * 64 + (n - 0x80)
    if p.owed ≤ 1 then ([some (Char.ofNat value)], none)
    else ([], some (.plain value (p.owed - 1)))
  else
    let (pieces, pending) := start b
    (none :: pieces, pending)

/-- The pieces of a byte sequence that follows an unfinished character, if any. -/
def piecesFrom : Option Pending → List Byte → List Piece
  | none, [] => []
  | some _, [] => [none]
  | pending, b :: rest =>
    let (pieces, pending) := match pending with
      | none => start b
      | some p => resume p b
    pieces ++ piecesFrom pending rest

def pieces (bytes : List Byte) : List Piece :=
  piecesFrom none bytes

/-- The text of well-formed bytes. -/
def decode? (bytes : List Byte) : Option (List Char) :=
  (pieces bytes).mapM id

/-- The text of any bytes, with U+FFFD in place of each malformed piece. -/
def decodeLossy (bytes : List Byte) : List Char :=
  (pieces bytes).map (·.getD '\uFFFD')

end Handheld.Utf8
