import Handheld.Word

/-!
# Hexadecimal numbers

Numbers are written with upper-case digits, a byte with two of them and a word
with four.  A number is read back from digits of either case, any count of
leading zeros, and at most one leading plus sign; the reader stops at the first
character that is no digit, or at the first digit that takes the value past the
limit, whichever comes first.  What is written reads back unchanged
(`parse_byte`, `parse_word`).
-/

namespace Handheld.Hex

/-- The digit for a value below sixteen. -/
def digit (n : Nat) : Char :=
  if n < 10 then Char.ofNat (48 + n) else Char.ofNat (55 + n)

/-- The value of a digit, written in either case. -/
def value? (c : Char) : Option Nat :=
  if 48 ≤ c.toNat ∧ c.toNat ≤ 57 then some (c.toNat - 48)
  else if 65 ≤ c.toNat ∧ c.toNat ≤ 70 then some (c.toNat - 55)
  else if 97 ≤ c.toNat ∧ c.toNat ≤ 102 then some (c.toNat - 87)
  else none

/-! ## Writing -/

/-- Two digits. -/
def byte (b : Byte) : List Char :=
  [digit (b.toNat / 16), digit (b.toNat % 16)]

/-- Four digits. -/
def word (w : Word) : List Char :=
  byte (Word.high w) ++ byte (Word.low w)

/-- As many digits as the number needs, at least one. -/
def number (n : Nat) : List Char :=
  if n < 16 then [digit n] else number (n / 16) ++ [digit (n % 16)]
termination_by n

def byteText (b : Byte) : String :=
  String.ofList (byte b)

def wordText (w : Word) : String :=
  String.ofList (word w)

def numberText (n : Nat) : String :=
  String.ofList (number n)

/-! ## Reading -/

/-- Why a text is no number of the wanted size. -/
inductive ParseError where
  | empty
  | invalidDigit
  | tooLarge
  deriving DecidableEq

def ParseError.message : ParseError → String
  | .empty => "cannot parse integer from empty string"
  | .invalidDigit => "invalid digit found in string"
  | .tooLarge => "number too large to fit in target type"

/-- Reads the remaining digits onto the value so far. -/
def parseDigits (limit : Nat) : Nat → List Char → Except ParseError Nat
  | acc, [] => .ok acc
  | acc, c :: rest =>
    match value? c with
    | none => .error .invalidDigit
    | some d =>
      if limit < acc * 16 + d then .error .tooLarge
      else parseDigits limit (acc * 16 + d) rest

/-- Reads a number no greater than `limit`. -/
def parse (limit : Nat) : List Char → Except ParseError Nat
  | [] => .error .empty
  | ['+'] => .error .invalidDigit
  | '+' :: digits => parseDigits limit 0 digits
  | digits => parseDigits limit 0 digits

def parseByte (cs : List Char) : Except ParseError Byte :=
  (parse 0xFF cs).map UInt8.ofNat

def parseWord (cs : List Char) : Except ParseError Word :=
  (parse 0xFFFF cs).map UInt16.ofNat

/-! ## What is written reads back -/

theorem value?_digit : ∀ {n : Nat}, n < 16 → value? (digit n) = some n := by
  decide

theorem digit_ne_plus : ∀ {n : Nat}, n < 16 → digit n ≠ '+' := by
  decide

theorem parseDigits_digit {limit acc n : Nat} {rest : List Char}
    (hn : n < 16) (h : acc * 16 + n ≤ limit) :
    parseDigits limit acc (digit n :: rest) =
      parseDigits limit (acc * 16 + n) rest := by
  simp only [parseDigits, value?_digit hn]
  rw [if_neg (by omega)]

theorem parse_digit_cons {limit n : Nat} {rest : List Char} (hn : n < 16) :
    parse limit (digit n :: rest) = parseDigits limit 0 (digit n :: rest) := by
  have hplus := digit_ne_plus hn
  unfold parse
  split
  · contradiction
  · rename_i h
    simp only [List.cons.injEq] at h
    exact absurd h.1 hplus
  · rename_i h
    simp only [List.cons.injEq] at h
    exact absurd h.1 hplus
  · rfl

theorem parse_byte (b : Byte) : parseByte (byte b) = .ok b := by
  have hb := b.toNat_lt
  have h : parse 0xFF (byte b) = .ok b.toNat := by
    rw [byte, parse_digit_cons (by omega), parseDigits_digit (by omega) (by omega),
      parseDigits_digit (by omega) (by omega)]
    simp only [parseDigits]
    congr 1
    omega
  simp only [parseByte, h, Except.map]
  simp

theorem parse_word (w : Word) : parseWord (word w) = .ok w := by
  have hw := w.toNat_lt
  have h : parse 0xFFFF (word w) = .ok w.toNat := by
    simp only [word, byte, List.cons_append, List.nil_append, Word.toNat_high, Word.toNat_low]
    rw [parse_digit_cons (by omega), parseDigits_digit (by omega) (by omega),
      parseDigits_digit (by omega) (by omega), parseDigits_digit (by omega) (by omega),
      parseDigits_digit (by omega) (by omega)]
    simp only [parseDigits]
    congr 1
    omega
  simp only [parseWord, h, Except.map]
  simp

end Handheld.Hex
