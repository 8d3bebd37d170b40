import Handheld.Bus
import Handheld.Cpu.Basic
import Handheld.Text.Split

/-!
# Snapshots

The registers and the four bytes at the program counter, on one line of fields
that blanks separate.  When a line is read, missing fields are zero, the last of
repeated fields counts, and anything that is no field of a snapshot is passed over.
-/

namespace Handheld

structure Snapshot where
  a : Byte
  f : Byte
  b : Byte
  c : Byte
  d : Byte
  e : Byte
  h : Byte
  l : Byte
  sp : Word
  pc : Word
  /-- The bytes at the program counter. -/
  code : Vector Byte 4
  deriving DecidableEq

namespace Snapshot

def zero : Snapshot :=
  ⟨0, 0, 0, 0, 0, 0, 0, 0, 0, 0, #v[0, 0, 0, 0]⟩

/-- Takes the snapshot of a processor and what it reads. -/
def take (cpu : Cpu) (bus : Bus) : Snapshot where
  a := cpu.a
  f := cpu.f
  b := cpu.b
  c := cpu.c
  d := cpu.d
  e := cpu.e
  h := cpu.h
  l := cpu.l
  sp := cpu.sp
  pc := cpu.pc
  code := #v[bus.read cpu.pc, bus.read (cpu.pc + 1), bus.read (cpu.pc + 2),
    bus.read (cpu.pc + 3)]

def flags (s : Snapshot) : Flags :=
  .ofByte s.f

/-! ## Writing -/

/-- A field: its key, a colon, its value. -/
def field (key value : List Char) : List Char :=
  key ++ ':' :: value

/-- The fields of a snapshot in their order. -/
def fields (s : Snapshot) : List (List Char) :=
  [field ['A'] (Hex.byte s.a), field ['F'] (Hex.byte s.f), field ['B'] (Hex.byte s.b),
    field ['C'] (Hex.byte s.c), field ['D'] (Hex.byte s.d), field ['E'] (Hex.byte s.e),
    field ['H'] (Hex.byte s.h), field ['L'] (Hex.byte s.l),
    field ['S', 'P'] (Hex.word s.sp), field ['P', 'C'] (Hex.word s.pc),
    field ['P', 'C', 'M', 'E', 'M']
      (Hex.byte s.code[0] ++ ',' :: Hex.byte s.code[1] ++ ',' :: Hex.byte s.code[2] ++
        ',' :: Hex.byte s.code[3])]

def chars (s : Snapshot) : List Char :=
  [' '].intercalate s.fields

/-- The line of a snapshot. -/
def text (s : Snapshot) : String :=
  String.ofList s.chars

/-! ## Reading -/

/-- A value that is no number of its field's size. -/
structure ParseError where
  value : List Char
  reason : Hex.ParseError
  deriving DecidableEq

def ParseError.message (e : ParseError) : String :=
  String.ofList e.value ++ ": " ++ e.reason.message

def parseByte (value : List Char) : Except ParseError Byte :=
  (Hex.parseByte value).mapError (⟨value, ·⟩)

def parseWord (value : List Char) : Except ParseError Word :=
  (Hex.parseWord value).mapError (⟨value, ·⟩)

/-- Reads up to four bytes into the places from `place` on. -/
def parseCode (code : Vector Byte 4) (place : Nat) :
    List (List Char) → Except ParseError (Vector Byte 4)
  | [] => .ok code
  | value :: rest =>
    if h : place < 4 then do
      let v ← parseByte value
      parseCode (code.set place v) (place + 1) rest
    else .ok code

/-- Reads a value into the field with the given key. -/
def assign (s : Snapshot) (key value : List Char) : Except ParseError Snapshot :=
  match key with
  | ['A'] => do return { s with a := ← parseByte value }
  | ['F'] => do return { s with f := ← parseByte value }
  | ['B'] => do return { s with b := ← parseByte value }
  | ['C'] => do return { s with c := ← parseByte value }
  | ['D'] => do return { s with d := ← parseByte value }
  | ['E'] => do return { s with e := ← parseByte value }
  | ['H'] => do return { s with h := ← parseByte value }
  | ['L'] => do return { s with l := ← parseByte value }
  | ['S', 'P'] => do return { s with sp := ← parseWord value }
  | ['P', 'C'] => do return { s with pc := ← parseWord value }
  | ['P', 'C', 'M', 'E', 'M'] => do
    return { s with code := ← parseCode s.code 0 (Text.splitAll ',' value) }
  | _ => .ok s

/-- Reads a word of a line.  A word without a colon is passed over. -/
def readWord (s : Snapshot) (word : List Char) : Except ParseError Snapshot :=
  match Text.splitFirst ':' word with
  | some (key, value) => s.assign key value
  | none => .ok s

def parseChars (cs : List Char) : Except ParseError Snapshot :=
  (Text.words cs).foldlM readWord zero

/-- Reads the line of a snapshot. -/
def parse (line : String) : Except ParseError Snapshot :=
  parseChars line.toList

/-! ## Comparing -/

/-- A register that two snapshots disagree on. -/
structure Mismatch where
  register : String
  expected : Nat
  actual : Nat
  deriving DecidableEq

def registers (s : Snapshot) : List (String × Nat) :=
  [("A", s.a.toNat), ("F", s.f.toNat), ("B", s.b.toNat), ("C", s.c.toNat), ("D", s.d.toNat),
    ("E", s.e.toNat), ("H", s.h.toNat), ("L", s.l.toNat), ("SP", s.sp.toNat),
    ("PC", s.pc.toNat)]

/-- The registers that differ, in the order of their fields. -/
def compare (expected actual : Snapshot) : List Mismatch :=
  (expected.registers.zip actual.registers).filterMap fun ((register, x), (_, y)) =>
    if x = y then none else some ⟨register, x, y⟩

end Snapshot

end Handheld
