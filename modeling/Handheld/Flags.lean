import Handheld.Word

/-!
# Condition flags

The upper four bits of the flag byte are the flags Z (zero), N (subtraction),
H (half carry) and C (carry).  An operation proposes a value for each of them, and
the instruction that performs it states with a `FlagSpec` which proposals land in
the flag byte.  A resolved flag byte has its lower four bits clear
(`toNat_resolve_mod`).
-/

namespace Handheld

/-! ## The flag byte -/

namespace FlagByte

def zero : Byte := 0x80

def negative : Byte := 0x40

def halfCarry : Byte := 0x20

def carry : Byte := 0x10

/-- Whether one of the bits of `mask` is set in the flag byte. -/
def test (f mask : Byte) : Bool :=
  f &&& mask != 0

/-- Sets or clears the bits of `mask` in the flag byte. -/
def assign (f mask : Byte) (value : Bool) : Byte :=
  if value then f ||| mask else f &&& ~~~mask

end FlagByte

/-- A value for each of the four flags. -/
structure Flags where
  z : Bool
  n : Bool
  h : Bool
  c : Bool
  deriving DecidableEq

namespace Flags

def clear : Flags := ⟨false, false, false, false⟩

def ofByte (f : Byte) : Flags where
  z := FlagByte.test f FlagByte.zero
  n := FlagByte.test f FlagByte.negative
  h := FlagByte.test f FlagByte.halfCarry
  c := FlagByte.test f FlagByte.carry

/-- The flag byte with exactly these flags. -/
def toByte (flags : Flags) : Byte :=
  (if flags.z then FlagByte.zero else 0) ||| (if flags.n then FlagByte.negative else 0) |||
    (if flags.h then FlagByte.halfCarry else 0) ||| (if flags.c then FlagByte.carry else 0)

/-- Each flag's letter if it is set and a dash if it is clear, in the order ZNHC. -/
def letters (flags : Flags) : List Char :=
  [if flags.z then 'Z' else '-', if flags.n then 'N' else '-',
    if flags.h then 'H' else '-', if flags.c then 'C' else '-']

def text (flags : Flags) : String :=
  String.ofList flags.letters

/-- Each flag is a bit of the flag byte. -/
theorem ofByte_eq_testBit (f : Byte) :
    ofByte f = ⟨f.toNat.testBit 7, f.toNat.testBit 6, f.toNat.testBit 5, f.toNat.testBit 4⟩ := by
  revert f
  exact Byte.forall_of_fin (by decide +kernel)

/-- Each bit of the upper half is a flag, and the lower half is clear. -/
theorem testBit_toByte (flags : Flags) (i : Fin 8) :
    flags.toByte.toNat.testBit i =
      match i with
      | 7 => flags.z
      | 6 => flags.n
      | 5 => flags.h
      | 4 => flags.c
      | _ => false := by
  rcases flags with ⟨_ | _, _ | _, _ | _, _ | _⟩ <;> revert i <;> decide

@[simp] theorem ofByte_toByte (flags : Flags) : ofByte flags.toByte = flags := by
  rcases flags with ⟨_ | _, _ | _, _ | _, _ | _⟩ <;> rfl

theorem toNat_toByte_mod (flags : Flags) : flags.toByte.toNat % 16 = 0 := by
  rcases flags with ⟨_ | _, _ | _, _ | _, _ | _⟩ <;> rfl

end Flags

/-! ## What an instruction does to the flags -/

/-- What becomes of one flag. -/
inductive FlagAction where
  | keep
  | reset
  | set
  | compute
  | invert
  deriving DecidableEq

namespace FlagAction

/-- The new value of a flag, from its current and its proposed value. -/
def apply (action : FlagAction) (current proposed : Bool) : Bool :=
  match action with
  | keep => current
  | reset => false
  | set => true
  | compute => proposed
  | invert => !current

def symbol : FlagAction → Char
  | keep => '-'
  | reset => '0'
  | set => '1'
  | compute => 'v'
  | invert => '!'

/-- The symbol, except that a computed flag shows its own letter. -/
def letter (action : FlagAction) (name : Char) : Char :=
  match action with
  | compute => name
  | other => other.symbol

end FlagAction

/-- What becomes of each of the four flags. -/
structure FlagSpec where
  z : FlagAction
  n : FlagAction
  h : FlagAction
  c : FlagAction
  deriving DecidableEq

namespace FlagSpec

def apply (spec : FlagSpec) (current proposed : Flags) : Flags where
  z := spec.z.apply current.z proposed.z
  n := spec.n.apply current.n proposed.n
  h := spec.h.apply current.h proposed.h
  c := spec.c.apply current.c proposed.c

/-- The new flag byte.  The lower four bits of the old one are dropped. -/
def resolve (spec : FlagSpec) (f : Byte) (proposed : Flags) : Byte :=
  (spec.apply (Flags.ofByte f) proposed).toByte

def text (spec : FlagSpec) : String :=
  String.ofList ['[', spec.z.letter 'Z', spec.n.letter 'N', spec.h.letter 'H',
    spec.c.letter 'C', ']']

theorem toNat_resolve_mod (spec : FlagSpec) (f : Byte) (proposed : Flags) :
    (spec.resolve f proposed).toNat % 16 = 0 :=
  Flags.toNat_toByte_mod _

end FlagSpec

end Handheld
