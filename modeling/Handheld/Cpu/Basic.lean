import Handheld.Flags
import Handheld.Operand

/-!
# The processor

The registers, and whether the processor sleeps.
-/

namespace Handheld

structure Cpu where
  a : Byte
  /-- The flag byte. -/
  f : Byte
  b : Byte
  c : Byte
  d : Byte
  e : Byte
  h : Byte
  l : Byte
  /-- Where the next instruction stands. -/
  pc : Word
  /-- The top of the stack, which grows downwards. -/
  sp : Word
  halted : Bool
  deriving DecidableEq

namespace Cpu

/-- The registers after a finished boot sequence. -/
def initial : Cpu where
  a := 0x01
  f := 0xB0
  b := 0x00
  c := 0x13
  d := 0x00
  e := 0xD8
  h := 0x01
  l := 0x4D
  pc := 0x0100
  sp := 0xFFFE
  halted := false

/-! ## Registers by name -/

def get8 (cpu : Cpu) : Register8 → Byte
  | .a => cpu.a
  | .b => cpu.b
  | .c => cpu.c
  | .d => cpu.d
  | .e => cpu.e
  | .h => cpu.h
  | .l => cpu.l

def set8 (cpu : Cpu) (r : Register8) (v : Byte) : Cpu :=
  match r with
  | .a => { cpu with a := v }
  | .b => { cpu with b := v }
  | .c => { cpu with c := v }
  | .d => { cpu with d := v }
  | .e => { cpu with e := v }
  | .h => { cpu with h := v }
  | .l => { cpu with l := v }

def get16 (cpu : Cpu) : Register16 → Word
  | .af => Word.ofBytes cpu.a cpu.f
  | .bc => Word.ofBytes cpu.b cpu.c
  | .de => Word.ofBytes cpu.d cpu.e
  | .hl => Word.ofBytes cpu.h cpu.l
  | .sp => cpu.sp

/-- Of a word for `af`, the lower four bits are dropped. -/
def set16 (cpu : Cpu) (r : Register16) (v : Word) : Cpu :=
  match r with
  | .af => { cpu with a := Word.high v, f := Word.low v &&& 0xF0 }
  | .bc => { cpu with b := Word.high v, c := Word.low v }
  | .de => { cpu with d := Word.high v, e := Word.low v }
  | .hl => { cpu with h := Word.high v, l := Word.low v }
  | .sp => { cpu with sp := v }

section Pairs

variable (cpu : Cpu) (v : Word) {r r' : Register16}

@[simp] theorem high_get16_af : Word.high (cpu.get16 .af) = cpu.a :=
  Word.high_ofBytes _ _

@[simp] theorem low_get16_af : Word.low (cpu.get16 .af) = cpu.f :=
  Word.low_ofBytes _ _

@[simp] theorem high_get16_bc : Word.high (cpu.get16 .bc) = cpu.b :=
  Word.high_ofBytes _ _

@[simp] theorem low_get16_bc : Word.low (cpu.get16 .bc) = cpu.c :=
  Word.low_ofBytes _ _

@[simp] theorem high_get16_de : Word.high (cpu.get16 .de) = cpu.d :=
  Word.high_ofBytes _ _

@[simp] theorem low_get16_de : Word.low (cpu.get16 .de) = cpu.e :=
  Word.low_ofBytes _ _

@[simp] theorem high_get16_hl : Word.high (cpu.get16 .hl) = cpu.h :=
  Word.high_ofBytes _ _

@[simp] theorem low_get16_hl : Word.low (cpu.get16 .hl) = cpu.l :=
  Word.low_ofBytes _ _

/-- Every register but AF holds the word that was put into it. -/
theorem get16_set16_self (h : r ≠ .af) : (cpu.set16 r v).get16 r = v := by
  cases r with
  | af => exact absurd rfl h
  | sp => rfl
  | bc | de | hl => exact Word.ofBytes_high_low v

theorem toNat_get16_set16_af :
    ((cpu.set16 .af v).get16 .af).toNat = v.toNat / 16 * 16 := by
  show (Word.ofBytes (Word.high v) (Word.low v &&& 0xF0)).toNat = _
  rw [Word.toNat_ofBytes, Byte.toNat_and_upper, Word.toNat_high, Word.toNat_low]
  omega

theorem get16_set16_of_ne (h : r' ≠ r) : (cpu.set16 r v).get16 r' = cpu.get16 r' := by
  cases r <;> cases r' <;> first | exact absurd rfl h | rfl

end Pairs

/-! ## Flags -/

def flags (cpu : Cpu) : Flags :=
  .ofByte cpu.f

def carry (cpu : Cpu) : Bool :=
  cpu.flags.c

/-- Whether a branch is taken.  Without a condition it always is. -/
def meets (cpu : Cpu) : Option Condition → Bool
  | none => true
  | some .notZero => !cpu.flags.z
  | some .zero => cpu.flags.z
  | some .notCarry => !cpu.flags.c
  | some .carry => cpu.flags.c

/-- The registers on one line. -/
def text (cpu : Cpu) : String :=
  let byte (name : String) (v : Byte) : String := name ++ ":" ++ Hex.byteText v ++ " "
  byte "A" cpu.a ++ byte "B" cpu.b ++ byte "C" cpu.c ++ byte "D" cpu.d ++ byte "E" cpu.e ++
    byte "H" cpu.h ++ byte "L" cpu.l ++ "SP:" ++ Hex.wordText cpu.sp ++ " PC:" ++
    Hex.wordText cpu.pc ++ " Flags:[" ++ cpu.flags.text ++ "]"

end Cpu

end Handheld
