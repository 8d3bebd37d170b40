import Handheld.Opcode.Basic

/-!
# The base page

Twelve of its 256 codes describe no operation: the marker of the extended page and
eleven that are undefined.
-/

namespace Handheld.Opcode

/-- Codes 0x00 to 0x0F. -/
def baseRow0 : Array (Option Opcode) :=
  #[fixed .nop 1 4 [] untouched,
    fixed .ld 3 12 [.register16 .bc, .immediate16] untouched,
    fixed .ld 1 8 [.indirect .bc, .register8 .a] untouched,
    fixed .inc 1 8 [.register16 .bc] untouched,
    fixed .inc 1 4 [.register8 .b] ⟨.compute, .reset, .compute, .keep⟩,
    fixed .dec 1 4 [.register8 .b] ⟨.compute, .set, .compute, .keep⟩,
    fixed .ld 2 8 [.register8 .b, .immediate8] untouched,
    fixed .rlca 1 4 [] ⟨.reset, .reset, .reset, .compute⟩,
    fixed .ld 3 20 [.absolute, .register16 .sp] untouched,
    fixed .add 1 8 [.register16 .hl, .register16 .bc] ⟨.keep, .reset, .compute, .compute⟩,
    fixed .ld 1 8 [.register8 .a, .indirect .bc] untouched,
    fixed .dec 1 8 [.register16 .bc] untouched,
    fixed .inc 1 4 [.register8 .c] ⟨.compute, .reset, .compute, .keep⟩,
    fixed .dec 1 4 [.register8 .c] ⟨.compute, .set, .compute, .keep⟩,
    fixed .ld 2 8 [.register8 .c, .immediate8] untouched,
    fixed .rrca 1 4 [] ⟨.reset, .reset, .reset, .compute⟩]

/-- Codes 0x10 to 0x1F. -/
def baseRow1 : Array (Option Opcode) :=
  #[fixed .stop 2 4 [.immediate8] untouched,
    fixed .ld 3 12 [.register16 .de, .immediate16] untouched,
    fixed .ld 1 8 [.indirect .de, .register8 .a] untouched,
    fixed .inc 1 8 [.register16 .de] untouched,
    fixed .inc 1 4 [.register8 .d] ⟨.compute, .reset, .compute, .keep⟩,
    fixed .dec 1 4 [.register8 .d] ⟨.compute, .set, .compute, .keep⟩,
    fixed .ld 2 8 [.register8 .d, .immediate8] untouched,
    fixed .rla 1 4 [] ⟨.reset, .reset, .reset, .compute⟩,
    fixed .jr 2 12 [.relative8] untouched,
    fixed .add 1 8 [.register16 .hl, .register16 .de] ⟨.keep, .reset, .compute, .compute⟩,
    fixed .ld 1 8 [.register8 .a, .indirect .de] untouched,
    fixed .dec 1 8 [.register16 .de] untouched,
    fixed .inc 1 4 [.register8 .e] ⟨.compute, .reset, .compute, .keep⟩,
    fixed .dec 1 4 [.register8 .e] ⟨.compute, .set, .compute, .keep⟩,
    fixed .ld 2 8 [.register8 .e, .immediate8] untouched,
    fixed .rra 1 4 [] ⟨.reset, .reset, .reset, .compute⟩]

/-- Codes 0x20 to 0x2F. -/
def baseRow2 : Array (Option Opcode) :=
  #[branch .jr 2 12 8 [.condition .notZero, .relative8],
    fixed .ld 3 12 [.register16 .hl, .immediate16] untouched,
    fixed .ld 1 8 [.indirectIncrement .hl, .register8 .a] untouched,
    fixed .inc 1 8 [.register16 .hl] untouched,
    fixed .inc 1 4 [.register8 .h] ⟨.compute, .reset, .compute, .keep⟩,
    fixed .dec 1 4 [.register8 .h] ⟨.compute, .set, .compute, .keep⟩,
    fixed .ld 2 8 [.register8 .h, .immediate8] untouched,
    fixed .daa 1 4 [] ⟨.compute, .keep, .reset, .compute⟩,
    branch .jr 2 12 8 [.condition .zero, .relative8],
    fixed .add 1 8 [.register16 .hl, .register16 .hl] ⟨.keep, .reset, .compute, .compute⟩,
    fixed .ld 1 8 [.register8 .a, .indirectIncrement .hl] untouched,
    fixed .dec 1 8 [.register16 .hl] untouched,
    fixed .inc 1 4 [.register8 .l] ⟨.compute, .reset, .compute, .keep⟩,
    fixed .dec 1 4 [.register8 .l] ⟨.compute, .set, .compute, .keep⟩,
    fixed .ld 2 8 [.register8 .l, .immediate8] untouched,
    fixed .cpl 1 4 [] ⟨.keep, .set, .set, .keep⟩]

/-- Codes 0x30 to 0x3F. -/
def baseRow3 : Array (Option Opcode) :=
  #[branch .jr 2 12 8 [.condition .notCarry, .relative8],
    fixed .ld 3 12 [.register16 .sp, .immediate16] untouched,
    fixed .ld 1 8 [.indirectDecrement .hl, .register8 .a] untouched,
    fixed .inc 1 8 [.register16 .sp] untouched,
    fixed .inc 1 12 [.indirect .hl] ⟨.compute, .reset, .compute, .keep⟩,
    fixed .dec 1 12 [.indirect .hl] ⟨.compute, .set, .compute, .keep⟩,
    fixed .ld 2 12 [.indirect .hl, .immediate8] untouched,
    fixed .scf 1 4 [] ⟨.keep, .reset, .reset, .set⟩,
    branch .jr 2 12 8 [.condition .carry, .relative8],
    fixed .add 1 8 [.register16 .hl, .register16 .sp] ⟨.keep, .reset, .compute, .compute⟩,
    fixed .ld 1 8 [.register8 .a, .indirectDecrement .hl] untouched,
    fixed .dec 1 8 [.register16 .sp] untouched,
    fixed .inc 1 4 [.register8 .a] ⟨.compute, .reset, .compute, .keep⟩,
    fixed .dec 1 4 [.register8 .a] ⟨.compute, .set, .compute, .keep⟩,
    fixed .ld 2 8 [.register8 .a, .immediate8] untouched,
    fixed .ccf 1 4 [] ⟨.keep, .reset, .reset, .invert⟩]

/-- Codes 0x40 to 0x4F. -/
def baseRow4 : Array (Option Opcode) :=
  #[fixed .ld 1 4 [.register8 .b, .register8 .b] untouched,
    fixed .ld 1 4 [.register8 .b, .register8 .c] untouched,
    fixed .ld 1 4 [.register8 .b, .register8 .d] untouched,
    fixed .ld 1 4 [.register8 .b, .register8 .e] untouched,
    fixed .ld 1 4 [.register8 .b, .register8 .h] untouched,
    fixed .ld 1 4 [.register8 .b, .register8 .l] untouched,
    fixed .ld 1 8 [.register8 .b, .indirect .hl] untouched,
    fixed .ld 1 4 [.register8 .b, .register8 .a] untouched,
    fixed .ld 1 4 [.register8 .c, .register8 .b] untouched,
    fixed .ld 1 4 [.register8 .c, .register8 .c] untouched,
    fixed .ld 1 4 [.register8 .c, .register8 .d] untouched,
    fixed .ld 1 4 [.register8 .c, .register8 .e] untouched,
    fixed .ld 1 4 [.register8 .c, .register8 .h] untouched,
    fixed .ld 1 4 [.register8 .c, .register8 .l] untouched,
    fixed .ld 1 8 [.register8 .c, .indirect .hl] untouched,
    fixed .ld 1 4 [.register8 .c, .register8 .a] untouched]

/-- Codes 0x50 to 0x5F. -/
def baseRow5 : Array (Option Opcode) :=
  #[fixed .ld 1 4 [.register8 .d, .register8 .b] untouched,
    fixed .ld 1 4 [.register8 .d, .register8 .c] untouched,
    fixed .ld 1 4 [.register8 .d, .register8 .d] untouched,
    fixed .ld 1 4 [.register8 .d, .register8 .e] untouched,
    fixed .ld 1 4 [.register8 .d, .register8 .h] untouched,
    fixed .ld 1 4 [.register8 .d, .register8 .l] untouched,
    fixed .ld 1 8 [.register8 .d, .indirect .hl] untouched,
    fixed .ld 1 4 [.register8 .d, .register8 .a] untouched,
    fixed .ld 1 4 [.register8 .e, .register8 .b] untouched,
    fixed .ld 1 4 [.register8 .e, .register8 .c] untouched,
    fixed .ld 1 4 [.register8 .e, .register8 .d] untouched,
    fixed .ld 1 4 [.register8 .e, .register8 .e] untouched,
    fixed .ld 1 4 [.register8 .e, .register8 .h] untouched,
    fixed .ld 1 4 [.register8 .e, .register8 .l] untouched,
    fixed .ld 1 8 [.register8 .e, .indirect .hl] untouched,
    fixed .ld 1 4 [.register8 .e, .register8 .a] untouched]

/-- Codes 0x60 to 0x6F. -/
def baseRow6 : Array (Option Opcode) :=
  #[fixed .ld 1 4 [.register8 .h, .register8 .b] untouched,
    fixed .ld 1 4 [.register8 .h, .register8 .c] untouched,
    fixed .ld 1 4 [.register8 .h, .register8 .d] untouched,
    fixed .ld 1 4 [.register8 .h, .register8 .e] untouched,
    fixed .ld 1 4 [.register8 .h, .register8 .h] untouched,
    fixed .ld 1 4 [.register8 .h, .register8 .l] untouched,
    fixed .ld 1 8 [.register8 .h, .indirect .hl] untouched,
    fixed .ld 1 4 [.register8 .h, .register8 .a] untouched,
    fixed .ld 1 4 [.register8 .l, .register8 .b] untouched,
    fixed .ld 1 4 [.register8 .l, .register8 .c] untouched,
    fixed .ld 1 4 [.register8 .l, .register8 .d] untouched,
    fixed .ld 1 4 [.register8 .l, .register8 .e] untouched,
    fixed .ld 1 4 [.register8 .l, .register8 .h] untouched,
    fixed .ld 1 4 [.register8 .l, .register8 .l] untouched,
    fixed .ld 1 8 [.register8 .l, .indirect .hl] untouched,
    fixed .ld 1 4 [.register8 .l, .register8 .a] untouched]

/-- Codes 0x70 to 0x7F. -/
def baseRow7 : Array (Option Opcode) :=
  #[fixed .ld 1 8 [.indirect .hl, .register8 .b] untouched,
    fixed .ld 1 8 [.indirect .hl, .register8 .c] untouched,
    fixed .ld 1 8 [.indirect .hl, .register8 .d] untouched,
    fixed .ld 1 8 [.indirect .hl, .register8 .e] untouched,
    fixed .ld 1 8 [.indirect .hl, .register8 .h] untouched,
    fixed .ld 1 8 [.indirect .hl, .register8 .l] untouched,
    fixed .halt 1 4 [] untouched,
    fixed .ld 1 8 [.indirect .hl, .register8 .a] untouched,
    fixed .ld 1 4 [.register8 .a, .register8 .b] untouched,
    fixed .ld 1 4 [.register8 .a, .register8 .c] untouched,
    fixed .ld 1 4 [.register8 .a, .register8 .d] untouched,
    fixed .ld 1 4 [.register8 .a, .register8 .e] untouched,
    fixed .ld 1 4 [.register8 .a, .register8 .h] untouched,
    fixed .ld 1 4 [.register8 .a, .register8 .l] untouched,
    fixed .ld 1 8 [.register8 .a, .indirect .hl] untouched,
    fixed .ld 1 4 [.register8 .a, .register8 .a] untouched]

/-- Codes 0x80 to 0x8F. -/
def baseRow8 : Array (Option Opcode) :=
  #[fixed .add 1 4 [.register8 .a, .register8 .b] ⟨.compute, .reset, .compute, .compute⟩,
    fixed .add 1 4 [.register8 .a, .register8 .c] ⟨.compute, .reset, .compute, .compute⟩,
    fixed .add 1 4 [.register8 .a, .register8 .d] ⟨.compute, .reset, .compute, .compute⟩,
    fixed .add 1 4 [.register8 .a, .register8 .e] ⟨.compute, .reset, .compute, .compute⟩,
    fixed .add 1 4 [.register8 .a, .register8 .h] ⟨.compute, .reset, .compute, .compute⟩,
    fixed .add 1 4 [.register8 .a, .register8 .l] ⟨.compute, .reset, .compute, .compute⟩,
    fixed .add 1 8 [.register8 .a, .indirect .hl] ⟨.compute, .reset, .compute, .compute⟩,
    fixed .add 1 4 [.register8 .a, .register8 .a] ⟨.compute, .reset, .compute, .compute⟩,
    fixed .adc 1 4 [.register8 .a, .register8 .b] ⟨.compute, .reset, .compute, .compute⟩,
    fixed .adc 1 4 [.register8 .a, .register8 .c] ⟨.compute, .reset, .compute, .compute⟩,
    fixed .adc 1 4 [.register8 .a, .register8 .d] ⟨.compute, .reset, .compute, .compute⟩,
    fixed .adc 1 4 [.register8 .a, .register8 .e] ⟨.compute, .reset, .compute, .compute⟩,
    fixed .adc 1 4 [.register8 .a, .register8 .h] ⟨.compute, .reset, .compute, .compute⟩,
    fixed .adc 1 4 [.register8 .a, .register8 .l] ⟨.compute, .reset, .compute, .compute⟩,
    fixed .adc 1 8 [.register8 .a, .indirect .hl] ⟨.compute, .reset, .compute, .compute⟩,
    fixed .adc 1 4 [.register8 .a, .register8 .a] ⟨.compute, .reset, .compute, .compute⟩]

/-- Codes 0x90 to 0x9F. -/
def baseRow9 : Array (Option Opcode) :=
  #[fixed .sub 1 4 [.register8 .a, .register8 .b] ⟨.compute, .set, .compute, .compute⟩,
    fixed .sub 1 4 [.register8 .a, .register8 .c] ⟨.compute, .set, .compute, .compute⟩,
    fixed .sub 1 4 [.register8 .a, .register8 .d] ⟨.compute, .set, .compute, .compute⟩,
    fixed .sub 1 4 [.register8 .a, .register8 .e] ⟨.compute, .set, .compute, .compute⟩,
    fixed .sub 1 4 [.register8 .a, .register8 .h] ⟨.compute, .set, .compute, .compute⟩,
    fixed .sub 1 4 [.register8 .a, .register8 .l] ⟨.compute, .set, .compute, .compute⟩,
    fixed .sub 1 8 [.register8 .a, .indirect .hl] ⟨.compute, .set, .compute, .compute⟩,
    fixed .sub 1 4 [.register8 .a, .register8 .a] ⟨.compute, .set, .compute, .compute⟩,
    fixed .sbc 1 4 [.register8 .a, .register8 .b] ⟨.compute, .set, .compute, .compute⟩,
    fixed .sbc 1 4 [.register8 .a, .register8 .c] ⟨.compute, .set, .compute, .compute⟩,
    fixed .sbc 1 4 [.register8 .a, .register8 .d] ⟨.compute, .set, .compute, .compute⟩,
    fixed .sbc 1 4 [.register8 .a, .register8 .e] ⟨.compute, .set, .compute, .compute⟩,
    fixed .sbc 1 4 [.register8 .a, .register8 .h] ⟨.compute, .set, .compute, .compute⟩,
    fixed .sbc 1 4 [.register8 .a, .register8 .l] ⟨.compute, .set, .compute, .compute⟩,
    fixed .sbc 1 8 [.register8 .a, .indirect .hl] ⟨.compute, .set, .compute, .compute⟩,
    fixed .sbc 1 4 [.register8 .a, .register8 .a] ⟨.compute, .set, .compute, .compute⟩]

/-- Codes 0xA0 to 0xAF. -/
def baseRowA : Array (Option Opcode) :=
  #[fixed .and 1 4 [.register8 .a, .register8 .b] ⟨.compute, .reset, .set, .reset⟩,
    fixed .and 1 4 [.register8 .a, .register8 .c] ⟨.compute, .reset, .set, .reset⟩,
    fixed .and 1 4 [.register8 .a, .register8 .d] ⟨.compute, .reset, .set, .reset⟩,
    fixed .and 1 4 [.register8 .a, .register8 .e] ⟨.compute, .reset, .set, .reset⟩,
    fixed .and 1 4 [.register8 .a, .register8 .h] ⟨.compute, .reset, .set, .reset⟩,
    fixed .and 1 4 [.register8 .a, .register8 .l] ⟨.compute, .reset, .set, .reset⟩,
    fixed .and 1 8 [.register8 .a, .indirect .hl] ⟨.compute, .reset, .set, .reset⟩,
    fixed .and 1 4 [.register8 .a, .register8 .a] ⟨.compute, .reset, .set, .reset⟩,
    fixed .xor 1 4 [.register8 .a, .register8 .b] ⟨.compute, .reset, .reset, .reset⟩,
    fixed .xor 1 4 [.register8 .a, .register8 .c] ⟨.compute, .reset, .reset, .reset⟩,
    fixed .xor 1 4 [.register8 .a, .register8 .d] ⟨.compute, .reset, .reset, .reset⟩,
    fixed .xor 1 4 [.register8 .a, .register8 .e] ⟨.compute, .reset, .reset, .reset⟩,
    fixed .xor 1 4 [.register8 .a, .register8 .h] ⟨.compute, .reset, .reset, .reset⟩,
    fixed .xor 1 4 [.register8 .a, .register8 .l] ⟨.compute, .reset, .reset, .reset⟩,
    fixed .xor 1 8 [.register8 .a, .indirect .hl] ⟨.compute, .reset, .reset, .reset⟩,
    fixed .xor 1 4 [.register8 .a, .register8 .a] ⟨.compute, .reset, .reset, .reset⟩]

/-- Codes 0xB0 to 0xBF. -/
def baseRowB : Array (Option Opcode) :=
  #[fixed .or 1 4 [.register8 .a, .register8 .b] ⟨.compute, .reset, .reset, .reset⟩,
    fixed .or 1 4 [.register8 .a, .register8 .c] ⟨.compute, .reset, .reset, .reset⟩,
    fixed .or 1 4 [.register8 .a, .register8 .d] ⟨.compute, .reset, .reset, .reset⟩,
    fixed .or 1 4 [.register8 .a, .register8 .e] ⟨.compute, .reset, .reset, .reset⟩,
    fixed .or 1 4 [.register8 .a, .register8 .h] ⟨.compute, .reset, .reset, .reset⟩,
    fixed .or 1 4 [.register8 .a, .register8 .l] ⟨.compute, .reset, .reset, .reset⟩,
    fixed .or 1 8 [.register8 .a, .indirect .hl] ⟨.compute, .reset, .reset, .reset⟩,
    fixed .or 1 4 [.register8 .a, .register8 .a] ⟨.compute, .reset, .reset, .reset⟩,
    fixed .cp 1 4 [.register8 .a, .register8 .b] ⟨.compute, .set, .compute, .compute⟩,
    fixed .cp 1 4 [.register8 .a, .register8 .c] ⟨.compute, .set, .compute, .compute⟩,
    fixed .cp 1 4 [.register8 .a, .register8 .d] ⟨.compute, .set, .compute, .compute⟩,
    fixed .cp 1 4 [.register8 .a, .register8 .e] ⟨.compute, .set, .compute, .compute⟩,
    fixed .cp 1 4 [.register8 .a, .register8 .h] ⟨.compute, .set, .compute, .compute⟩,
    fixed .cp 1 4 [.register8 .a, .register8 .l] ⟨.compute, .set, .compute, .compute⟩,
    fixed .cp 1 8 [.register8 .a, .indirect .hl] ⟨.compute, .set, .compute, .compute⟩,
    fixed .cp 1 4 [.register8 .a, .register8 .a] ⟨.compute, .set, .compute, .compute⟩]

/-- Codes 0xC0 to 0xCF. -/
def baseRowC : Array (Option Opcode) :=
  #[branch .ret 1 20 8 [.condition .notZero],
    fixed .pop 1 12 [.register16 .bc] untouched,
    branch .jp 3 16 12 [.condition .notZero, .immediate16],
    fixed .jp 3 16 [.immediate16] untouched,
    branch .call 3 24 12 [.condition .notZero, .immediate16],
    fixed .push 1 16 [.register16 .bc] untouched,
    fixed .add 2 8 [.register8 .a, .immediate8] ⟨.compute, .reset, .compute, .compute⟩,
    fixed .rst 1 16 [.vector 0x00] untouched,
    branch .ret 1 20 8 [.condition .zero],
    fixed .ret 1 16 [] untouched,
    branch .jp 3 16 12 [.condition .zero, .immediate16],
    none,
    branch .call 3 24 12 [.condition .zero, .immediate16],
    fixed .call 3 24 [.immediate16] untouched,
    fixed .adc 2 8 [.register8 .a, .immediate8] ⟨.compute, .reset, .compute, .compute⟩,
    fixed .rst 1 16 [.vector 0x08] untouched]

/-- Codes 0xD0 to 0xDF. -/
def baseRowD : Array (Option Opcode) :=
  #[branch .ret 1 20 8 [.condition .notCarry],
    fixed .pop 1 12 [.register16 .de] untouched,
    branch .jp 3 16 12 [.condition .notCarry, .immediate16],
    none,
    branch .call 3 24 12 [.condition .notCarry, .immediate16],
    fixed .push 1 16 [.register16 .de] untouched,
    fixed .sub 2 8 [.register8 .a, .immediate8] ⟨.compute, .set, .compute, .compute⟩,
    fixed .rst 1 16 [.vector 0x10] untouched,
    branch .ret 1 20 8 [.condition .carry],
    fixed .reti 1 16 [] untouched,
    branch .jp 3 16 12 [.condition .carry, .immediate16],
    none,
    branch .call 3 24 12 [.condition .carry, .immediate16],
    none,
    fixed .sbc 2 8 [.register8 .a, .immediate8] ⟨.compute, .set, .compute, .compute⟩,
    fixed .rst 1 16 [.vector 0x18] untouched]

/-- Codes 0xE0 to 0xEF. -/
def baseRowE : Array (Option Opcode) :=
  #[fixed .ldh 2 12 [.highPage, .register8 .a] untouched,
    fixed .pop 1 12 [.register16 .hl] untouched,
    fixed .ldh 1 8 [.highPageRegister .c, .register8 .a] untouched,
    none,
    none,
    fixed .push 1 16 [.register16 .hl] untouched,
    fixed .and 2 8 [.register8 .a, .immediate8] ⟨.compute, .reset, .set, .reset⟩,
    fixed .rst 1 16 [.vector 0x20] untouched,
    fixed .add 2 16 [.register16 .sp, .relative8] ⟨.reset, .reset, .compute, .compute⟩,
    fixed .jp 1 4 [.register16 .hl] untouched,
    fixed .ld 3 16 [.absolute, .register8 .a] untouched,
    none,
    none,
    none,
    fixed .xor 2 8 [.register8 .a, .immediate8] ⟨.compute, .reset, .reset, .reset⟩,
    fixed .rst 1 16 [.vector 0x28] untouched]

/-- Codes 0xF0 to 0xFF. -/
def baseRowF : Array (Option Opcode) :=
  #[fixed .ldh 2 12 [.register8 .a, .highPage] untouched,
    fixed .pop 1 12 [.register16 .af] ⟨.compute, .compute, .compute, .compute⟩,
    fixed .ldh 1 8 [.register8 .a, .highPageRegister .c] untouched,
    fixed .di 1 4 [] untouched,
    none,
    fixed .push 1 16 [.register16 .af] untouched,
    fixed .or 2 8 [.register8 .a, .immediate8] ⟨.compute, .reset, .reset, .reset⟩,
    fixed .rst 1 16 [.vector 0x30] untouched,
    fixed .ld 2 12 [.register16 .hl, .stackPointerOffset, .relative8]
      ⟨.reset, .reset, .compute, .compute⟩,
    fixed .ld 1 8 [.register16 .sp, .register16 .hl] untouched,
    fixed .ld 3 16 [.register8 .a, .absolute] untouched,
    fixed .ei 1 4 [] untouched,
    none,
    none,
    fixed .cp 2 8 [.register8 .a, .immediate8] ⟨.compute, .set, .compute, .compute⟩,
    fixed .rst 1 16 [.vector 0x38] untouched]

/-- The sixteen rows, by the upper half of the code. -/
def basePage : Array (Array (Option Opcode)) :=
  #[baseRow0, baseRow1, baseRow2, baseRow3,
    baseRow4, baseRow5, baseRow6, baseRow7,
    baseRow8, baseRow9, baseRowA, baseRowB,
    baseRowC, baseRowD, baseRowE, baseRowF]

end Handheld.Opcode
