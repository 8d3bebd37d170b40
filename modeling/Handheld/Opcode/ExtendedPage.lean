import Handheld.Opcode.Basic

/-!
# The extended page

All of its 256 codes describe an operation on a byte register or on the cell that
HL points to.
-/

namespace Handheld.Opcode

/-- Codes 0x00 to 0x0F. -/
def extendedRow0 : Array (Option Opcode) :=
  #[extended .rlc 8 [.register8 .b] ⟨.compute, .reset, .reset, .compute⟩,
    extended .rlc 8 [.register8 .c] ⟨.compute, .reset, .reset, .compute⟩,
    extended .rlc 8 [.register8 .d] ⟨.compute, .reset, .reset, .compute⟩,
    extended .rlc 8 [.register8 .e] ⟨.compute, .reset, .reset, .compute⟩,
    extended .rlc 8 [.register8 .h] ⟨.compute, .reset, .reset, .compute⟩,
    extended .rlc 8 [.register8 .l] ⟨.compute, .reset, .reset, .compute⟩,
    extended .rlc 16 [.indirect .hl] ⟨.compute, .reset, .reset, .compute⟩,
    extended .rlc 8 [.register8 .a] ⟨.compute, .reset, .reset, .compute⟩,
    extended .rrc 8 [.register8 .b] ⟨.compute, .reset, .reset, .compute⟩,
    extended .rrc 8 [.register8 .c] ⟨.compute, .reset, .reset, .compute⟩,
    extended .rrc 8 [.register8 .d] ⟨.compute, .reset, .reset, .compute⟩,
    extended .rrc 8 [.register8 .e] ⟨.compute, .reset, .reset, .compute⟩,
    extended .rrc 8 [.register8 .h] ⟨.compute, .reset, .reset, .compute⟩,
    extended .rrc 8 [.register8 .l] ⟨.compute, .reset, .reset, .compute⟩,
    extended .rrc 16 [.indirect .hl] ⟨.compute, .reset, .reset, .compute⟩,
    extended .rrc 8 [.register8 .a] ⟨.compute, .reset, .reset, .compute⟩]

/-- Codes 0x10 to 0x1F. -/
def extendedRow1 : Array (Option Opcode) :=
  #[extended .rl 8 [.register8 .b] ⟨.compute, .reset, .reset, .compute⟩,
    extended .rl 8 [.register8 .c] ⟨.compute, .reset, .reset, .compute⟩,
    extended .rl 8 [.register8 .d] ⟨.compute, .reset, .reset, .compute⟩,
    extended .rl 8 [.register8 .e] ⟨.compute, .reset, .reset, .compute⟩,
    extended .rl 8 [.register8 .h] ⟨.compute, .reset, .reset, .compute⟩,
    extended .rl 8 [.register8 .l] ⟨.compute, .reset, .reset, .compute⟩,
    extended .rl 16 [.indirect .hl] ⟨.compute, .reset, .reset, .compute⟩,
    extended .rl 8 [.register8 .a] ⟨.compute, .reset, .reset, .compute⟩,
    extended .rr 8 [.register8 .b] ⟨.compute, .reset, .reset, .compute⟩,
    extended .rr 8 [.register8 .c] ⟨.compute, .reset, .reset, .compute⟩,
    extended .rr 8 [.register8 .d] ⟨.compute, .reset, .reset, .compute⟩,
    extended .rr 8 [.register8 .e] ⟨.compute, .reset, .reset, .compute⟩,
    extended .rr 8 [.register8 .h] ⟨.compute, .reset, .reset, .compute⟩,
    extended .rr 8 [.register8 .l] ⟨.compute, .reset, .reset, .compute⟩,
    extended .rr 16 [.indirect .hl] ⟨.compute, .reset, .reset, .compute⟩,
    extended .rr 8 [.register8 .a] ⟨.compute, .reset, .reset, .compute⟩]

/-- Codes 0x20 to 0x2F. -/
def extendedRow2 : Array (Option Opcode) :=
  #[extended .sla 8 [.register8 .b] ⟨.compute, .reset, .reset, .compute⟩,
    extended .sla 8 [.register8 .c] ⟨.compute, .reset, .reset, .compute⟩,
    extended .sla 8 [.register8 .d] ⟨.compute, .reset, .reset, .compute⟩,
    extended .sla 8 [.register8 .e] ⟨.compute, .reset, .reset, .compute⟩,
    extended .sla 8 [.register8 .h] ⟨.compute, .reset, .reset, .compute⟩,
    extended .sla 8 [.register8 .l] ⟨.compute, .reset, .reset, .compute⟩,
    extended .sla 16 [.indirect .hl] ⟨.compute, .reset, .reset, .compute⟩,
    extended .sla 8 [.register8 .a] ⟨.compute, .reset, .reset, .compute⟩,
    extended .sra 8 [.register8 .b] ⟨.compute, .reset, .reset, .compute⟩,
    extended .sra 8 [.register8 .c] ⟨.compute, .reset, .reset, .compute⟩,
    extended .sra 8 [.register8 .d] ⟨.compute, .reset, .reset, .compute⟩,
    extended .sra 8 [.register8 .e] ⟨.compute, .reset, .reset, .compute⟩,
    extended .sra 8 [.register8 .h] ⟨.compute, .reset, .reset, .compute⟩,
    extended .sra 8 [.register8 .l] ⟨.compute, .reset, .reset, .compute⟩,
    extended .sra 16 [.indirect .hl] ⟨.compute, .reset, .reset, .compute⟩,
    extended .sra 8 [.register8 .a] ⟨.compute, .reset, .reset, .compute⟩]

/-- Codes 0x30 to 0x3F. -/
def extendedRow3 : Array (Option Opcode) :=
  #[extended .swap 8 [.register8 .b] ⟨.compute, .reset, .reset, .reset⟩,
    extended .swap 8 [.register8 .c] ⟨.compute, .reset, .reset, .reset⟩,
    extended .swap 8 [.register8 .d] ⟨.compute, .reset, .reset, .reset⟩,
    extended .swap 8 [.register8 .e] ⟨.compute, .reset, .reset, .reset⟩,
    extended .swap 8 [.register8 .h] ⟨.compute, .reset, .reset, .reset⟩,
    extended .swap 8 [.register8 .l] ⟨.compute, .reset, .reset, .reset⟩,
    extended .swap 16 [.indirect .hl] ⟨.compute, .reset, .reset, .reset⟩,
    extended .swap 8 [.register8 .a] ⟨.compute, .reset, .reset, .reset⟩,
    extended .srl 8 [.register8 .b] ⟨.compute, .reset, .reset, .compute⟩,
    extended .srl 8 [.register8 .c] ⟨.compute, .reset, .reset, .compute⟩,
    extended .srl 8 [.register8 .d] ⟨.compute, .reset, .reset, .compute⟩,
    extended .srl 8 [.register8 .e] ⟨.compute, .reset, .reset, .compute⟩,
    extended .srl 8 [.register8 .h] ⟨.compute, .reset, .reset, .compute⟩,
    extended .srl 8 [.register8 .l] ⟨.compute, .reset, .reset, .compute⟩,
    extended .srl 16 [.indirect .hl] ⟨.compute, .reset, .reset, .compute⟩,
    extended .srl 8 [.register8 .a] ⟨.compute, .reset, .reset, .compute⟩]

/-- Codes 0x40 to 0x4F. -/
def extendedRow4 : Array (Option Opcode) :=
  #[extended .bit 8 [.bit 0, .register8 .b] ⟨.compute, .reset, .set, .keep⟩,
    extended .bit 8 [.bit 0, .register8 .c] ⟨.compute, .reset, .set, .keep⟩,
    extended .bit 8 [.bit 0, .register8 .d] ⟨.compute, .reset, .set, .keep⟩,
    extended .bit 8 [.bit 0, .register8 .e] ⟨.compute, .reset, .set, .keep⟩,
    extended .bit 8 [.bit 0, .register8 .h] ⟨.compute, .reset, .set, .keep⟩,
    extended .bit 8 [.bit 0, .register8 .l] ⟨.compute, .reset, .set, .keep⟩,
    extended .bit 12 [.bit 0, .indirect .hl] ⟨.compute, .reset, .set, .keep⟩,
    extended .bit 8 [.bit 0, .register8 .a] ⟨.compute, .reset, .set, .keep⟩,
    extended .bit 8 [.bit 1, .register8 .b] ⟨.compute, .reset, .set, .keep⟩,
    extended .bit 8 [.bit 1, .register8 .c] ⟨.compute, .reset, .set, .keep⟩,
    extended .bit 8 [.bit 1, .register8 .d] ⟨.compute, .reset, .set, .keep⟩,
    extended .bit 8 [.bit 1, .register8 .e] ⟨.compute, .reset, .set, .keep⟩,
    extended .bit 8 [.bit 1, .register8 .h] ⟨.compute, .reset, .set, .keep⟩,
    extended .bit 8 [.bit 1, .register8 .l] ⟨.compute, .reset, .set, .keep⟩,
    extended .bit 12 [.bit 1, .indirect .hl] ⟨.compute, .reset, .set, .keep⟩,
    extended .bit 8 [.bit 1, .register8 .a] ⟨.compute, .reset, .set, .keep⟩]

/-- Codes 0x50 to 0x5F. -/
def extendedRow5 : Array (Option Opcode) :=
  #[extended .bit 8 [.bit 2, .register8 .b] ⟨.compute, .reset, .set, .keep⟩,
    extended .bit 8 [.bit 2, .register8 .c] ⟨.compute, .reset, .set, .keep⟩,
    extended .bit 8 [.bit 2, .register8 .d] ⟨.compute, .reset, .set, .keep⟩,
    extended .bit 8 [.bit 2, .register8 .e] ⟨.compute, .reset, .set, .keep⟩,
    extended .bit 8 [.bit 2, .register8 .h] ⟨.compute, .reset, .set, .keep⟩,
    extended .bit 8 [.bit 2, .register8 .l] ⟨.compute, .reset, .set, .keep⟩,
    extended .bit 12 [.bit 2, .indirect .hl] ⟨.compute, .reset, .set, .keep⟩,
    extended .bit 8 [.bit 2, .register8 .a] ⟨.compute, .reset, .set, .keep⟩,
    extended .bit 8 [.bit 3, .register8 .b] ⟨.compute, .reset, .set, .keep⟩,
    extended .bit 8 [.bit 3, .register8 .c] ⟨.compute, .reset, .set, .keep⟩,
    extended .bit 8 [.bit 3, .register8 .d] ⟨.compute, .reset, .set, .keep⟩,
    extended .bit 8 [.bit 3, .register8 .e] ⟨.compute, .reset, .set, .keep⟩,
    extended .bit 8 [.bit 3, .register8 .h] ⟨.compute, .reset, .set, .keep⟩,
    extended .bit 8 [.bit 3, .register8 .l] ⟨.compute, .reset, .set, .keep⟩,
    extended .bit 12 [.bit 3, .indirect .hl] ⟨.compute, .reset, .set, .keep⟩,
    extended .bit 8 [.bit 3, .register8 .a] ⟨.compute, .reset, .set, .keep⟩]

/-- Codes 0x60 to 0x6F. -/
def extendedRow6 : Array (Option Opcode) :=
  #[extended .bit 8 [.bit 4, .register8 .b] ⟨.compute, .reset, .set, .keep⟩,
    extended .bit 8 [.bit 4, .register8 .c] ⟨.compute, .reset, .set, .keep⟩,
    extended .bit 8 [.bit 4, .register8 .d] ⟨.compute, .reset, .set, .keep⟩,
    extended .bit 8 [.bit 4, .register8 .e] ⟨.compute, .reset, .set, .keep⟩,
    extended .bit 8 [.bit 4, .register8 .h] ⟨.compute, .reset, .set, .keep⟩,
    extended .bit 8 [.bit 4, .register8 .l] ⟨.compute, .reset, .set, .keep⟩,
    extended .bit 12 [.bit 4, .indirect .hl] ⟨.compute, .reset, .set, .keep⟩,
    extended .bit 8 [.bit 4, .register8 .a] ⟨.compute, .reset, .set, .keep⟩,
    extended .bit 8 [.bit 5, .register8 .b] ⟨.compute, .reset, .set, .keep⟩,
    extended .bit 8 [.bit 5, .register8 .c] ⟨.compute, .reset, .set, .keep⟩,
    extended .bit 8 [.bit 5, .register8 .d] ⟨.compute, .reset, .set, .keep⟩,
    extended .bit 8 [.bit 5, .register8 .e] ⟨.compute, .reset, .set, .keep⟩,
    extended .bit 8 [.bit 5, .register8 .h] ⟨.compute, .reset, .set, .keep⟩,
    extended .bit 8 [.bit 5, .register8 .l] ⟨.compute, .reset, .set, .keep⟩,
    extended .bit 12 [.bit 5, .indirect .hl] ⟨.compute, .reset, .set, .keep⟩,
    extended .bit 8 [.bit 5, .register8 .a] ⟨.compute, .reset, .set, .keep⟩]

/-- Codes 0x70 to 0x7F. -/
def extendedRow7 : Array (Option Opcode) :=
  #[extended .bit 8 [.bit 6, .register8 .b] ⟨.compute, .reset, .set, .keep⟩,
    extended .bit 8 [.bit 6, .register8 .c] ⟨.compute, .reset, .set, .keep⟩,
    extended .bit 8 [.bit 6, .register8 .d] ⟨.compute, .reset, .set, .keep⟩,
    extended .bit 8 [.bit 6, .register8 .e] ⟨.compute, .reset, .set, .keep⟩,
    extended .bit 8 [.bit 6, .register8 .h] ⟨.compute, .reset, .set, .keep⟩,
    extended .bit 8 [.bit 6, .register8 .l] ⟨.compute, .reset, .set, .keep⟩,
    extended .bit 12 [.bit 6, .indirect .hl] ⟨.compute, .reset, .set, .keep⟩,
    extended .bit 8 [.bit 6, .register8 .a] ⟨.compute, .reset, .set, .keep⟩,
    extended .bit 8 [.bit 7, .register8 .b] ⟨.compute, .reset, .set, .keep⟩,
    extended .bit 8 [.bit 7, .register8 .c] ⟨.compute, .reset, .set, .keep⟩,
    extended .bit 8 [.bit 7, .register8 .d] ⟨.compute, .reset, .set, .keep⟩,
    extended .bit 8 [.bit 7, .register8 .e] ⟨.compute, .reset, .set, .keep⟩,
    extended .bit 8 [.bit 7, .register8 .h] ⟨.compute, .reset, .set, .keep⟩,
    extended .bit 8 [.bit 7, .register8 .l] ⟨.compute, .reset, .set, .keep⟩,
    extended .bit 12 [.bit 7, .indirect .hl] ⟨.compute, .reset, .set, .keep⟩,
    extended .bit 8 [.bit 7, .register8 .a] ⟨.compute, .reset, .set, .keep⟩]

/-- Codes 0x80 to 0x8F. -/
def extendedRow8 : Array (Option Opcode) :=
  #[extended .res 8 [.bit 0, .register8 .b] untouched,
    extended .res 8 [.bit 0, .register8 .c] untouched,
    extended .res 8 [.bit 0, .register8 .d] untouched,
    extended .res 8 [.bit 0, .register8 .e] untouched,
    extended .res 8 [.bit 0, .register8 .h] untouched,
    extended .res 8 [.bit 0, .register8 .l] untouched,
    extended .res 16 [.bit 0, .indirect .hl] untouched,
    extended .res 8 [.bit 0, .register8 .a] untouched,
    extended .res 8 [.bit 1, .register8 .b] untouched,
    extended .res 8 [.bit 1, .register8 .c] untouched,
    extended .res 8 [.bit 1, .register8 .d] untouched,
    extended .res 8 [.bit 1, .register8 .e] untouched,
    extended .res 8 [.bit 1, .register8 .h] untouched,
    extended .res 8 [.bit 1, .register8 .l] untouched,
    extended .res 16 [.bit 1, .indirect .hl] untouched,
    extended .res 8 [.bit 1, .register8 .a] untouched]

/-- Codes 0x90 to 0x9F. -/
def extendedRow9 : Array (Option Opcode) :=
  #[extended .res 8 [.bit 2, .register8 .b] untouched,
    extended .res 8 [.bit 2, .register8 .c] untouched,
    extended .res 8 [.bit 2, .register8 .d] untouched,
    extended .res 8 [.bit 2, .register8 .e] untouched,
    extended .res 8 [.bit 2, .register8 .h] untouched,
    extended .res 8 [.bit 2, .register8 .l] untouched,
    extended .res 16 [.bit 2, .indirect .hl] untouched,
    extended .res 8 [.bit 2, .register8 .a] untouched,
    extended .res 8 [.bit 3, .register8 .b] untouched,
    extended .res 8 [.bit 3, .register8 .c] untouched,
    extended .res 8 [.bit 3, .register8 .d] untouched,
    extended .res 8 [.bit 3, .register8 .e] untouched,
    extended .res 8 [.bit 3, .register8 .h] untouched,
    extended .res 8 [.bit 3, .register8 .l] untouched,
    extended .res 16 [.bit 3, .indirect .hl] untouched,
    extended .res 8 [.bit 3, .register8 .a] untouched]

/-- Codes 0xA0 to 0xAF. -/
def extendedRowA : Array (Option Opcode) :=
  #[extended .res 8 [.bit 4, .register8 .b] untouched,
    extended .res 8 [.bit 4, .register8 .c] untouched,
    extended .res 8 [.bit 4, .register8 .d] untouched,
    extended .res 8 [.bit 4, .register8 .e] untouched,
    extended .res 8 [.bit 4, .register8 .h] untouched,
    extended .res 8 [.bit 4, .register8 .l] untouched,
    extended .res 16 [.bit 4, .indirect .hl] untouched,
    extended .res 8 [.bit 4, .register8 .a] untouched,
    extended .res 8 [.bit 5, .register8 .b] untouched,
    extended .res 8 [.bit 5, .register8 .c] untouched,
    extended .res 8 [.bit 5, .register8 .d] untouched,
    extended .res 8 [.bit 5, .register8 .e] untouched,
    extended .res 8 [.bit 5, .register8 .h] untouched,
    extended .res 8 [.bit 5, .register8 .l] untouched,
    extended .res 16 [.bit 5, .indirect .hl] untouched,
    extended .res 8 [.bit 5, .register8 .a] untouched]

/-- Codes 0xB0 to 0xBF. -/
def extendedRowB : Array (Option Opcode) :=
  #[extended .res 8 [.bit 6, .register8 .b] untouched,
    extended .res 8 [.bit 6, .register8 .c] untouched,
    extended .res 8 [.bit 6, .register8 .d] untouched,
    extended .res 8 [.bit 6, .register8 .e] untouched,
    extended .res 8 [.bit 6, .register8 .h] untouched,
    extended .res 8 [.bit 6, .register8 .l] untouched,
    extended .res 16 [.bit 6, .indirect .hl] untouched,
    extended .res 8 [.bit 6, .register8 .a] untouched,
    extended .res 8 [.bit 7, .register8 .b] untouched,
    extended .res 8 [.bit 7, .register8 .c] untouched,
    extended .res 8 [.bit 7, .register8 .d] untouched,
    extended .res 8 [.bit 7, .register8 .e] untouched,
    extended .res 8 [.bit 7, .register8 .h] untouched,
    extended .res 8 [.bit 7, .register8 .l] untouched,
    extended .res 16 [.bit 7, .indirect .hl] untouched,
    extended .res 8 [.bit 7, .register8 .a] untouched]

/-- Codes 0xC0 to 0xCF. -/
def extendedRowC : Array (Option Opcode) :=
  #[extended .set 8 [.bit 0, .register8 .b] untouched,
    extended .set 8 [.bit 0, .register8 .c] untouched,
    extended .set 8 [.bit 0, .register8 .d] untouched,
    extended .set 8 [.bit 0, .register8 .e] untouched,
    extended .set 8 [.bit 0, .register8 .h] untouched,
    extended .set 8 [.bit 0, .register8 .l] untouched,
    extended .set 16 [.bit 0, .indirect .hl] untouched,
    extended .set 8 [.bit 0, .register8 .a] untouched,
    extended .set 8 [.bit 1, .register8 .b] untouched,
    extended .set 8 [.bit 1, .register8 .c] untouched,
    extended .set 8 [.bit 1, .register8 .d] untouched,
    extended .set 8 [.bit 1, .register8 .e] untouched,
    extended .set 8 [.bit 1, .register8 .h] untouched,
    extended .set 8 [.bit 1, .register8 .l] untouched,
    extended .set 16 [.bit 1, .indirect .hl] untouched,
    extended .set 8 [.bit 1, .register8 .a] untouched]

/-- Codes 0xD0 to 0xDF. -/
def extendedRowD : Array (Option Opcode) :=
  #[extended .set 8 [.bit 2, .register8 .b] untouched,
    extended .set 8 [.bit 2, .register8 .c] untouched,
    extended .set 8 [.bit 2, .register8 .d] untouched,
    extended .set 8 [.bit 2, .register8 .e] untouched,
    extended .set 8 [.bit 2, .register8 .h] untouched,
    extended .set 8 [.bit 2, .register8 .l] untouched,
    extended .set 16 [.bit 2, .indirect .hl] untouched,
    extended .set 8 [.bit 2, .register8 .a] untouched,
    extended .set 8 [.bit 3, .register8 .b] untouched,
    extended .set 8 [.bit 3, .register8 .c] untouched,
    extended .set 8 [.bit 3, .register8 .d] untouched,
    extended .set 8 [.bit 3, .register8 .e] untouched,
    extended .set 8 [.bit 3, .register8 .h] untouched,
    extended .set 8 [.bit 3, .register8 .l] untouched,
    extended .set 16 [.bit 3, .indirect .hl] untouched,
    extended .set 8 [.bit 3, .register8 .a] untouched]

/-- Codes 0xE0 to 0xEF. -/
def extendedRowE : Array (Option Opcode) :=
  #[extended .set 8 [.bit 4, .register8 .b] untouched,
    extended .set 8 [.bit 4, .register8 .c] untouched,
    extended .set 8 [.bit 4, .register8 .d] untouched,
    extended .set 8 [.bit 4, .register8 .e] untouched,
    extended .set 8 [.bit 4, .register8 .h] untouched,
    extended .set 8 [.bit 4, .register8 .l] untouched,
    extended .set 16 [.bit 4, .indirect .hl] untouched,
    extended .set 8 [.bit 4, .register8 .a] untouched,
    extended .set 8 [.bit 5, .register8 .b] untouched,
    extended .set 8 [.bit 5, .register8 .c] untouched,
    extended .set 8 [.bit 5, .register8 .d] untouched,
    extended .set 8 [.bit 5, .register8 .e] untouched,
    extended .set 8 [.bit 5, .register8 .h] untouched,
    extended .set 8 [.bit 5, .register8 .l] untouched,
    extended .set 16 [.bit 5, .indirect .hl] untouched,
    extended .set 8 [.bit 5, .register8 .a] untouched]

/-- Codes 0xF0 to 0xFF. -/
def extendedRowF : Array (Option Opcode) :=
  #[extended .set 8 [.bit 6, .register8 .b] untouched,
    extended .set 8 [.bit 6, .register8 .c] untouched,
    extended .set 8 [.bit 6, .register8 .d] untouched,
    extended .set 8 [.bit 6, .register8 .e] untouched,
    extended .set 8 [.bit 6, .register8 .h] untouched,
    extended .set 8 [.bit 6, .register8 .l] untouched,
    extended .set 16 [.bit 6, .indirect .hl] untouched,
    extended .set 8 [.bit 6, .register8 .a] untouched,
    extended .set 8 [.bit 7, .register8 .b] untouched,
    extended .set 8 [.bit 7, .register8 .c] untouched,
    extended .set 8 [.bit 7, .register8 .d] untouched,
    extended .set 8 [.bit 7, .register8 .e] untouched,
    extended .set 8 [.bit 7, .register8 .h] untouched,
    extended .set 8 [.bit 7, .register8 .l] untouched,
    extended .set 16 [.bit 7, .indirect .hl] untouched,
    extended .set 8 [.bit 7, .register8 .a] untouched]

/-- The sixteen rows, by the upper half of the code. -/
def extendedPage : Array (Array (Option Opcode)) :=
  #[extendedRow0, extendedRow1, extendedRow2, extendedRow3,
    extendedRow4, extendedRow5, extendedRow6, extendedRow7,
    extendedRow8, extendedRow9, extendedRowA, extendedRowB,
    extendedRowC, extendedRowD, extendedRowE, extendedRowF]

end Handheld.Opcode
