/-!
# Mnemonics

The operations of the instruction set, by the names that listings show.
-/

namespace Handheld

inductive Mnemonic where
  | adc
  | add
  | and
  | bit
  | call
  | ccf
  | cp
  | cpl
  | daa
  | dec
  | di
  | ei
  | halt
  | inc
  | jp
  | jr
  | ld
  | ldh
  | nop
  | or
  | pop
  | push
  | res
  | ret
  | reti
  | rl
  | rla
  | rlc
  | rlca
  | rr
  | rra
  | rrc
  | rrca
  | rst
  | sbc
  | scf
  | set
  | sla
  | sra
  | srl
  | stop
  | sub
  | swap
  | xor
  deriving DecidableEq

def Mnemonic.name : Mnemonic → String
  | adc => "ADC"
  | add => "ADD"
  | and => "AND"
  | bit => "BIT"
  | call => "CALL"
  | ccf => "CCF"
  | cp => "CP"
  | cpl => "CPL"
  | daa => "DAA"
  | dec => "DEC"
  | di => "DI"
  | ei => "EI"
  | halt => "HALT"
  | inc => "INC"
  | jp => "JP"
  | jr => "JR"
  | ld => "LD"
  | ldh => "LDH"
  | nop => "NOP"
  | or => "OR"
  | pop => "POP"
  | push => "PUSH"
  | res => "RES"
  | ret => "RET"
  | reti => "RETI"
  | rl => "RL"
  | rla => "RLA"
  | rlc => "RLC"
  | rlca => "RLCA"
  | rr => "RR"
  | rra => "RRA"
  | rrc => "RRC"
  | rrca => "RRCA"
  | rst => "RST"
  | sbc => "SBC"
  | scf => "SCF"
  | set => "SET"
  | sla => "SLA"
  | sra => "SRA"
  | srl => "SRL"
  | stop => "STOP"
  | sub => "SUB"
  | swap => "SWAP"
  | xor => "XOR"

end Handheld
