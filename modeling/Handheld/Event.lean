import Handheld.Cpu.Snapshot
import Handheld.Instruction
import Handheld.Text.Quoted

/-!
# Events

What a machine reports while it works.  An event has a level, by which a reader
selects what to see, a channel, which says what part of the machine it comes from,
and a message.  The line of a snapshot is the message of `snapshot` alone.
-/

namespace Handheld

/-- How much an event matters. -/
inductive Level where
  | error
  | warn
  | info
  | debug
  | trace
  deriving DecidableEq

namespace Level

/-- The more an event matters, the smaller. -/
def rank : Level → Nat
  | error => 1
  | warn => 2
  | info => 3
  | debug => 4
  | trace => 5

def name : Level → String
  | error => "ERROR"
  | warn => "WARN"
  | info => "INFO"
  | debug => "DEBUG"
  | trace => "TRACE"

end Level

/-- Where an event comes from. -/
inductive Channel where
  | session
  | file
  | header
  | cartridge
  | console
  | processor
  | execution
  | interrupts
  | bus
  | timer
  deriving DecidableEq

inductive Event where
  /-- A file of so many bytes has been read. -/
  | fileRead (path : String) (size : Nat)
  /-- An image of so many bytes is too small for a header. -/
  | headerMissing (size : Nat)
  | logoWrong
  | checksumWrong (computed recorded : Byte)
  | headerRead (header : Header)
  /-- The cartridge switches banks, which the machine does not. -/
  | bankedCartridge (kind : Byte)
  | headerInvalid
  /-- An image of so many bytes makes a cartridge. -/
  | imageAccepted (size : Nat)
  | starting (title? : Option String)
  | cartridgeInserted
  /-- A run has come to its end after so many ticks. -/
  | finished (ticks : Nat)
  | write (region : Bus.Region) (address : Word) (v : Byte)
  | byteSent (v : Byte)
  | dividerCleared (v : Byte)
  | timerOverflow (modulo : Byte)
  | requested (k : Interrupt)
  | accepting (k : Interrupt)
  | masterOn
  | woken (address : Word)
  /-- The state before an instruction. -/
  | snapshot (s : Snapshot)
  | executing (i : Instruction)
  | halting (address : Word)
  | stopping (address : Word)
  /-- The state in which an undefined opcode was met. -/
  | undecodable (s : Snapshot)
  | undefinedOpcode (e : UndefinedOpcode)
  deriving DecidableEq

namespace Event

def level : Event → Level
  | headerMissing _ | logoWrong | checksumWrong .. => .error
  | bankedCartridge _ | headerInvalid => .warn
  | fileRead .. | headerRead _ | starting _ | finished _ | byteSent _ => .info
  | imageAccepted _ | cartridgeInserted | accepting _ | woken _ | executing _ | halting _
  | stopping _ | undecodable _ | undefinedOpcode _ => .debug
  | write .. | dividerCleared _ | timerOverflow _ | requested _ | masterOn
  | snapshot _ => .trace

def channel : Event → Channel
  | finished _ => .session
  | fileRead .. => .file
  | headerMissing _ | logoWrong | checksumWrong .. | headerRead _ => .header
  | bankedCartridge _ | headerInvalid | imageAccepted _ => .cartridge
  | starting _ | undecodable _ | undefinedOpcode _ => .console
  | woken _ | snapshot _ | executing _ => .processor
  | halting _ | stopping _ => .execution
  | requested _ | accepting _ | masterOn => .interrupts
  | cartridgeInserted | write .. | byteSent _ => .bus
  | dividerCleared _ | timerOverflow _ => .timer

/-- What the message of a write says of the region. -/
def regionNote : Bus.Region → String
  | .unusable => " (IGNORED: unusable)"
  | .timer _ => " (TIMER)"
  | .interruptRequests => " (IF)"
  | .interruptEnable => " (IE)"
  | .serialControl | .cell => ""

def headerText (header : Header) : String :=
  let title := match header.title? with
    | none => "None"
    | some title => "Some(" ++ Text.quoteText title ++ ")"
  "Cartridge: " ++ title ++ ", type " ++ Header.kindName header.kind ++ " (0x" ++
    Hex.byteText header.kind ++ "), " ++ toString (header.romSize / 1024) ++ " KiB ROM, " ++
    toString (header.ramSize / 1024) ++ " KiB RAM"

def message : Event → String
  | fileRead path size => "Loaded " ++ path ++ " (" ++ toString size ++ " bytes)"
  | headerMissing size => "ROM size " ++ toString size ++ " too small for header"
  | logoWrong => "Logo verification failed"
  | checksumWrong computed recorded =>
    "Header checksum mismatch! Calculated: " ++ Hex.byteText computed ++ ", Header: " ++
      Hex.byteText recorded
  | headerRead header => headerText header
  | bankedCartridge kind =>
    "Cartridge type 0x" ++ Hex.byteText kind ++
      " uses bank switching, only banks 0 and 1 are mapped"
  | headerInvalid => "Cartridge header failed the boot checks, running anyway"
  | imageAccepted size => "Cartridge image is " ++ toString size ++ " bytes"
  | starting title? => "Starting " ++ title?.getD "untitled cartridge"
  | cartridgeInserted => "Mapped cartridge, memory_size: 65536, rom_size: 32768"
  | finished ticks => "Ran " ++ toString ticks ++ " T-cycles"
  | write region address v =>
    "write_byte [0x" ++ Hex.wordText address ++ "] -> 0x" ++ Hex.byteText v ++ regionNote region
  | byteSent v => "Serial: " ++ Text.quoteChar (Char.ofNat v.toNat)
  | dividerCleared v => "DIV reset (wrote 0x" ++ Hex.byteText v ++ ")"
  | timerOverflow modulo => "TIMA overflow, reload 0x" ++ Hex.byteText modulo
  | requested k => "Interrupt requested: " ++ k.name
  | accepting k => "Dispatching " ++ k.name ++ " to 0x" ++ Hex.wordText k.vector
  | masterOn => "IME enabled"
  | woken address => "Woken from HALT at 0x" ++ Hex.wordText address
  | snapshot s => s.text
  | executing i => i.text
  | halting address => "HALT at 0x" ++ Hex.wordText address
  | stopping address => "STOP at 0x" ++ Hex.wordText address
  | undecodable s => "Decode failed, " ++ s.text
  | undefinedOpcode e => e.message

end Event

/-! ## What is reported of a cartridge image -/

namespace Header

/-- The events of reading the header of an image. -/
def readEvents (image : Array Byte) : List Event :=
  if image.size < endOffset then [.headerMissing image.size]
  else
    let header := ofImage image
    (if header.hasLogo then [] else [.logoWrong]) ++
      (if header.hasChecksum then []
        else [.checksumWrong (computeChecksum image) header.checksum]) ++
      [.headerRead header]

end Header

namespace Cartridge

/-- The events of making a cartridge of an image. -/
def ofImageEvents (image : Array Byte) : List Event :=
  if image.size < windowSize then []
  else
    let header := Header.ofImage image
    Header.readEvents image ++
      (if header.isBanked then [.bankedCartridge header.kind] else []) ++
      (if header.isValid then [] else [.headerInvalid]) ++
      [.imageAccepted image.size]

end Cartridge

end Handheld
