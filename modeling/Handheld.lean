import Handheld.Main
import Handheld.Proofs.Bus.Writes
import Handheld.Proofs.Machine.Proceeds
import Handheld.Proofs.Machine.Handlers
import Handheld.Proofs.Machine.Step
import Handheld.Proofs.Console.Step
import Handheld.Proofs.Console.UndefinedOpcode
import Handheld.Proofs.Checked
import Handheld.Proofs.Console.Faults
import Handheld.Proofs.Console.MasterSwitch
import Handheld.Proofs.Console.Meter
import Handheld.Proofs.Console.Ticks
import Handheld.Proofs.Timer.Advance
import Handheld.Proofs.Bus.Ticks
import Handheld.Proofs.Timer.Backlog
import Handheld.Proofs.Console.Nesting
import Handheld.Proofs.Bus.ReadBack
import Handheld.Proofs.Bus.Regular
import Handheld.Proofs.Bus.Requests
import Handheld.Proofs.Console.Requests
import Handheld.Proofs.Alu.Operations
import Handheld.Proofs.Console.Sleep
import Handheld.Proofs.Console.Regular
import Handheld.Proofs.Opcode.Fields
import Handheld.Proofs.Machine.Yields
import Handheld.Proofs.Machine.ByteInstructions
import Handheld.Proofs.Machine.Branches
import Handheld.Proofs.Machine.Words
import Handheld.Proofs.Machine.WordInstructions
import Handheld.Proofs.Machine.Stack
import Handheld.Proofs.Opcode.Footprint
import Handheld.Proofs.Machine.Footprint
import Handheld.Proofs.Machine.Frame
import Handheld.Proofs.Machine.ExtendedInstructions
import Handheld.Proofs.Bus.View
import Handheld.Proofs.Machine.View
import Handheld.Proofs.Console.Service
import Handheld.Proofs.Console.Runs
import Handheld.Proofs.Console.Chunks
import Handheld.Proofs.Text.Parts
import Handheld.Proofs.Text.Numerals
import Handheld.Proofs.Snapshot.Fields
import Handheld.Proofs.Snapshot.RoundTrip
import Handheld.Proofs.Snapshot.Places
import Handheld.Proofs.Snapshot.Grammar
import Handheld.Proofs.Console.Record
import Handheld.Proofs.CommandLine.Budget
import Handheld.Proofs.Alu.Chains
import Handheld.Proofs.Alu.WideIntegers
import Handheld.Proofs.Alu.Decimal
import Handheld.Proofs.Alu.Words
import Handheld.Proofs.Timer.Independence
import Handheld.Proofs.Timer.Batches
import Handheld.Proofs.Bus.Transfers
import Handheld.Proofs.Console.Capture
import Handheld.Proofs.Cartridge.Header
import Handheld.Proofs.Bus.Insertion
import Handheld.Proofs.Cartridge.Window
import Handheld.Proofs.CommandLine.Loading
