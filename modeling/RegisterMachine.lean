import RegisterMachine.Binary.Basic
import RegisterMachine.Binary.Decimal
import RegisterMachine.Binary.Division
import RegisterMachine.Binary.Numeral
import RegisterMachine.Binary.Rounding
import RegisterMachine.CommandLine.Options
import RegisterMachine.CommandLine.Session
import RegisterMachine.CommandLine.Settings
import RegisterMachine.Decoded
import RegisterMachine.Edition
import RegisterMachine.Event
import RegisterMachine.Loose.Agreement
import RegisterMachine.Loose.Machine
import RegisterMachine.Loose.Record
import RegisterMachine.Loose.Registry
import RegisterMachine.Loose.State
import RegisterMachine.Machine.Basic
import RegisterMachine.Machine.Load
import RegisterMachine.Machine.Report
import RegisterMachine.Machine.Run
import RegisterMachine.Machine.Step
import RegisterMachine.Main
import RegisterMachine.Memory
import RegisterMachine.Numeral
import RegisterMachine.Opcode
import RegisterMachine.Panels
import RegisterMachine.Primitive
import RegisterMachine.Program.Example
import RegisterMachine.Program.Source
import RegisterMachine.Recent
import RegisterMachine.Register
import RegisterMachine.Registry
import RegisterMachine.State
import RegisterMachine.Text.Blank
import RegisterMachine.Text.Digit
import RegisterMachine.Text.Printable
import RegisterMachine.Text.Quoted
import RegisterMachine.Value.Basic
import RegisterMachine.Value.Division
import RegisterMachine.Value.Misuse
import RegisterMachine.Value.Operation
import RegisterMachine.Word
import RegisterMachine.Proofs.Instruction
import RegisterMachine.Proofs.Transition
import RegisterMachine.Proofs.OpcodeTable
import RegisterMachine.Proofs.Run
import RegisterMachine.Proofs.History
import RegisterMachine.Proofs.Bounds
import RegisterMachine.Proofs.Contents
import RegisterMachine.Proofs.Reporting
import RegisterMachine.Proofs.Core
import RegisterMachine.Proofs.Horizon
import RegisterMachine.Proofs.Limit
import RegisterMachine.Proofs.Course
import RegisterMachine.Proofs.Chronicle
import RegisterMachine.Proofs.Halting
import RegisterMachine.Proofs.Replay
import RegisterMachine.Proofs.Printing
import RegisterMachine.Proofs.Flags
import RegisterMachine.Proofs.Indifference
import RegisterMachine.Proofs.Observation
import RegisterMachine.Proofs.Resumption
import RegisterMachine.Proofs.SpareMemory
import RegisterMachine.Proofs.ExampleRuns
import RegisterMachine.Proofs.Sessions
import RegisterMachine.Proofs.Menu
import RegisterMachine.Proofs.Form
import RegisterMachine.Proofs.Stepping
import RegisterMachine.Proofs.Arguments
import RegisterMachine.Proofs.FrontEnds
import RegisterMachine.Proofs.Loading
import RegisterMachine.Proofs.Rendering
import RegisterMachine.Proofs.Transcripts
import RegisterMachine.Proofs.MenuBlocks
import RegisterMachine.Proofs.Farewell
import RegisterMachine.Proofs.Code
import RegisterMachine.Proofs.Wrapping
import RegisterMachine.Proofs.BackwardJumps
import RegisterMachine.Proofs.Rounds
import RegisterMachine.Proofs.Factorial
import RegisterMachine.Proofs.Automaton
import RegisterMachine.Proofs.Joining
import RegisterMachine.Proofs.Counting
import RegisterMachine.Proofs.Comparing
import RegisterMachine.Proofs.Dividing
import RegisterMachine.Proofs.Disassembly
import RegisterMachine.Proofs.InPlace
