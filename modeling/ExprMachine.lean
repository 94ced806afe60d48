import ExprMachine.Bytecode.Builder
import ExprMachine.Bytecode.Bundle
import ExprMachine.Bytecode.Op
import ExprMachine.Bytecode.Operand
import ExprMachine.Bytecode.Record
import ExprMachine.Bytes
import ExprMachine.Bytes.Hex
import ExprMachine.Calc
import ExprMachine.CommandLine
import ExprMachine.CommandLine.Arguments
import ExprMachine.CommandLine.Inputs
import ExprMachine.Config
import ExprMachine.Config.File
import ExprMachine.Context
import ExprMachine.Fault
import ExprMachine.Files
import ExprMachine.Gas
import ExprMachine.Hash.Blake3
import ExprMachine.Hash.Keccak
import ExprMachine.Host
import ExprMachine.Integrity
import ExprMachine.Integrity.Defect
import ExprMachine.Json
import ExprMachine.Json.Printer
import ExprMachine.Json.Reader
import ExprMachine.Limits
import ExprMachine.LogFilter
import ExprMachine.LogFilter.Pattern
import ExprMachine.LogFilter.Pattern.CharClass
import ExprMachine.LogFilter.Pattern.Escape
import ExprMachine.LogFilter.Pattern.Flags
import ExprMachine.LogFilter.Value
import ExprMachine.Machine
import ExprMachine.Machine.Evaluate
import ExprMachine.Machine.Step
import ExprMachine.Main
import ExprMachine.Notice
import ExprMachine.Opcode
import ExprMachine.Proofs.Arithmetic
import ExprMachine.Proofs.CallDepth
import ExprMachine.Proofs.CommitOutcome
import ExprMachine.Proofs.Completeness
import ExprMachine.Proofs.DataIndependence
import ExprMachine.Proofs.DebugEvents
import ExprMachine.Proofs.DebugTransparency
import ExprMachine.Proofs.Decoding
import ExprMachine.Proofs.Encoding
import ExprMachine.Proofs.Evaluation
import ExprMachine.Proofs.Extension
import ExprMachine.Proofs.FrameHeights
import ExprMachine.Proofs.GasHistory
import ExprMachine.Proofs.GasThreshold
import ExprMachine.Proofs.Heights
import ExprMachine.Proofs.Host.Atomicity
import ExprMachine.Proofs.Host.Entrypoints
import ExprMachine.Proofs.Host.Isolation
import ExprMachine.Proofs.Host.Run
import ExprMachine.Proofs.Integrity.Acceptance
import ExprMachine.Proofs.Integrity.Asks
import ExprMachine.Proofs.Integrity.Bookkeeping
import ExprMachine.Proofs.Integrity.Check
import ExprMachine.Proofs.Integrity.Coverage
import ExprMachine.Proofs.Integrity.Ledger
import ExprMachine.Proofs.Integrity.Moments
import ExprMachine.Proofs.Integrity.Nesting
import ExprMachine.Proofs.Integrity.OpenWalks
import ExprMachine.Proofs.Integrity.Tracking
import ExprMachine.Proofs.LimitCutoff
import ExprMachine.Proofs.Literal.Digits
import ExprMachine.Proofs.Literal.Words
import ExprMachine.Proofs.Locality
import ExprMachine.Proofs.Outcome
import ExprMachine.Proofs.Overlay
import ExprMachine.Proofs.Run.Ahead
import ExprMachine.Proofs.Run.Coupling
import ExprMachine.Proofs.Run.SideBySide
import ExprMachine.Proofs.Run.Simulation
import ExprMachine.Proofs.Run.Triple
import ExprMachine.Proofs.Scenes
import ExprMachine.Proofs.SentinelLists
import ExprMachine.Proofs.Soundness
import ExprMachine.Proofs.Stack
import ExprMachine.Proofs.Step
import ExprMachine.Proofs.Store
import ExprMachine.Proofs.Table
import ExprMachine.Proofs.Termination
import ExprMachine.Proofs.Text
import ExprMachine.Proofs.Unrolling
import ExprMachine.Sentinel
import ExprMachine.Stack
import ExprMachine.Store
import ExprMachine.Store.Overlay
import ExprMachine.Table
import ExprMachine.Text
import ExprMachine.Text.Alphanumeric
import ExprMachine.Text.Escaped
import ExprMachine.Text.Quoted
import ExprMachine.Toml
import ExprMachine.Toml.Reader
import ExprMachine.Toml.Scalar
import ExprMachine.Trail
import ExprMachine.Trail.Mode
import ExprMachine.Word
import ExprMachine.Word.Literal
