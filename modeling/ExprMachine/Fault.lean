import ExprMachine.Bytes.Hex
import ExprMachine.Integrity.Defect

/-!
# Faults

Every way in which decoding, deploying or evaluating an expression can fail, with one wording for
each (`Fault.message`). A fault that a store raised carries the store's own cause, and one about a
bundle names it by its id, the 32-byte digest of its encoding (`ExpressionId`).
-/

namespace ExprMachine

/-- The digest that names a bundle. -/
structure ExpressionId where
  digest : Bytes
  deriving DecidableEq

/-- The digest in lower-case hexadecimal. -/
def ExpressionId.toHex (id : ExpressionId) : String := Hex.encode id.digest

/-- A store refused to read or to write a key. -/
inductive StoreFault where
  | readRefused (key : Word)
  | writeRefused (key : Word)
  deriving DecidableEq

/-- The wording of a refusal. -/
def StoreFault.message : StoreFault → String
  | .readRefused key => s!"state error: get {key.toHex} rejected"
  | .writeRefused key => s!"state error: set {key.toHex} rejected"

/-- Why an expression could not be decoded, deployed or evaluated. -/
inductive Fault where
  | outOfGas
  | unknownOpcode (id : UInt16)
  | invalidOperand (opcode : String) (operand : UInt16)
  | stackUnderflow (opcode : String) (needed available : Nat)
  | stackOverflow (capacity : Nat)
  | arityMismatch (opcode : String) (expected actual : Nat)
  | sourceOutOfRange (index : Nat)
  | constantOutOfRange (index : Nat)
  | stackReadOutOfRange (index height : Nat)
  | contextOutOfBounds (row column : Nat)
  | callDepth (limit : Nat)
  | ensureFailed (code : UInt16)
  | overflow (opcode : String)
  | underflow (opcode : String)
  | divisionByZero (opcode : String)
  | malformedBytecode (length : Nat)
  | insufficientOutputs (entrypoint min actual : Nat)
  | store (cause : StoreFault)
  | integrity (cause : Defect)
  | unknownExpression (id : ExpressionId)
  | unknownEntrypoint (index : Nat)
  /-- The run was cut off after a given number of loop rounds. The number that `Machine.evaluate`
  allows is never used up. -/
  | unfinished
  deriving DecidableEq

/-- The wording of a fault. -/
def Fault.message : Fault → String
  | .outOfGas => "out of gas"
  | .unknownOpcode id => s!"unknown opcode: {hex16 id}"
  | .invalidOperand opcode operand => s!"invalid operand {hex16 operand} for {opcode}"
  | .stackUnderflow opcode needed available =>
    s!"stack underflow: {opcode} needs {needed} words, {available} available"
  | .stackOverflow capacity => s!"stack overflow (capacity {capacity})"
  | .arityMismatch opcode expected actual =>
    s!"{opcode} left {actual} words on the stack, expected {expected}"
  | .sourceOutOfRange index => s!"source index {index} out of range"
  | .constantOutOfRange index => s!"constant index {index} out of range"
  | .stackReadOutOfRange index height => s!"stack read at index {index} past height {height}"
  | .contextOutOfBounds row column =>
    s!"context read out of bounds at row {row}, column {column}"
  | .callDepth limit => s!"call depth limit exceeded ({limit})"
  | .ensureFailed code => s!"ensure failed (code {code.toNat})"
  | .overflow opcode => s!"arithmetic overflow in {opcode}"
  | .underflow opcode => s!"arithmetic underflow in {opcode}"
  | .divisionByZero opcode => s!"division by zero in {opcode}"
  | .malformedBytecode length =>
    s!"malformed bytecode: source length {length} is not a multiple of 4"
  | .insufficientOutputs entrypoint min actual =>
    s!"entrypoint {entrypoint} produced {actual} outputs, expected at least {min}"
  | .store cause => cause.message
  | .integrity cause => s!"integrity check failed: {cause.message}"
  | .unknownExpression id => s!"unknown expression {id.toHex}"
  | .unknownEntrypoint index => s!"unknown entrypoint {index}"
  | .unfinished => "evaluation did not finish"

end ExprMachine
