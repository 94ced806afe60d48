import ExprMachine.Word

/-!
# Defects

What integrity analysis can find wrong with a bundle: a cause at one op (`OpDefect`), met at a
source and an op of it, or a cause that concerns the entrypoints as a whole.
-/

namespace ExprMachine

/-- What can be wrong with one op, given the stack height at which it is met. -/
inductive OpDefect where
  | unknownOpcode (id : UInt16)
  | invalidOperand (opcode : String) (operand : UInt16)
  | stackUnderflow (opcode : String) (needed available : Nat)
  | stackOverflow (height limit : Nat)
  | constantOutOfRange (index : Nat)
  | stackReadOutOfRange (index height : Nat)
  | targetOutOfRange (target : Nat)
  | calleeOutputs (target needed actual : Nat)
  deriving DecidableEq

/-- What can be wrong with a bundle and its declared entrypoints. -/
inductive Defect where
  | noEntrypoints
  | tooManyEntrypoints (entrypoints sources : Nat)
  | atOp (source ip : Nat) (cause : OpDefect)
  | minOutputs (entrypoint min actual : Nat)
  /-- The analysis was cut off. The bound that `Integrity.check` chooses is never met. -/
  | unfinished
  deriving DecidableEq

/-- The wording of a cause at one op. -/
def OpDefect.message : OpDefect → String
  | .unknownOpcode id => s!"unknown opcode {hex16 id}"
  | .invalidOperand opcode operand => s!"invalid operand {hex16 operand} for {opcode}"
  | .stackUnderflow opcode needed available =>
    s!"{opcode} needs {needed} words, {available} available"
  | .stackOverflow height limit => s!"stack height {height} exceeds limit {limit}"
  | .constantOutOfRange index => s!"constant {index} out of range"
  | .stackReadOutOfRange index height => s!"stack read at {index} past height {height}"
  | .targetOutOfRange target => s!"target source {target} out of range"
  | .calleeOutputs target needed actual =>
    s!"source {target} leaves {actual} words, {needed} needed"

/-- The wording of a defect. -/
def Defect.message : Defect → String
  | .noEntrypoints => "no entrypoints declared"
  | .tooManyEntrypoints entrypoints sources =>
    s!"{entrypoints} entrypoints declared but bundle has {sources} sources"
  | .atOp source ip cause => s!"source {source} op {ip}: {cause.message}"
  | .minOutputs entrypoint min actual =>
    s!"entrypoint {entrypoint} leaves {actual} words, expected at least {min}"
  | .unfinished => "analysis did not finish"

end ExprMachine
