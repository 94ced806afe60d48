/-!
# Debug modes

What a `debug` op records is chosen by its operand.
-/

namespace ExprMachine

/-- What a `debug` op records. -/
inductive DebugMode where
  /-- The words of the frame. -/
  | stack
  /-- The constants of the bundle. -/
  | constants
  /-- The cells of the context, row by row. -/
  | context
  /-- Where the frame stands, its height and its words. -/
  | state
  deriving DecidableEq

namespace DebugMode

/-- The operand that chooses a mode. -/
def code : DebugMode → UInt16
  | .stack => 0
  | .constants => 1
  | .context => 2
  | .state => 3

/-- The mode that an operand chooses. -/
def ofCode? (code : UInt16) : Option DebugMode :=
  match code.toNat with
  | 0 => some .stack
  | 1 => some .constants
  | 2 => some .context
  | 3 => some .state
  | _ => none

/-- The name under which a mode is reported. -/
def name : DebugMode → String
  | .stack => "Stack"
  | .constants => "Constants"
  | .context => "Context"
  | .state => "State"

end DebugMode

end ExprMachine
