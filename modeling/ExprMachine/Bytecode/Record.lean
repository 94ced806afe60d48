import ExprMachine.Bytecode.Op
import ExprMachine.Json

/-!
# Sources as JSON

A source is a record with its ops, and an op a record with its opcode and its operand.
-/

namespace ExprMachine

/-- A number of 16 bits. -/
def Json.toUInt16? (j : Json) : Option UInt16 := do
  let n ← j.toNat?
  if n < 65536 then return UInt16.ofNat n else none

namespace Op

/-- The record of an op. -/
def toJson (op : Op) : Json :=
  .record [("opcode", .nat op.opcode.toNat), ("operand", .nat op.operand.raw.toNat)]

/-- The op of a record. -/
def ofJson? (j : Json) : Option Op := do
  match ← j.fields? ["opcode", "operand"] with
  | [some opcode, some operand] => return ofRaw (← opcode.toUInt16?) (← operand.toUInt16?)
  | _ => none

end Op

namespace Source

/-- The record of a source. -/
def toJson (s : Source) : Json := .record [("ops", .arr (s.ops.map Op.toJson))]

/-- The source of a record. -/
def ofJson? (j : Json) : Option Source := do
  match ← j.fields? ["ops"] with
  | [some ops] => return ⟨← (← ops.toList?).mapM Op.ofJson?⟩
  | _ => none

end Source

end ExprMachine
