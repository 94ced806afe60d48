import ExprMachine.Bytecode.Operand
import ExprMachine.Fault

/-!
# Ops and sources

An op is an opcode and an operand, 16 bits each, and takes four bytes, both big-endian. A source is
a sequence of ops, one after the other. Neither looks at what an opcode means: any 16-bit opcode and
operand can be written and read back.
-/

namespace ExprMachine

/-- An opcode, known or not, and its operand. -/
structure Op where
  opcode : UInt16
  operand : Operand
  deriving DecidableEq

namespace Op

/-- The op with the given opcode and operand bits. -/
def ofRaw (opcode operand : UInt16) : Op := ⟨opcode, ⟨operand⟩⟩

/-- Four bytes: the opcode, then the operand, both big-endian. -/
def encode (op : Op) : Bytes :=
  Bytes.ofNat 2 op.opcode.toNat ++ Bytes.ofNat 2 op.operand.raw.toNat

/-- The op of four bytes. -/
def ofBytes (a b c d : UInt8) : Op :=
  ofRaw (UInt16.ofNat (Bytes.toNat [a, b])) (UInt16.ofNat (Bytes.toNat [c, d]))

end Op

/-- A sequence of ops. -/
structure Source where
  ops : List Op
  deriving DecidableEq

namespace Source

/-- The number of ops. -/
def size (s : Source) : Nat := s.ops.length

/-- The encodings of the ops, one after the other. -/
def encode (s : Source) : Bytes := s.ops.flatMap Op.encode

/-- The ops of a byte string, four bytes each; up to three bytes left over at the end are dropped. -/
def opsOf : Bytes → List Op
  | a :: b :: c :: d :: rest => Op.ofBytes a b c d :: opsOf rest
  | _ => []

/-- The source with the given bytes, whose number is a multiple of four. -/
def decode (bs : Bytes) : Except Fault Source :=
  if bs.length % 4 = 0 then .ok ⟨opsOf bs⟩ else .error (.malformedBytecode bs.length)

end Source

end ExprMachine
