import ExprMachine.Bytecode.Op
import ExprMachine.Hash.Blake3

/-!
# Bundles

A bundle is the unit of deployment: the sources of an expression and the constants that they read.
Its canonical encoding is the number of sources, each source's length in bytes and its bytes, the
number of constants, and the constants, 32 bytes each; every number is four big-endian bytes. A
bundle's id is the BLAKE3 digest of its encoding.
-/

namespace ExprMachine

/-- Sources and the constants that they read. -/
structure Bundle where
  sources : List Source
  constants : List Word
  deriving DecidableEq

namespace Bundle

/-- The source with the given index. -/
def source (b : Bundle) (index : Nat) : Except Fault Source :=
  match b.sources[index]? with
  | some s => .ok s
  | none => .error (.sourceOutOfRange index)

/-- The constant with the given index. -/
def constant (b : Bundle) (index : Nat) : Except Fault Word :=
  match b.constants[index]? with
  | some w => .ok w
  | none => .error (.constantOutOfRange index)

/-- A source with its length in bytes before it. -/
def encodeSource (s : Source) : Bytes :=
  Bytes.ofNat 4 s.encode.length ++ s.encode

/-- The canonical encoding. -/
def encode (b : Bundle) : Bytes :=
  Bytes.ofNat 4 b.sources.length ++ b.sources.flatMap encodeSource ++
    (Bytes.ofNat 4 b.constants.length ++ b.constants.flatMap Word.toBytes)

/-- The digest of the canonical encoding. -/
def id (b : Bundle) : ExpressionId := ⟨Blake3.digest b.encode⟩

end Bundle

end ExprMachine
