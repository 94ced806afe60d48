import ExprMachine.Bytecode.Op

/-!
# The opcode table

Thirty opcodes, numbered from 0. Each has a name, a gas cost, and a number of inputs and outputs
that may depend on the operand; the variadic ones take as many inputs as their operand says, at
least `variadicMin?`, and give one output.

* `Calc`: the opcodes whose output depends on their inputs alone.
* `Flow`: the opcodes that run another source.
* `Opcode`: all of them; `Opcode.ofId?` and `Opcode.id` are the numbering.
-/

namespace ExprMachine

/-- An opcode whose one output depends on its inputs alone. -/
inductive Calc where
  | hash
  | add
  | sub
  | mul
  | div
  | mod
  | exp
  | min
  | max
  | saturatingAdd
  | saturatingSub
  | saturatingMul
  | lessThan
  | greaterThan
  | equalTo
  | isZero
  | lessThanOrEqualTo
  | greaterThanOrEqualTo
  | every
  | any
  | eagerIf
  deriving DecidableEq

namespace Calc

/-- The name of an opcode. -/
def name : Calc → String
  | .hash => "hash"
  | .add => "add"
  | .sub => "sub"
  | .mul => "mul"
  | .div => "div"
  | .mod => "mod"
  | .exp => "exp"
  | .min => "min"
  | .max => "max"
  | .saturatingAdd => "saturating-add"
  | .saturatingSub => "saturating-sub"
  | .saturatingMul => "saturating-mul"
  | .lessThan => "less-than"
  | .greaterThan => "greater-than"
  | .equalTo => "equal-to"
  | .isZero => "is-zero"
  | .lessThanOrEqualTo => "less-than-or-equal-to"
  | .greaterThanOrEqualTo => "greater-than-or-equal-to"
  | .every => "every"
  | .any => "any"
  | .eagerIf => "eager-if"

/-- The gas that an opcode costs. -/
def gas : Calc → Nat
  | .hash => 30
  | .exp => 10
  | .add | .sub | .mul | .div | .mod => 5
  | .saturatingAdd | .saturatingSub | .saturatingMul => 5
  | _ => 3

/-- How many inputs a variadic opcode must at least be given; none for a fixed number. -/
def variadicMin? : Calc → Option Nat
  | .hash => some 0
  | .every | .any => some 1
  | .lessThan | .greaterThan | .equalTo | .lessThanOrEqualTo | .greaterThanOrEqualTo => none
  | .isZero => none
  | .eagerIf => none
  | _ => some 2

/-- The number of inputs: the operand of a variadic opcode, and otherwise fixed. -/
def inputs (c : Calc) (operand : Operand) : Nat :=
  match c with
  | .isZero => 1
  | .eagerIf => 3
  | .lessThan | .greaterThan | .equalTo | .lessThanOrEqualTo | .greaterThanOrEqualTo => 2
  | _ => operand.count

end Calc

/-- An opcode that runs another source in a frame of its own. -/
inductive Flow where
  /-- Runs a source once. -/
  | call
  /-- Runs a source a fixed number of times, each time on what the last one left. -/
  | loopN
  /-- Runs a source until the word that it leaves on top is zero. -/
  | doWhile
  deriving DecidableEq

namespace Flow

/-- The name of an opcode. -/
def name : Flow → String
  | .call => "call"
  | .loopN => "loop-n"
  | .doWhile => "do-while"

/-- The number of inputs: the words that go in, and the first condition of a `do-while`. -/
def inputs (f : Flow) (operand : Operand) : Nat :=
  match f with
  | .call | .loopN => operand.lowCount
  | .doWhile => operand.lowCount + 1

/-- The number of outputs. -/
def outputs (f : Flow) (operand : Operand) : Nat :=
  match f with
  | .call => operand.highCount
  | .loopN | .doWhile => operand.lowCount

/-- How many words the source that is run must leave. -/
def needed (f : Flow) (operand : Operand) : Nat :=
  match f with
  | .call => operand.highCount
  | .loopN => operand.lowCount
  | .doWhile => operand.lowCount + 1

end Flow

/-- What an op does. -/
inductive Opcode where
  /-- Pushes a constant or a word of the stack. -/
  | readMemory
  /-- Pushes a cell of the context. -/
  | context
  /-- Runs another source. -/
  | flow (f : Flow)
  /-- Records a snapshot. -/
  | debug
  /-- Fails unless its input is non-zero. -/
  | ensure
  /-- Writes a word to the store. -/
  | set
  /-- Reads a word of the store. -/
  | get
  /-- Computes a word. -/
  | calc (c : Calc)
  deriving DecidableEq

namespace Opcode

/-- All opcodes, in the order of their numbers. -/
def all : List Opcode :=
  [.readMemory, .context, .flow .call, .flow .loopN, .flow .doWhile, .debug, .ensure, .set, .get,
   .calc .hash, .calc .add, .calc .sub, .calc .mul, .calc .div, .calc .mod, .calc .exp, .calc .min,
   .calc .max, .calc .saturatingAdd, .calc .saturatingSub, .calc .saturatingMul, .calc .lessThan,
   .calc .greaterThan, .calc .equalTo, .calc .isZero, .calc .lessThanOrEqualTo,
   .calc .greaterThanOrEqualTo, .calc .every, .calc .any, .calc .eagerIf]

/-- The opcode with the given number. -/
def ofId? (id : UInt16) : Option Opcode := all[id.toNat]?

/-- The number of an opcode: its place among all. -/
def id (o : Opcode) : Nat := all.idxOf o

/-- The opcode with the given number, or a fault. -/
def lookup (id : UInt16) : Except Fault Opcode :=
  match ofId? id with
  | some o => .ok o
  | none => .error (.unknownOpcode id)

/-- The name of an opcode. -/
def name : Opcode → String
  | .readMemory => "read-memory"
  | .context => "context"
  | .flow f => f.name
  | .debug => "debug"
  | .ensure => "ensure"
  | .set => "set"
  | .get => "get"
  | .calc c => c.name

/-- The opcode with the given name. -/
def ofName? (name : String) : Option Opcode := all.find? fun o => o.name == name

/-- The gas that an opcode costs, the frames that it opens not counted. -/
def gas : Opcode → Nat
  | .readMemory | .context | .ensure => 3
  | .flow _ => 8
  | .debug => 0
  | .set => 2900
  | .get => 100
  | .calc c => c.gas

/-- The number of words that an op takes off the stack. -/
def inputs (o : Opcode) (operand : Operand) : Nat :=
  match o with
  | .readMemory | .context | .debug => 0
  | .flow f => f.inputs operand
  | .ensure | .get => 1
  | .set => 2
  | .calc c => c.inputs operand

/-- The number of words that an op puts on the stack. -/
def outputs (o : Opcode) (operand : Operand) : Nat :=
  match o with
  | .debug | .ensure | .set => 0
  | .flow f => f.outputs operand
  | .readMemory | .context | .get | .calc _ => 1

/-- How many inputs a variadic opcode must at least be given; none for a fixed number. -/
def variadicMin? : Opcode → Option Nat
  | .calc c => c.variadicMin?
  | _ => none

/-- Whether an operand gives a variadic opcode enough inputs. -/
def admits (o : Opcode) (operand : Operand) : Bool :=
  match o.variadicMin? with
  | some min => min ≤ o.inputs operand
  | none => true

/-- Whether every opcode stands at its number and no two share a name. -/
def tableIsConsistent : Bool :=
  all.length == 30 && (all.map name).eraseDups.length == all.length
    && (List.range all.length).all fun i => all[i]?.map id == some i

end Opcode

end ExprMachine
