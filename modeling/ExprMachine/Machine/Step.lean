import ExprMachine.Machine

/-!
# Steps

What one op does to the stack of its frame. A control-flow op hands words to another source through
`nested`, which runs it in a frame of its own; `Machine/Evaluate.lean` ties that knot.

* `runCall`, `repeatN`, `repeatWhile`: the control-flow ops. Words cross into a frame only as its
  inputs and out of it only as the words on its top.
* `perform`: any op, once its inputs are known to be there.
* `step`: an op with all that surrounds it: its opcode is looked up and paid for, its operand and
  the stack are checked, it runs, and it has to leave as many words as the table says.

`repeatWhile` takes the greatest number of rounds that it may run. Every round pays for its frame,
so a number above the gas that is left is never reached.
-/

namespace ExprMachine

namespace Machine

variable {σ : Type}

/-- Runs the source with the given index on the given words, in a frame of its own. -/
abbrev Nested (σ : Type) := (source : Nat) → (inputs : List Word) → Run σ Stack

/-- Runs the target once and pushes what it leaves on top. -/
def runCall (nested : Nested σ) (operand : Operand) (stack : Stack) : Run σ Stack := do
  let (inputs, rest) ← stack.popN "call" operand.lowCount
  let callee ← nested operand.lowByte inputs
  let results ← callee.topN "call" operand.highCount
  rest.extend results

/-- Runs a source `n` times, each time on the top `carried` words that the last one left. -/
def repeatN (nested : Nested σ) (source carried : Nat) : (n : Nat) → List Word → Run σ (List Word)
  | 0, words => pure words
  | n + 1, words => do
    let frame ← nested source words
    let words ← frame.topN "loop-n" carried
    repeatN nested source carried n words

/-- Runs the target as often as the operand says and pushes the words that it carried along. -/
def runLoopN (nested : Nested σ) (operand : Operand) (stack : Stack) : Run σ Stack := do
  let (carried, rest) ← stack.popN "loop-n" operand.lowCount
  let words ← repeatN nested operand.lowByte operand.lowCount operand.highCount carried
  rest.extend words

/-- Runs a source until the condition is zero: the word that the source leaves on top, above the
`carried` words of the next round. -/
def repeatWhile (nested : Nested σ) (source carried : Nat) :
    (rounds : Nat) → (condition : Word) → List Word → Run σ (List Word)
  | 0, condition, words => if condition.isZero then pure words else throw .unfinished
  | rounds + 1, condition, words =>
    if condition.isZero then pure words
    else do
      let frame ← nested source words
      let top ← frame.topN "do-while" (carried + 1)
      match top.getLast? with
      | some condition => repeatWhile nested source carried rounds condition top.dropLast
      | none => throw (.stackUnderflow "do-while" 1 0)

/-- Runs the target until its condition is zero and pushes the words that it carried along. -/
def runDoWhile (nested : Nested σ) (rounds : Nat) (operand : Operand) (stack : Stack) :
    Run σ Stack := do
  let (condition, rest) ← stack.pop "do-while"
  let (carried, rest) ← rest.popN "do-while" operand.lowCount
  let words ← repeatWhile nested operand.lowByte operand.lowCount rounds condition carried
  rest.extend words

/-- The words that a snapshot holds. -/
def snapshot (env : Env) (site : Site) (stack : Stack) : DebugMode → List Word
  | .stack => stack.words
  | .constants => env.bundle.constants
  | .context => env.context.flatten
  | .state => packState site stack.words

/-- The word that a memory read gives. -/
def fetch (env : Env) (operand : Operand) (stack : Stack) : Except Fault Word :=
  match operand.region with
  | .constants => env.bundle.constant operand.index
  | .stack => stack.get operand.index

/-- What an op does, its inputs being on the stack. -/
def perform [Storage σ] (env : Env) (nested : Nested σ) (rounds : Nat) (site : Site)
    (opcode : Opcode) (operand : Operand) (stack : Stack) : Run σ Stack :=
  match opcode with
  | .readMemory => do
    let word ← fetch env operand stack
    stack.push word
  | .context => do
    let word ← env.context.get operand.highByte operand.lowByte
    stack.push word
  | .flow .call => runCall nested operand stack
  | .flow .loopN => runLoopN nested operand stack
  | .flow .doWhile => runDoWhile nested rounds operand stack
  | .debug =>
    match DebugMode.ofCode? operand.raw with
    | some mode => do
      Run.note (.debug ⟨mode, site, snapshot env site stack mode⟩)
      pure stack
    | none => throw (.invalidOperand "debug" operand.raw)
  | .ensure => do
    let (condition, rest) ← stack.pop "ensure"
    if condition.isZero then throw (.ensureFailed operand.raw) else pure rest
  | .set => do
    let (value, rest) ← stack.pop "set"
    let (key, rest) ← rest.pop "set"
    Run.write key value
    pure rest
  | .get => do
    let (key, rest) ← stack.pop "get"
    let value ← Run.read key
    rest.push value
  | .calc c => do
    let (inputs, rest) ← stack.popN c.name (c.inputs operand)
    let word ← c.apply inputs
    rest.push word

/-- Refuses an operand that gives a variadic opcode too few inputs, and a stack that does not hold
them. -/
def checkInputs (opcode : Opcode) (operand : Operand) (available : Nat) : Except Fault Unit :=
  if !opcode.admits operand then .error (.invalidOperand opcode.name operand.raw)
  else if available < opcode.inputs operand then
    .error (.stackUnderflow opcode.name (opcode.inputs operand) available)
  else .ok ()

/-- Refuses a stack that has not the height which the table gives it, after `available` words. -/
def checkOutputs (opcode : Opcode) (operand : Operand) (available : Nat) (after : Stack) :
    Except Fault Stack :=
  let expected := available - opcode.inputs operand + opcode.outputs operand
  if after.height = expected then .ok after
  else .error (.arityMismatch opcode.name expected after.height)

/-- One op, with its cost and its checks. -/
def step [Storage σ] (env : Env) (nested : Nested σ) (rounds : Nat) (site : Site) (op : Op)
    (stack : Stack) : Run σ Stack := do
  let opcode ← Opcode.lookup op.opcode
  Run.charge opcode.gas
  checkInputs opcode op.operand stack.height
  Run.trace env (.exec site opcode.name)
  let after ← perform env nested rounds site opcode op.operand stack
  checkOutputs opcode op.operand stack.height after

end Machine

end ExprMachine
