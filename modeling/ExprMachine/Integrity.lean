import ExprMachine.Bytecode.Bundle
import ExprMachine.Integrity.Defect
import ExprMachine.Limits
import ExprMachine.Opcode
import ExprMachine.Trail.Mode

/-!
# Integrity analysis

How many words an op takes and gives depends on its operand alone, so the height of every stack is
known before anything runs. The analysis follows the heights through every entrypoint, and through
the sources that control-flow ops run, each from the number of words that it is handed (`Start`).

Each start is walked once. A control-flow op whose target is already being walked further up cannot
know yet how many words the target leaves; it is put off until every walk has ended (`Deferred`).

* `walkOps`: the ops of a source, from a height.
* `consult`: a start that was walked before, is being walked, or is new.
* `analyze`: a start, with walks nested at most so deep.
* `check`: a bundle with its declared entrypoints. The chain of walks holds every start at most
  once, and a start that is not an entrypoint has one of 256 sources and one of 16 heights, so the
  depth that `check` allows is never used up.
-/

namespace ExprMachine

namespace Integrity

/-- A source, and the height of the stack that it is started with. -/
structure Start where
  source : Nat
  height : Nat
  deriving DecidableEq

/-- What a walk found: the height at the end, and the greatest height in any frame. -/
structure Summary where
  final : Nat
  peak : Nat
  deriving DecidableEq

/-- A control-flow op whose target was still being walked, and how many words it needs. -/
structure Deferred where
  source : Nat
  ip : Nat
  target : Start
  needed : Nat
  deriving DecidableEq

/-- What the analysis has found so far. -/
structure Ledger where
  /-- The walks that have ended. -/
  finished : List (Start × Summary)
  /-- The walks that have not, the innermost first. -/
  active : List Start
  /-- The ops put off, in the order in which they were met. -/
  deferred : List Deferred

/-- Nothing has been walked. -/
def Ledger.blank : Ledger := ⟨[], [], []⟩

/-- A step of the analysis. -/
abbrev Analysis := StateT Ledger (Except Defect)

/-- The start of the source that a control-flow op runs. -/
def targetOf (operand : Operand) : Start := ⟨operand.lowByte, operand.lowCount⟩

/-- Follows a control-flow op to its target. Gives the target's greatest height, or 0 if the target
is still being walked. -/
def followFlow (bundle : Bundle) (analyze : Start → Analysis (Option Summary)) (source ip : Nat)
    (f : Flow) (operand : Operand) : Analysis Nat := do
  let target := targetOf operand
  let needed := f.needed operand
  if bundle.sources.length ≤ target.source then
    throw (.atOp source ip (.targetOutOfRange target.source))
  else match ← analyze target with
    | some summary =>
      if summary.final < needed then
        throw (.atOp source ip (.calleeOutputs target.source needed summary.final))
      else return summary.peak
    | none =>
      modify fun ledger =>
        { ledger with deferred := ledger.deferred ++ [⟨source, ip, target, needed⟩] }
      return 0

/-- What an op asks for besides its inputs. Gives the greatest height of the frames that it
opens. -/
def examine (bundle : Bundle) (analyze : Start → Analysis (Option Summary)) (source ip : Nat)
    (opcode : Opcode) (operand : Operand) (height : Nat) : Analysis Nat :=
  match opcode with
  | .readMemory =>
    match operand.region with
    | .constants =>
      if operand.index < bundle.constants.length then return 0
      else throw (.atOp source ip (.constantOutOfRange operand.index))
    | .stack =>
      if operand.index < height then return 0
      else throw (.atOp source ip (.stackReadOutOfRange operand.index height))
  | .debug =>
    match DebugMode.ofCode? operand.raw with
    | some _ => return 0
    | none => throw (.atOp source ip (.invalidOperand opcode.name operand.raw))
  | .flow f => followFlow bundle analyze source ip f operand
  | _ => return 0

/-- Follows the height through one op, from a height and the greatest one so far. -/
def walkOp (bundle : Bundle) (limits : Limits) (analyze : Start → Analysis (Option Summary))
    (source ip : Nat) (op : Op) (height peak : Nat) : Analysis (Nat × Nat) :=
  match Opcode.ofId? op.opcode with
  | none => throw (.atOp source ip (.unknownOpcode op.opcode))
  | some opcode => do
    let needed := opcode.inputs op.operand
    if !opcode.admits op.operand then
      throw (.atOp source ip (.invalidOperand opcode.name op.operand.raw))
    else if height < needed then
      throw (.atOp source ip (.stackUnderflow opcode.name needed height))
    else do
      let nested ← examine bundle analyze source ip opcode op.operand height
      let after := height - needed + opcode.outputs op.operand
      if limits.maxStack < after then
        throw (.atOp source ip (.stackOverflow after limits.maxStack))
      else return (after, Nat.max (Nat.max peak nested) after)

/-- Follows the height through ops, of which the first stands at place `ip`. -/
def walkOps (bundle : Bundle) (limits : Limits) (analyze : Start → Analysis (Option Summary))
    (source : Nat) : (ip : Nat) → List Op → (height peak : Nat) → Analysis Summary
  | _, [], height, peak => return ⟨height, peak⟩
  | ip, op :: ops, height, peak => do
    let (height, peak) ← walkOp bundle limits analyze source ip op height peak
    walkOps bundle limits analyze source (ip + 1) ops height peak

/-- Walks a start through all ops of its source. -/
def walk (bundle : Bundle) (limits : Limits) (analyze : Start → Analysis (Option Summary))
    (start : Start) : Analysis Summary :=
  match bundle.sources[start.source]? with
  | some source => walkOps bundle limits analyze start.source 0 source.ops start.height start.height
  | none => return ⟨start.height, start.height⟩

/-- What is known of a start: what an earlier walk found, none if it is being walked, and otherwise
what `fresh` finds, which is kept. -/
def consult (fresh : Start → Analysis Summary) (start : Start) : Analysis (Option Summary) := do
  let ledger ← get
  match ledger.finished.lookup start with
  | some summary => return some summary
  | none =>
    if start ∈ ledger.active then return none
    else do
      set { ledger with active := start :: ledger.active }
      let summary ← fresh start
      modify fun ledger =>
        { ledger with
          finished := (start, summary) :: ledger.finished
          active := ledger.active.erase start }
      return some summary

/-- Analyzes a start, with at most `depth` walks nested in each other. -/
def analyze (bundle : Bundle) (limits : Limits) : (depth : Nat) → Start → Analysis (Option Summary)
  | 0 => consult fun _ => throw .unfinished
  | depth + 1 => consult (walk bundle limits (analyze bundle limits depth))

/-- What is known of one entrypoint: the words that it leaves and the greatest height of a frame. -/
structure EntrypointReport where
  source : Nat
  outputs : Nat
  maxStack : Nat
  deriving DecidableEq

/-- Analyzes entrypoints in order, the first of which is source `index`, and checks that each
leaves enough words. -/
def checkEntrypoints (analyze : Start → Analysis (Option Summary)) :
    (index : Nat) → (minOutputs : List Nat) → Analysis (List EntrypointReport)
  | _, [] => return []
  | index, min :: mins => do
    let summary := (← analyze ⟨index, 0⟩).getD ⟨0, 0⟩
    if summary.final < min then throw (.minOutputs index min summary.final)
    else do
      let reports ← checkEntrypoints analyze (index + 1) mins
      return ⟨index, summary.final, summary.peak⟩ :: reports

/-- Checks the ops that were put off against what their targets were found to leave. -/
def settle (finished : List (Start × Summary)) : List Deferred → Except Defect Unit
  | [] => .ok ()
  | d :: ds =>
    match finished.lookup d.target with
    | some summary =>
      if summary.final < d.needed then
        .error (.atOp d.source d.ip (.calleeOutputs d.target.source d.needed summary.final))
      else settle finished ds
    | none => settle finished ds

/-- How deep walks can nest: an entrypoint, and every start that a control-flow op can give. -/
def nestingBound (bundle : Bundle) : Nat := 16 * Nat.min 256 bundle.sources.length + 1

/-- Checks a bundle with walks nested at most `depth` deep. -/
def checkWithin (depth : Nat) (bundle : Bundle) (limits : Limits) (minOutputs : List Nat) :
    Except Defect (List EntrypointReport) :=
  if minOutputs.isEmpty then .error .noEntrypoints
  else if bundle.sources.length < minOutputs.length then
    .error (.tooManyEntrypoints minOutputs.length bundle.sources.length)
  else do
    let (reports, ledger) ←
      (checkEntrypoints (analyze bundle limits depth) 0 minOutputs).run .blank
    settle ledger.finished ledger.deferred
    return reports

/-- Checks a bundle whose first sources are entrypoints, each run from an empty stack and required
to leave at least the given number of words. -/
def check (bundle : Bundle) (limits : Limits) (minOutputs : List Nat) :
    Except Defect (List EntrypointReport) :=
  checkWithin (nestingBound bundle) bundle limits minOutputs

end Integrity

end ExprMachine
