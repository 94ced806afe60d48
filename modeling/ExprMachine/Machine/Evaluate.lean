import ExprMachine.Machine.Step

/-!
# Evaluation

A source runs to its end, op by op; the control-flow ops among them run other sources in frames of
their own, at most `maxCallDepth` deep.

* `runOps`: the ops of a source, one after the other.
* `runSource`: a source, with room for a given number of frames nested in its own.
* `evaluate`: a source of a bundle, from an empty stack. The store is only read: what the run
  writes is part of its output.
-/

namespace ExprMachine

namespace Machine

variable {σ : Type} [Storage σ]

/-- Runs ops one after the other; the first stands at place `ip` of its source. -/
def runOps (env : Env) (nested : Nested σ) (rounds : Nat) (source depth : Nat) :
    (ip : Nat) → List Op → Stack → Run σ Stack
  | _, [], stack => pure stack
  | ip, op :: ops, stack => do
    let stack ← step env nested rounds ⟨source, ip, depth⟩ op stack
    runOps env nested rounds source depth (ip + 1) ops stack

/-- Runs the source with the given index on the given stack. -/
def runFrame (env : Env) (nested : Nested σ) (rounds : Nat) (depth source : Nat) (stack : Stack) :
    Run σ Stack := do
  let target ← env.bundle.source source
  runOps env nested rounds source depth 0 target.ops stack

/-- Pays for a frame and runs a source in it. -/
def openFrame (env : Env) (run : (source : Nat) → Stack → Run σ Stack) : Nested σ :=
  fun source inputs => do
    Run.charge (Gas.frameCost inputs.length)
    let frame ← Stack.seeded inputs env.limits.maxStack
    run source frame

/-- Runs a source with `depth` frames open below its own and room for `room` more above it. -/
def runSource (env : Env) (rounds : Nat) :
    (room depth source : Nat) → Stack → Run σ Stack
  | 0, depth, source, stack =>
    runFrame env (fun _ _ => throw (.callDepth env.limits.maxCallDepth)) rounds depth source stack
  | room + 1, depth, source, stack =>
    runFrame env (openFrame env (runSource env rounds room (depth + 1))) rounds depth source stack

/-- What is to be evaluated. -/
structure Request where
  bundle : Bundle
  source : Nat
  context : Context
  caller : Word
  /-- How many words of the final stack are kept, from the top; none keeps them all. -/
  maxOutputs : Option Nat

/-- What an evaluation gives. -/
structure Output where
  stack : List Word
  /-- Keys and values, in key order. -/
  writes : List (Word × Word)
  gasUsed : Nat
  deriving DecidableEq

/-- What came of an evaluation, and what it spent and left behind either way. -/
structure Evaluation where
  outcome : Except Fault Output
  gasUsed : Nat
  trail : List TrailEntry

/-- The snapshots of an evaluation. -/
def Evaluation.events (e : Evaluation) : List DebugEvent := e.trail.filterMap TrailEntry.event?

/-- The last `n` words, or all of them. -/
def keepTop : Option Nat → List Word → List Word
  | some n, words => words.drop (words.length - n)
  | none, words => words

/-- Evaluates a request, with at most `rounds` rounds for each `do-while`. -/
def evaluateWithin (rounds : Nat) (limits : Limits) (request : Request) (store : Store)
    (gasLimit : Nat) (traced : Bool) : Evaluation :=
  let limits := limits.clamped
  let env : Env := ⟨request.bundle, request.context, limits, traced⟩
  let machine : Machine Overlay := ⟨.fresh gasLimit, .start store request.caller, #[]⟩
  match runSource env rounds limits.maxCallDepth 0 request.source (.empty limits.maxStack) machine with
  | .ok stack m =>
    ⟨.ok ⟨keepTop request.maxOutputs stack.words, m.storage.writes, m.gas.used⟩, m.gas.used,
      m.trail.toList⟩
  | .error e m => ⟨.error e, m.gas.used, m.trail.toList⟩

/-- Evaluates a request. A `do-while` pays at least 2 for each round, so it never runs more rounds
than there is gas. -/
def evaluate (limits : Limits) (request : Request) (store : Store) (gasLimit : Nat)
    (traced : Bool) : Evaluation :=
  evaluateWithin (gasLimit + 1) limits request store gasLimit traced

end Machine

end ExprMachine
