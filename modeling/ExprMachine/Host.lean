import ExprMachine.Config
import ExprMachine.Integrity
import ExprMachine.Machine.Evaluate
import ExprMachine.Notice

/-!
# The host

A host keeps deployed bundles and a store, and evaluates entrypoints of the one against the other.

* `deploy` checks a bundle and keeps it under its id, together with the least numbers of words that
  its entrypoints have to leave. A bundle that is known already is checked and otherwise left as it
  was first deployed.
* `evaluate` runs an entrypoint and commits what it wrote under the caller. An evaluation that fails
  commits nothing.

Every operation says what it reports to the log (`Reply.notices`).
-/

namespace ExprMachine

/-- A deployed bundle and the least number of words that each of its entrypoints leaves. -/
structure Deployed where
  bundle : Bundle
  minOutputs : List Nat
  deriving DecidableEq

/-- Deployed bundles and a store. -/
structure Host where
  config : Config
  expressions : List (ExpressionId × Deployed)
  store : Store
  /-- Whether every op that runs is reported. -/
  traced : Bool

/-- What came of an operation of a host. -/
structure Reply (α : Type) where
  outcome : Except Fault α
  host : Host
  notices : List Notice
  /-- The snapshots that were taken. -/
  events : List DebugEvent

namespace Host

/-- A host without bundles. -/
def new (config : Config) (store : Store) (traced : Bool) : Host := ⟨config, [], store, traced⟩

/-- The bundle with the given id. -/
def find? (h : Host) (id : ExpressionId) : Option Deployed := h.expressions.lookup id

/-- Checks a bundle and keeps it. Its first sources, one for each number, are its entrypoints. -/
def deploy (h : Host) (bundle : Bundle) (minOutputs : List Nat) : Reply ExpressionId :=
  match Integrity.check bundle h.config.limits minOutputs with
  | .error defect => ⟨.error (.integrity defect), h, [], []⟩
  | .ok reports =>
    let id := bundle.id
    match h.find? id with
    | some _ => ⟨.ok id, h, [.redeployed id], []⟩
    | none =>
      ⟨.ok id, { h with expressions := (id, ⟨bundle, minOutputs⟩) :: h.expressions },
        [.deployed id bundle.sources.length bundle.constants.length reports.length], []⟩

/-- What a trail reports; snapshots are reported only if they go into the log. -/
def trailNotices (sink : DebugSink) (trail : List TrailEntry) : List Notice :=
  (trail.filter fun entry => sink = .log ∨ entry.event? = none).map .trail

/-- Commits an evaluation's writes. -/
def settle (h : Host) (id : ExpressionId) (entrypoint : Nat) (caller : Word)
    (output : Machine.Output) (notices : List Notice) (events : List DebugEvent) :
    Reply Machine.Output :=
  let commit := h.store.commit caller output.writes
  let h := { h with store := commit.store }
  let notices := notices ++ commit.failedUndos.map .undoFailed
  match commit.outcome with
  | .error e => ⟨.error (.store e), h, notices, events⟩
  | .ok _ =>
    ⟨.ok output, h, notices ++ [.evaluated id entrypoint output.stack.length output.writes.length
      output.gasUsed], events⟩

/-- Evaluates an entrypoint, with snapshots going to the given sink, and commits what it wrote. -/
def evaluateInto (h : Host) (sink : DebugSink) (id : ExpressionId) (entrypoint : Nat)
    (context : Context) (caller : Word) : Reply Machine.Output :=
  match h.find? id with
  | none => ⟨.error (.unknownExpression id), h, [], []⟩
  | some deployed =>
    match deployed.minOutputs[entrypoint]? with
    | none => ⟨.error (.unknownEntrypoint entrypoint), h, [], []⟩
    | some min =>
      let evaluation := Machine.evaluate h.config.limits
        ⟨deployed.bundle, entrypoint, context, caller, none⟩ h.store h.config.gasLimit h.traced
      let notices := trailNotices sink evaluation.trail
      match evaluation.outcome with
      | .error e =>
        ⟨.error e, h, notices ++ [.failed id entrypoint evaluation.gasUsed e], evaluation.events⟩
      | .ok output =>
        if output.stack.length < min then
          ⟨.error (.insufficientOutputs entrypoint min output.stack.length), h, notices,
            evaluation.events⟩
        else h.settle id entrypoint caller output notices evaluation.events

/-- Evaluates an entrypoint, with snapshots going where the host is configured to send them. -/
def evaluate (h : Host) (id : ExpressionId) (entrypoint : Nat) (context : Context)
    (caller : Word) : Reply Machine.Output :=
  h.evaluateInto h.config.debugSink id entrypoint context caller

end Host

end ExprMachine
