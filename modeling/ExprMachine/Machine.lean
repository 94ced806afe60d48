import ExprMachine.Bytecode.Bundle
import ExprMachine.Calc
import ExprMachine.Context
import ExprMachine.Gas
import ExprMachine.Limits
import ExprMachine.Stack
import ExprMachine.Store.Overlay
import ExprMachine.Trail

/-!
# The machine

What a run reads (`Env`), what it changes besides the stacks of its frames (`Machine`), and the
steps that it is built from (`Run`). A run that fails keeps what it changed before: the gas that it
spent and the trail that it left.

A run reaches storage only through `Storage`, so the same machine runs over an overlay, whose
writes wait for a commit, and over any other kind of storage.
-/

namespace ExprMachine

/-- Storage as one caller sees it: a word for every key. -/
class Storage (σ : Type) where
  read : σ → Word → Except StoreFault Word
  write : σ → Word → Word → σ

instance : Storage Overlay where
  read := Overlay.get
  write := Overlay.set

/-- What a run reads and never changes. -/
structure Env where
  bundle : Bundle
  context : Context
  limits : Limits
  /-- Whether every op is entered in the trail, or `debug` ops only. -/
  traced : Bool

/-- What a run changes besides the stacks of its frames. -/
structure Machine (σ : Type) where
  gas : Gas.Meter
  storage : σ
  trail : Array TrailEntry

/-- A step of a run: it ends with a value or a fault, and in either case with a machine. -/
abbrev Run (σ α : Type) := EStateM Fault (Machine σ) α

namespace Run

variable {σ α : Type}

/-- A step that changes nothing. -/
def lift (x : Except Fault α) : Run σ α := fun m =>
  match x with
  | .ok a => .ok a m
  | .error e => .error e m

instance : MonadLift (Except Fault) (EStateM Fault (Machine σ)) := ⟨lift⟩

/-- Spends gas. -/
def charge (cost : Nat) : Run σ Unit := fun m =>
  match m.gas.charge cost with
  | (.ok _, gas) => .ok () { m with gas }
  | (.error e, gas) => .error e { m with gas }

/-- Adds to the trail. -/
def note (entry : TrailEntry) : Run σ Unit := fun m =>
  .ok () { m with trail := m.trail.push entry }

/-- Adds to the trail if every op is entered there. -/
def trace (env : Env) (entry : TrailEntry) : Run σ Unit :=
  if env.traced then note entry else pure ()

/-- Reads a key. -/
def read [Storage σ] (key : Word) : Run σ Word := fun m =>
  match Storage.read m.storage key with
  | .ok value => .ok value m
  | .error e => .error (.store e) m

/-- Writes a key. -/
def write [Storage σ] (key value : Word) : Run σ Unit := fun m =>
  .ok () { m with storage := Storage.write m.storage key value }

end Run

end ExprMachine
