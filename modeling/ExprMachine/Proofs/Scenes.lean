import ExprMachine.Proofs.Heights
import ExprMachine.Proofs.Run.Simulation
import Mathlib.Data.List.Chain

/-!
# Scenes

A run leaves a result and a trail, but not the frames that it opened and closed on the way. `watch`
evaluates a request and writes them down: at every boundary between two ops, before the first and
after the last, in the first frame and in every nested one, it notes which frames are open, where
the innermost of them stands and which words it holds (`Scene`). The notes are kept beside the
storage, where no op looks at them.

* `sightings`: every scene, with no more than the number of open frames and the height of the
  innermost.
* `scenes`: those at which an op is about to run.
* `Stacked b first frames`: the open frames, innermost first, are a chain of control-flow ops that
  begins with `first`.
* `Scene.Placed`: the frames of a scene are such a chain and no more than the limit allows, and its
  words are as many as its place has and fit.

Watching changes nothing (`watch_evaluation`): the evaluation that is watched is the one that
`evaluate` gives, in its outcome, its gas and its trail. A scene does not take the number of open
frames from the run. It keeps their starts, and the run is told how many there are. So this also
says that the depth which a run counts is the number of its open frames, at every op of every frame,
after as many returns as there may have been.
-/

namespace ExprMachine

open Integrity

/-- A frame between two ops: the starts of the frames below it, innermost first, its own start, the
op that comes next, and its words. -/
structure Scene where
  below : List Start
  start : Start
  ip : Nat
  words : List Word

/-- A frame between two ops: what it was started with, the op that comes next, how many frames are
open below it, and how many words it holds. -/
structure Sighting where
  start : Start
  ip : Nat
  depth : Nat
  height : Nat
  deriving DecidableEq

namespace Scene

/-- Where the op of a scene stands. -/
def site (v : Scene) : Site := ⟨v.start.source, v.ip, v.below.length⟩

/-- The op that comes next; none at the end of the source. -/
def op? (b : Bundle) (v : Scene) : Option Op := (v.start.ops b)[v.ip]?

/-- A scene without its frames and its words, of which only the numbers are kept. -/
def sighting (v : Scene) : Sighting := ⟨v.start, v.ip, v.below.length, v.words.length⟩

end Scene

/-- Storage, and the scenes so far. -/
structure Watched (σ : Type) where
  storage : σ
  scenes : List Scene

instance {σ : Type} [Storage σ] : Storage (Watched σ) where
  read w key := Storage.read w.storage key
  write w key value := { w with storage := Storage.write w.storage key value }

/-- The scenes so far, as sightings. -/
def Watched.sightings {σ : Type} (w : Watched σ) : List Sighting := w.scenes.map Scene.sighting

namespace Machine

variable {σ : Type}

/-- The machine with one more scene. -/
def staged (v : Scene) (m : Machine (Watched σ)) : Machine (Watched σ) :=
  { m with storage := { m.storage with scenes := m.storage.scenes ++ [v] } }

/-- Notes a scene. -/
def shoot (v : Scene) : Run (Watched σ) Unit := fun m => .ok () (m.staged v)

theorem staged_sightings (v : Scene) (m : Machine (Watched σ)) :
    (m.staged v).storage.sightings = m.storage.sightings ++ [v.sighting] := List.map_append

variable [Storage σ]

/-- Runs ops one after the other, and notes the scene before each and at the end. -/
def watchOps (env : Env) (nested : Nested (Watched σ)) (rounds : Nat) (below : List Start)
    (start : Start) : (ip : Nat) → List Op → Stack → Run (Watched σ) Stack
  | ip, [], stack => do
    shoot ⟨below, start, ip, stack.words⟩
    pure stack
  | ip, op :: ops, stack => do
    let scene : Scene := ⟨below, start, ip, stack.words⟩
    shoot scene
    let stack ← step env nested rounds scene.site op stack
    watchOps env nested rounds below start (ip + 1) ops stack

/-- Runs the source of a start on the given stack, watched. -/
def watchFrame (env : Env) (nested : Nested (Watched σ)) (rounds : Nat) (below : List Start)
    (start : Start) (stack : Stack) : Run (Watched σ) Stack := do
  let target ← env.bundle.source start.source
  watchOps env nested rounds below start 0 target.ops stack

/-- Runs a source above the given frames, with room for `room` more, all of them watched. -/
def watchSource (env : Env) (rounds : Nat) :
    (room : Nat) → (below : List Start) → (source : Nat) → Stack → Run (Watched σ) Stack
  | 0, below, source, stack =>
    watchFrame env (fun _ _ => throw (.callDepth env.limits.maxCallDepth)) rounds below
      ⟨source, stack.height⟩ stack
  | room + 1, below, source, stack =>
    watchFrame env (openFrame env (watchSource env rounds room (⟨source, stack.height⟩ :: below)))
      rounds below ⟨source, stack.height⟩ stack

/-- A frame is as its ops are, or its source does not exist. -/
theorem watchFrame_of_ops {env : Env} {nested : Nested (Watched σ)} {rounds : Nat}
    {below : List Start} {start : Start} {stack : Stack} {P : Machine (Watched σ) → Prop}
    {Q : Stack → Machine (Watched σ) → Prop} {E : Fault → Machine (Watched σ) → Prop}
    (hmissing : env.bundle.sources.length ≤ start.source →
      ∀ m, P m → E (.sourceOutOfRange start.source) m)
    (hops : Triple P (watchOps env nested rounds below start 0 (start.ops env.bundle) stack) Q E) :
    Triple P (watchFrame env nested rounds below start stack) Q E := by
  unfold watchFrame Bundle.source
  cases hsource : env.bundle.sources[start.source]? with
  | none => exact Triple.fail (hmissing (List.getElem?_eq_none_iff.mp hsource))
  | some target =>
    rw [Start.ops_eq hsource] at hops
    exact hops

/-- What a request is evaluated in. -/
def envOf (limits : Limits) (request : Request) (traced : Bool) : Env :=
  ⟨request.bundle, request.context, limits.clamped, traced⟩

/-- A machine that has not run. -/
def watchedStart (request : Request) (store : Store) (gasLimit : Nat) : Machine (Watched Overlay) :=
  ⟨.fresh gasLimit, ⟨.start store request.caller, []⟩, #[]⟩

section Evaluations

variable (limits : Limits) (request : Request) (store : Store) (gasLimit : Nat) (traced : Bool)

/-- How a watched evaluation ends. -/
def watchedEnd : EStateM.Result Fault (Machine (Watched Overlay)) Stack :=
  watchSource (envOf limits request traced) (gasLimit + 1) limits.clamped.maxCallDepth []
    request.source (.empty limits.clamped.maxStack) (watchedStart request store gasLimit)

/-- Evaluates a request and gives, besides what came of it, every scene in order. -/
def watch : Evaluation × List Scene :=
  match watchedEnd limits request store gasLimit traced with
  | .ok stack m =>
    (⟨.ok ⟨keepTop request.maxOutputs stack.words, m.storage.storage.writes, m.gas.used⟩,
      m.gas.used, m.trail.toList⟩, m.storage.scenes)
  | .error e m => (⟨.error e, m.gas.used, m.trail.toList⟩, m.storage.scenes)

/-- Every frame of an evaluation at every boundary between two ops. -/
def sightings : List Sighting :=
  (watch limits request store gasLimit traced).2.map Scene.sighting

/-- Every op that an evaluation runs, in order. -/
def scenes : List Scene :=
  (watch limits request store gasLimit traced).2.filter fun v => (v.op? request.bundle).isSome

end Evaluations

/-! ## Watching changes nothing -/

/-- The storage below the scenes. -/
def Beneath (w : Watched σ) (s : σ) : Prop := w.storage = s

omit [Storage σ] in
theorem shoot_agree {α : Type} (v : Scene) {x : Run (Watched σ) α} {y : Run σ α}
    (h : Agree Beneath x y) : Agree Beneath (shoot v >>= fun _ => x) y :=
  fun m n hl => h (m.staged v) n ⟨hl.gas, hl.trail, hl.storage⟩

theorem alike_beneath : Alike (Beneath (σ := σ)) where
  read key h := by rw [← h]; rfl
  write key value h := by rw [← h]; rfl

theorem watchOps_agree (env : Env) {nested : Nested (Watched σ)} {nested' : Nested σ}
    (hn : ∀ source inputs, Agree Beneath (nested source inputs) (nested' source inputs))
    (rounds : Nat) (below : List Start) (start : Start) (ip : Nat) (ops : List Op)
    (stack : Stack) :
    Agree Beneath (watchOps env nested rounds below start ip ops stack)
      (runOps env nested' rounds start.source below.length ip ops stack) := by
  induction ops generalizing ip stack with
  | nil => exact shoot_agree _ (Agree.ret stack)
  | cons op ops ih =>
    refine shoot_agree _ (Agree.bind (step_agree alike_beneath hn env rounds _ op stack) ?_)
    exact fun after => ih (ip + 1) after

theorem watchFrame_agree (env : Env) {nested : Nested (Watched σ)} {nested' : Nested σ}
    (hn : ∀ source inputs, Agree Beneath (nested source inputs) (nested' source inputs))
    (rounds : Nat) (below : List Start) (start : Start) (stack : Stack) :
    Agree Beneath (watchFrame env nested rounds below start stack)
      (runFrame env nested' rounds below.length start.source stack) :=
  Agree.bind (Agree.lift _) fun target =>
    watchOps_agree env hn rounds below start 0 target.ops stack

theorem watchSource_agree (env : Env) (rounds room : Nat) (below : List Start) (source : Nat)
    (stack : Stack) :
    Agree Beneath (watchSource (σ := σ) env rounds room below source stack)
      (runSource env rounds room below.length source stack) := by
  induction room generalizing below source stack with
  | zero => exact watchFrame_agree env (fun _ _ => Agree.fail _) rounds below _ stack
  | succ room ih =>
    refine watchFrame_agree env (openFrame_agree alike_beneath env fun s st => ?_) rounds below _
      stack
    exact ih (⟨source, stack.height⟩ :: below) s st

variable (limits : Limits) (request : Request) (store : Store) (gasLimit : Nat) (traced : Bool)

/-- **Watching changes nothing.** A watched evaluation is the evaluation. -/
theorem watch_evaluation :
    (watch limits request store gasLimit traced).1 =
      evaluate limits request store gasLimit traced := by
  have h := watchSource_agree (envOf limits request traced) (gasLimit + 1)
    limits.clamped.maxCallDepth [] request.source (.empty limits.clamped.maxStack)
    (watchedStart request store gasLimit)
    ⟨.fresh gasLimit, .start store request.caller, #[]⟩ ⟨rfl, rfl, rfl⟩
  unfold watch watchedEnd evaluate evaluateWithin
  simp only [envOf, List.length_nil] at h ⊢
  generalize watchSource (σ := Overlay) _ _ _ _ _ _ _ = watched at h ⊢
  generalize runSource (σ := Overlay) _ _ _ _ _ _ _ = plain at h ⊢
  match watched, plain, h with
  | .ok stack m, .ok _ m', ⟨rfl, hgas, htrail, hstore⟩ =>
    simp only [hgas, htrail, show m.storage.storage = m'.storage from hstore]
  | .error e m, .error _ m', ⟨rfl, hgas, htrail, _⟩ =>
    simp only [hgas, htrail]

/-- What holds where a watched evaluation ends holds of a machine that has the evaluation's trail
and its scenes. -/
theorem watch_ends {I : Machine (Watched Overlay) → Prop}
    (h : Ends (watchedEnd limits request store gasLimit traced) (fun _ => I) fun _ => I) :
    ∃ m, I m ∧ (evaluate limits request store gasLimit traced).trail = m.trail.toList ∧
      (watch limits request store gasLimit traced).2 = m.storage.scenes := by
  rw [← watch_evaluation]
  unfold watch
  cases hw : watchedEnd limits request store gasLimit traced with
  | ok stack m =>
    rw [hw] at h
    exact ⟨m, h, rfl, rfl⟩
  | error e m =>
    rw [hw] at h
    exact ⟨m, h, rfl, rfl⟩

end Machine

/-! ## Where scenes are -/

/-- Open frames, innermost first (module doc). -/
structure Stacked (b : Bundle) (first : Start) (frames : List Start) : Prop where
  chain : List.IsChain (fun q p => Calls b p q) frames
  outermost : frames.getLast? = some first

namespace Stacked

variable {b : Bundle} {first p q : Start} {below : List Start}

theorem single (b : Bundle) (first : Start) : Stacked b first [first] :=
  ⟨List.isChain_singleton _, rfl⟩

theorem push (h : Stacked b first (p :: below)) (hcall : Calls b p q) :
    Stacked b first (q :: p :: below) :=
  ⟨List.isChain_cons_cons.mpr ⟨hcall, h.chain⟩, by rw [List.getLast?_cons_cons, h.outermost]⟩

/-- The outermost frame reaches the innermost. By induction on the frames below that. -/
theorem reaches (h : Stacked b first (q :: below)) : Reaches b first q := by
  induction below generalizing q with
  | nil =>
    obtain rfl : q = first := Option.some.inj h.outermost
    exact Reaches.refl q
  | cons p below ih =>
    obtain ⟨hcall, hchain⟩ := List.isChain_cons_cons.mp h.chain
    have houtermost := h.outermost
    rw [List.getLast?_cons_cons] at houtermost
    exact (ih ⟨hchain, houtermost⟩).tail hcall

end Stacked

/-- Where a scene can be (module doc). -/
structure Scene.Placed (b : Bundle) (limits : Limits) (first : Start) (v : Scene) : Prop where
  frames : Stacked b first (v.start :: v.below)
  depth : v.below.length ≤ limits.maxCallDepth
  height : v.words.length = v.start.heightAt b v.ip
  fits : v.words.length ≤ limits.maxStack

end ExprMachine
