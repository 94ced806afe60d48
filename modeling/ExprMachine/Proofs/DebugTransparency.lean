import ExprMachine.Bytecode.Builder
import ExprMachine.Proofs.Integrity.Tracking
import ExprMachine.Proofs.Run.Coupling
import Mathlib.Data.List.Forall2

/-!
# Debug ops change nothing

A `debug` op costs nothing, takes nothing and leaves nothing, so a bundle into whose sources such
ops are put anywhere (`Bundle.Annotated`) is evaluated and checked like the bundle itself
(`debug_ops_transparent`).

* Of an evaluation, all but the trail is the same. The two runs are coupled by `Hushed`, which looks
  past the trails; the second takes a step of its own at every op that was put in
  (`step_debug_triple`). Such a step spends nothing, so it cannot be the one at which the gas runs
  out: that needs no more than that the gas spent is within the limit (`step_debug_enters`).
* Of a check, acceptance and the reports are the same. Both directions follow from what the walk of
  an op that was put in gives (`walkOp_debug`): the height and the greatest height that it was met
  with. This holds as long as the height fits, which it does in every walk that a check begins.
-/

namespace ExprMachine

open Integrity

/-- The second ops are the first with `debug` ops put in. -/
inductive Annotated : List Op → List Op → Prop
  | nil : Annotated [] []
  | keep {ops ops' : List Op} (op : Op) : Annotated ops ops' → Annotated (op :: ops) (op :: ops')
  | debug {ops ops' : List Op} (mode : DebugMode) : Annotated ops ops' →
      Annotated ops (.debug mode :: ops')

/-- The sources of the second bundle are those of the first with `debug` ops put in. -/
structure Bundle.Annotated (b b' : Bundle) : Prop where
  sources : List.Forall₂ (fun s s' => ExprMachine.Annotated s.ops s'.ops) b.sources b'.sources
  constants : b'.constants = b.constants

variable {b b' : Bundle}

theorem Bundle.Annotated.length_eq (h : b.Annotated b') :
    b'.sources.length = b.sources.length := h.sources.length_eq.symm

/-- A source is in both bundles or in neither. -/
theorem Bundle.Annotated.source_cases (h : b.Annotated b') (i : Nat) :
    (b.sources[i]? = none ∧ b'.sources[i]? = none) ∨
    ∃ s s', b.sources[i]? = some s ∧ b'.sources[i]? = some s' ∧
      ExprMachine.Annotated s.ops s'.ops := by
  have hlen := h.length_eq
  by_cases hi : i < b.sources.length
  · have hi' : i < b'.sources.length := by omega
    exact .inr ⟨b.sources[i], b'.sources[i], List.getElem?_eq_getElem hi,
      List.getElem?_eq_getElem hi', h.sources.get hi hi'⟩
  · exact .inl ⟨List.getElem?_eq_none_iff.mpr (by omega), List.getElem?_eq_none_iff.mpr (by omega)⟩

theorem DebugMode.ofCode?_code (mode : DebugMode) : DebugMode.ofCode? mode.code = some mode := by
  cases mode <;> rfl

/-! ## Evaluations -/

namespace Machine

variable {σ : Type}

/-- Machines that differ at most in their trails, with the gas spent within the limit. -/
structure Hushed (m n : Machine σ) : Prop where
  gas : n.gas = m.gas
  within : m.gas.used ≤ m.gas.limit
  storage : n.storage = m.storage

/-- Any two trail entries go together. -/
def AnyEntries (_ _ : TrailEntry) : Prop := True

theorem charge_hushed (cost : Nat) :
    Coupled (Hushed (σ := σ)) (Run.charge cost) (Run.charge cost) := by
  intro m n h
  unfold Run.charge Gas.Meter.charge
  rw [h.gas]
  by_cases hc : m.gas.used + cost ≤ m.gas.limit
  · simp only [hc, ↓reduceIte]
    exact ⟨trivial, rfl, hc, h.storage⟩
  · simp only [hc, ↓reduceIte]
    exact ⟨trivial, rfl, Nat.le_refl _, h.storage⟩

variable [Storage σ]

theorem coupling_hushed : Coupling (Hushed (σ := σ)) AnyEntries where
  charge := charge_hushed
  note _ _ _ h := ⟨rfl, h.gas, h.within, h.storage⟩
  read key m n h := by
    unfold Run.read
    rw [h.storage]
    cases Storage.read m.storage key with
    | ok value => exact ⟨rfl, h⟩
    | error cause => exact ⟨rfl, h⟩
  write key value m n h :=
    ⟨rfl, h.gas, h.within, congrArg (Storage.write · key value) h.storage⟩

/-- **A `debug` op.** It costs nothing, so it is not cut off. It leaves the stack as it is and adds
its snapshot to the trail, after the line for the op itself if every op has one. -/
theorem step_debug_enters {P Q : Machine σ → Prop} {E : Fault → Machine σ → Prop} (env : Env)
    (nested : Nested σ) (rounds : Nat) {site : Site} {mode : DebugMode} {stack : Stack}
    (hwithin : ∀ m, P m → m.gas.used ≤ m.gas.limit)
    (hexec : ∀ m opcode, P m → P { m with trail := m.trail.push (.exec site opcode) })
    (hdebug : ∀ m, P m → Q { m with
      trail := m.trail.push (.debug ⟨mode, site, snapshot env site stack mode⟩) }) :
    Triple P (step env nested rounds site (.debug mode) stack)
      (fun after n => after = stack ∧ Q n) E := by
  have hlookup : Opcode.lookup (Op.debug mode).opcode = .ok .debug := rfl
  have hinputs : checkInputs .debug (Op.debug mode).operand stack.height = .ok () := rfl
  have houtputs : checkOutputs .debug (Op.debug mode).operand stack.height stack = .ok stack := by
    simp [checkOutputs, Opcode.inputs, Opcode.outputs]
  have hmode : DebugMode.ofCode? (Op.debug mode).operand.raw = some mode := mode.ofCode?_code
  have hcharge : Triple P (Run.charge (Opcode.gas .debug)) (fun _ => P) E := by
    intro m hm
    have hfits : m.gas.used + Opcode.gas .debug ≤ m.gas.limit := hwithin m hm
    simp only [Run.charge, Gas.Meter.charge, hfits, ↓reduceIte]
    exact hm
  unfold step
  rw [hlookup, lift_ok_bind]
  refine Triple.bind hcharge fun _ => ?_
  rw [hinputs, lift_ok_bind]
  refine Triple.bind (R := fun _ => P) ?_ fun _ => ?_
  · unfold Run.trace
    split
    · exact fun m hm => hexec m _ hm
    · exact Triple.ret fun _ h => h
  simp only [perform, hmode, bind_assoc, pure_bind, houtputs]
  exact Triple.bind (R := fun _ => Q) hdebug fun _ n hn => ⟨rfl, hn⟩

/-- **An op that was put in.** It leaves the stack, the gas and the storage as they are. -/
theorem step_debug_triple (env : Env) (nested : Nested σ) (rounds : Nat) (site : Site)
    (mode : DebugMode) (stack : Stack) (m : Machine σ) :
    Triple (Hushed m) (step env nested rounds site (.debug mode) stack)
      (fun after n => after = stack ∧ Hushed m n) (fun _ _ => False) := by
  have hnote (entry : TrailEntry) (n : Machine σ) (h : Hushed m n) :
      Hushed m { n with trail := n.trail.push entry } := ⟨h.gas, h.within, h.storage⟩
  refine step_debug_enters env nested rounds (fun n h => ?_) (fun n _ => hnote _ n) (hnote _)
  rw [h.gas]
  exact h.within

/-! ## Runs -/

variable {env env' : Env} {nested nested' : Nested σ}

/-- The same evaluation of a bundle and of one with `debug` ops put in. -/
structure AnnotatedEnv (env env' : Env) : Prop where
  bundle : env.bundle.Annotated env'.bundle
  context : env.context = env'.context
  limits : env.limits = env'.limits
  traced : env.traced = env'.traced

theorem AnnotatedEnv.echoes (h : AnnotatedEnv env env') (site site' : Site) :
    Echoes AnyEntries env env' site site' :=
  ⟨h.bundle.constants.symm, h.context, h.traced, fun _ => trivial, fun _ _ => trivial⟩

theorem runOps_annotated (he : AnnotatedEnv env env')
    (hn : ∀ source inputs, Coupled Hushed (nested source inputs) (nested' source inputs))
    (rounds source depth : Nat) {ops ops' : List Op} (h : Annotated ops ops') (ip ip' : Nat)
    (stack : Stack) :
    Coupled Hushed (runOps env nested rounds source depth ip ops stack)
      (runOps env' nested' rounds source depth ip' ops' stack) := by
  induction h generalizing ip ip' stack with
  | nil => exact Coupled.ret stack
  | keep op _ ih =>
    exact Coupled.bind (step_coupled coupling_hushed hn (he.echoes _ _) rounds op stack)
      fun after => ih (ip + 1) (ip' + 1) after
  | debug mode _ ih =>
    exact Coupled.bind_right (step_debug_triple env' nested' rounds _ mode stack)
      (ih ip (ip' + 1) stack)

theorem runFrame_annotated (he : AnnotatedEnv env env')
    (hn : ∀ source inputs, Coupled Hushed (nested source inputs) (nested' source inputs))
    (rounds depth source : Nat) (stack : Stack) :
    Coupled Hushed (runFrame env nested rounds depth source stack)
      (runFrame env' nested' rounds depth source stack) := by
  unfold runFrame Bundle.source
  rcases he.bundle.source_cases source with ⟨hs, hs'⟩ | ⟨s, s', hs, hs', hops⟩
  · rw [hs, hs']
    exact fun m n h => ⟨rfl, h⟩
  · rw [hs, hs']
    simp only [lift_ok_bind]
    exact runOps_annotated he hn rounds source depth hops 0 0 stack

/-- **Runs of the two bundles.** By induction on the room that is left for frames. -/
theorem runSource_annotated (he : AnnotatedEnv env env') (rounds room depth source : Nat)
    (stack : Stack) :
    Coupled (Hushed (σ := σ)) (runSource env rounds room depth source stack)
      (runSource env' rounds room depth source stack) := by
  induction room generalizing depth source stack with
  | zero =>
    refine runFrame_annotated he (fun _ _ => ?_) rounds depth source stack
    rw [he.limits]
    exact Coupled.fail _
  | succ room ih =>
    exact runFrame_annotated he (openFrame_coupled coupling_hushed he.limits
      fun s st => ih (depth + 1) s st) rounds depth source stack

theorem evaluate_annotated (h : b.Annotated b') (limits : Limits) (source : Nat)
    (context : Context) (caller : Word) (maxOutputs : Option Nat) (store : Store) (gasLimit : Nat)
    (traced : Bool) :
    (evaluate limits ⟨b', source, context, caller, maxOutputs⟩ store gasLimit traced).outcome =
      (evaluate limits ⟨b, source, context, caller, maxOutputs⟩ store gasLimit traced).outcome ∧
    (evaluate limits ⟨b', source, context, caller, maxOutputs⟩ store gasLimit traced).gasUsed =
      (evaluate limits ⟨b, source, context, caller, maxOutputs⟩ store gasLimit traced).gasUsed := by
  have he : AnnotatedEnv ⟨b, context, limits.clamped, traced⟩
      ⟨b', context, limits.clamped, traced⟩ := ⟨h, rfl, rfl, rfl⟩
  have hrun := runSource_annotated (σ := Overlay) he (gasLimit + 1) limits.clamped.maxCallDepth 0
    source (.empty limits.clamped.maxStack)
  obtain ⟨houtcome, hgas, -⟩ := evaluate_coupled limits ⟨b, source, context, caller, maxOutputs⟩
    ⟨b', source, context, caller, maxOutputs⟩ store store gasLimit traced hrun
    ⟨rfl, Nat.zero_le _, rfl⟩ rfl (fun m n hmn => by rw [hmn.gas])
    (fun m n hmn => by rw [hmn.storage])
  exact ⟨houtcome.symm, hgas.symm⟩

end Machine

/-! ## Checks -/

namespace Integrity

variable {limits : Limits} {consult consult' : Start → Analysis (Option Summary)}

/-- **The walk of an op that was put in.** It gives what it was met with. -/
theorem walkOp_debug (b : Bundle) (consult : Start → Analysis (Option Summary)) (source ip : Nat)
    (mode : DebugMode) {height peak : Nat} (hfit : height ≤ limits.maxStack)
    (hpeak : height ≤ peak) :
    walkOp b limits consult source ip (.debug mode) height peak = pure (height, peak) := by
  have hopcode : Opcode.ofId? (Op.debug mode).opcode = some .debug := rfl
  have hmode : DebugMode.ofCode? (Op.debug mode).operand.raw = some mode := mode.ofCode?_code
  have hmax : Nat.max (Nat.max peak 0) height = peak := by
    simp only [Nat.max_def]
    split <;> split <;> omega
  simp only [walkOp, hopcode, examine, hmode, Opcode.admits, Opcode.variadicMin?, Opcode.inputs,
    Opcode.outputs, Nat.not_lt_zero, Nat.sub_zero, Nat.add_zero, Nat.not_lt.mpr hfit, pure_bind,
    hmax, Bool.not_true, Bool.false_eq_true, ↓reduceIte]

/-- The same ops, with `debug` ops put in on either side. Other than `Annotated` this has no
direction, so that one walk serves for both. -/
inductive SameButDebug : List Op → List Op → Prop
  | nil : SameButDebug [] []
  | keep {ops ops' : List Op} (op : Op) : SameButDebug ops ops' →
      SameButDebug (op :: ops) (op :: ops')
  | left {ops ops' : List Op} (mode : DebugMode) : SameButDebug ops ops' →
      SameButDebug (.debug mode :: ops) ops'
  | right {ops ops' : List Op} (mode : DebugMode) : SameButDebug ops ops' →
      SameButDebug ops (.debug mode :: ops')

theorem SameButDebug.of_annotated {ops ops' : List Op} (h : Annotated ops ops') :
    SameButDebug ops ops' := by
  induction h with
  | nil => exact .nil
  | keep op _ ih => exact .keep op ih
  | debug mode _ ih => exact .right mode ih

theorem SameButDebug.symm {ops ops' : List Op} (h : SameButDebug ops ops') :
    SameButDebug ops' ops := by
  induction h with
  | nil => exact .nil
  | keep op _ ih => exact .keep op ih
  | left mode _ ih => exact .right mode ih
  | right mode _ ih => exact .left mode ih

theorem walkOps_tracks (hroom : Roomier b b' limits limits)
    (hn : ∀ q, Comparable b limits q → Tracks (consult q) (consult' q)) (source : Nat)
    {ops ops' : List Op} (h : SameButDebug ops ops') (ip ip' : Nat) {height peak : Nat}
    (hfit : height ≤ limits.maxStack) (hpeak : height ≤ peak) :
    Tracks (walkOps b limits consult source ip ops height peak)
      (walkOps b' limits consult' source ip' ops' height peak) := by
  induction h generalizing ip ip' height peak with
  | nil => exact Tracks.ret _
  | keep op _ ih =>
    refine (walkOp_tracks hroom hn source ip ip' op peak hfit).bind_of_returns
      fun r l k hr => ?_
    obtain ⟨hfit', hpeak'⟩ := walkOp_returns hr
    exact ih (ip + 1) (ip' + 1) hfit' hpeak'
  | left mode _ ih =>
    simp only [walkOps, walkOp_debug b consult source ip mode hfit hpeak, pure_bind]
    exact ih (ip + 1) ip' hfit hpeak
  | right mode _ ih =>
    simp only [walkOps, walkOp_debug b' consult' source ip' mode hfit hpeak, pure_bind]
    exact ih ip (ip' + 1) hfit hpeak

/-- What is accepted stays accepted with the same reports when `debug` ops are put in or out. -/
theorem check_sameButDebug
    (hsources : List.Forall₂ (fun s s' => SameButDebug s.ops s'.ops) b.sources b'.sources)
    (hconstants : b.constants = b'.constants) {mins : List Nat} {reports : List EntrypointReport}
    (hcheck : check b limits mins = .ok reports) : check b' limits mins = .ok reports := by
  have hlen := hsources.length_eq
  have hroom : Roomier b b' limits limits :=
    ⟨Nat.le_of_eq hlen, Nat.le_of_eq (by rw [hconstants]), Nat.le_refl _⟩
  refine check_tracks hroom (fun consult consult' hn p hp => ?_) hcheck
  have hp' : p.source < b'.sources.length := hlen ▸ hp.source
  unfold walk
  rw [List.getElem?_eq_getElem hp.source, List.getElem?_eq_getElem hp']
  exact walkOps_tracks hroom hn p.source (hsources.get hp.source hp') 0 0 hp.height
    (Nat.le_refl _)

theorem check_annotated (h : b.Annotated b') (limits : Limits) (mins : List Nat)
    (reports : List EntrypointReport) :
    check b' limits mins = .ok reports ↔ check b limits mins = .ok reports := by
  have hsources := h.sources.imp fun _ _ hops => SameButDebug.of_annotated hops
  constructor
  · exact check_sameButDebug (hsources.flip.imp fun _ _ hops => hops.symm) h.constants
  · exact check_sameButDebug hsources h.constants.symm

end Integrity

/-- **Debug ops are transparent.** A bundle with `debug` ops put in gives the same output or the
same fault and spends the same gas, whatever it is evaluated with, and is accepted with the same
reports or not accepted either. -/
theorem debug_ops_transparent (h : b.Annotated b') :
    (∀ (limits : Limits) (source : Nat) (context : Context) (caller : Word)
      (maxOutputs : Option Nat) (store : Store) (gasLimit : Nat) (traced : Bool),
      (Machine.evaluate limits ⟨b', source, context, caller, maxOutputs⟩ store gasLimit
          traced).outcome =
        (Machine.evaluate limits ⟨b, source, context, caller, maxOutputs⟩ store gasLimit
          traced).outcome ∧
      (Machine.evaluate limits ⟨b', source, context, caller, maxOutputs⟩ store gasLimit
          traced).gasUsed =
        (Machine.evaluate limits ⟨b, source, context, caller, maxOutputs⟩ store gasLimit
          traced).gasUsed) ∧
    ∀ (limits : Limits) (mins : List Nat) (reports : List EntrypointReport),
      check b' limits mins = .ok reports ↔ check b limits mins = .ok reports :=
  ⟨Machine.evaluate_annotated h, check_annotated h⟩

/-- The first source runs the second in a `do-while` whose condition is never zero. -/
def endlessBundle : Bundle := ⟨[⟨[.ofRaw 0 1, .ofRaw 4 1]⟩, ⟨[.ofRaw 0 1]⟩], [1#256]⟩

/-- The same with `debug` ops before the loop and on either end of its body. -/
def annotatedEndlessBundle : Bundle :=
  ⟨[⟨[.ofRaw 0 1, .debug .stack, .ofRaw 4 1]⟩, ⟨[.debug .state, .ofRaw 0 1, .debug .context]⟩],
    [1#256]⟩

/-- The loop is cut off in both by the same gas. -/
theorem endlessBundle_transparent :
    (Machine.evaluate .standard ⟨annotatedEndlessBundle, 0, .empty, 0#256, none⟩ (.empty .none) 23
      false).outcome = .error .outOfGas ∧
    (Machine.evaluate .standard ⟨annotatedEndlessBundle, 0, .empty, 0#256, none⟩ (.empty .none) 23
      false).gasUsed = 23 ∧
    check annotatedEndlessBundle .standard [0] = .ok [⟨0, 0, 1⟩] := by
  have h : endlessBundle.Annotated annotatedEndlessBundle :=
    ⟨.cons (.keep _ (.debug _ (.keep _ .nil))) (.cons (.debug _ (.keep _ (.debug _ .nil))) .nil),
      rfl⟩
  obtain ⟨heval, hcheck⟩ := debug_ops_transparent h
  obtain ⟨houtcome, hgas⟩ := heval .standard 0 .empty 0#256 none (.empty .none) 23 false
  rw [houtcome, hgas]
  exact ⟨rfl, rfl, (hcheck .standard [0] [⟨0, 0, 1⟩]).mpr rfl⟩

end ExprMachine
