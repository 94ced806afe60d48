import ExprMachine.Proofs.DebugTransparency
import ExprMachine.Proofs.Termination

/-!
# More sources, constants and cells

A bundle with further sources and constants at its end, and a context with further rows or longer
ones, hold all that the old ones hold at the place where it was. An evaluation that asked for
nothing beyond is therefore the same in the larger surroundings, and a bundle that was accepted is
accepted with the same reports (`extension_conservative`).

* `Bundle.Extends`, `Context.Extends`: what was there is still there.
* `Fault.OutOfRange`: the faults of an evaluation that asked for something beyond.
* `Follows x y`: a look-up gives the same in both surroundings, or is out of range in the first.
* `runSource_extended`: the two runs are side by side until the first is out of range. Their trails
  need not be the same, for a snapshot may hold all constants or all cells; so they are coupled by
  `Hushed`, which looks past the trails.
-/

namespace ExprMachine

open Integrity

/-- Something was asked for that is not there. -/
def Fault.OutOfRange : Fault → Prop
  | .sourceOutOfRange _ | .constantOutOfRange _ | .contextOutOfBounds _ _ => True
  | _ => False

/-- The second bundle has further sources and constants after those of the first. -/
structure Bundle.Extends (b b' : Bundle) : Prop where
  sources : b.sources <+: b'.sources
  constants : b.constants <+: b'.constants

/-- Every cell of the first context is one of the second, with the same word. -/
def Context.Extends (c c' : Context) : Prop :=
  ∀ row column word, c.get row column = .ok word → c'.get row column = .ok word

/-- The same answer, or one that is out of range. -/
def Follows {α : Type} (x y : Except Fault α) : Prop :=
  x = y ∨ ∃ e : Fault, e.OutOfRange ∧ x = .error e

/-! ## Look-ups -/

section LookUps

variable {b b' : Bundle} (hb : b.Extends b')

include hb

theorem Bundle.Extends.sources_getElem? {index : Nat} (hi : index < b.sources.length) :
    b'.sources[index]? = b.sources[index]? := by
  obtain ⟨extra, hextra⟩ := hb.sources
  rw [← hextra, List.getElem?_append_left hi]

theorem Bundle.Extends.source_follows (index : Nat) :
    Follows (b.source index) (b'.source index) := by
  unfold Bundle.source
  by_cases hi : index < b.sources.length
  · rw [hb.sources_getElem? hi]
    exact .inl rfl
  · have hnone : b.sources[index]? = none := List.getElem?_eq_none_iff.mpr (by omega)
    rw [hnone]
    exact .inr ⟨.sourceOutOfRange index, trivial, rfl⟩

theorem Bundle.Extends.constant_follows (index : Nat) :
    Follows (b.constant index) (b'.constant index) := by
  obtain ⟨extra, hextra⟩ := hb.constants
  unfold Bundle.constant
  by_cases hi : index < b.constants.length
  · rw [← hextra, List.getElem?_append_left hi]
    exact .inl rfl
  · have hnone : b.constants[index]? = none := List.getElem?_eq_none_iff.mpr (by omega)
    rw [hnone]
    exact .inr ⟨.constantOutOfRange index, trivial, rfl⟩

end LookUps

theorem Context.Extends.get_follows {c c' : Context} (hc : c.Extends c') (row column : Nat) :
    Follows (c.get row column) (c'.get row column) := by
  cases hget : c.get row column with
  | ok word =>
    rw [hc row column word hget]
    exact .inl rfl
  | error e =>
    unfold Context.get at hget
    split at hget
    · cases hget
    · cases hget
      exact .inr ⟨.contextOutOfBounds row column, trivial, rfl⟩

namespace Machine

/-! ## Runs -/

/-- The same evaluation in the larger surroundings. -/
structure ExtendedEnv (env env' : Env) : Prop where
  bundle : env.bundle.Extends env'.bundle
  context : env.context.Extends env'.context
  limits : env.limits = env'.limits
  traced : env.traced = env'.traced

section Runs

variable {σ : Type}

/-- Side by side until the first run is out of range. -/
abbrev InRange {α : Type} (x y : Run σ α) : Prop :=
  CoupledUntil Hushed (CutBy Fault.OutOfRange) x y

theorem lift_inRange {α : Type} {x y : Except Fault α} (h : Follows x y) :
    InRange (σ := σ) (liftM x) (liftM y) := by
  rcases h with rfl | ⟨e, he, rfl⟩
  · exact .lift x
  · constructor
    · intro m n _
      cases y with
      | ok a => exact he
      | error e' => exact .inr he
    · intro e' m n hcut
      cases y with
      | ok a => exact hcut
      | error e' => exact hcut

variable {env env' : Env} (he : ExtendedEnv env env')

include he

theorem fetch_follows (operand : Operand) (stack : Stack) :
    Follows (fetch env operand stack) (fetch env' operand stack) := by
  unfold fetch
  cases operand.region with
  | constants => exact he.bundle.constant_follows operand.index
  | stack => exact .inl rfl

/-- Every op reads what it read before, or is out of range. -/
theorem ExtendedEnv.mirrors (site : Site) (opcode : Opcode) (operand : Operand) (stack : Stack) :
    Mirrors (Hushed (σ := σ)) (CutBy Fault.OutOfRange) AnyEntries env env' site site opcode operand
      stack where
  fetch _ := lift_inRange (fetch_follows he operand stack)
  context _ := lift_inRange (he.context.get_follows operand.highByte operand.lowByte)
  traced := he.traced
  exec := trivial
  debug _ _ _ := trivial

variable [Storage σ] {nested nested' : Nested σ}

/-- The same ops in both runs. By induction on the ops. -/
theorem runOps_extended
    (hn : ∀ source inputs, InRange (nested source inputs) (nested' source inputs))
    (rounds source depth ip : Nat) (ops : List Op) (stack : Stack) :
    InRange (runOps env nested rounds source depth ip ops stack)
      (runOps env' nested' rounds source depth ip ops stack) := by
  have hR := coupling_hushed.cutBy (σ := σ) Fault.OutOfRange
  have hw (source carried : Nat) (condition : Word) (words : List Word) :=
    repeatWhile_until hn source carried rounds condition words
  induction ops generalizing ip stack with
  | nil => exact .ret stack
  | cons op ops ih =>
    have hstep := step_mirrored hR hn hw fun opcode _ =>
      he.mirrors ⟨source, ip, depth⟩ opcode op.operand stack
    exact .bind hstep fun after => ih (ip + 1) after

theorem runFrame_extended
    (hn : ∀ source inputs, InRange (nested source inputs) (nested' source inputs))
    (rounds depth source : Nat) (stack : Stack) :
    InRange (runFrame env nested rounds depth source stack)
      (runFrame env' nested' rounds depth source stack) := by
  refine .bind (lift_inRange (he.bundle.source_follows source)) fun target => ?_
  exact runOps_extended he hn rounds source depth 0 target.ops stack

/-- **A whole run.** By induction on the room that is left for frames. -/
theorem runSource_extended (rounds room depth source : Nat) (stack : Stack) :
    InRange (runSource (σ := σ) env rounds room depth source stack)
      (runSource env' rounds room depth source stack) := by
  have hR := coupling_hushed.cutBy (σ := σ) Fault.OutOfRange
  induction room generalizing depth source stack with
  | zero =>
    refine runFrame_extended he (fun _ _ => ?_) rounds depth source stack
    rw [he.limits]
    exact .fail _
  | succ room ih =>
    refine runFrame_extended he (fun source inputs => ?_) rounds depth source stack
    exact openFrame_until hR he.limits (fun s st => ih (depth + 1) s st) source inputs

end Runs

/-! ## Evaluations -/

variable {b b' : Bundle} {c c' : Context}

theorem evaluate_extended (hb : b.Extends b') (hc : c.Extends c') (limits : Limits) (source : Nat)
    (caller : Word) (maxOutputs : Option Nat) (store : Store) (gasLimit : Nat) (traced : Bool)
    (hrange : ∀ fault, (evaluate limits ⟨b, source, c, caller, maxOutputs⟩ store gasLimit
      traced).outcome = .error fault → ¬ fault.OutOfRange) :
    (evaluate limits ⟨b', source, c', caller, maxOutputs⟩ store gasLimit traced).outcome =
      (evaluate limits ⟨b, source, c, caller, maxOutputs⟩ store gasLimit traced).outcome ∧
    (evaluate limits ⟨b', source, c', caller, maxOutputs⟩ store gasLimit traced).gasUsed =
      (evaluate limits ⟨b, source, c, caller, maxOutputs⟩ store gasLimit traced).gasUsed := by
  have he : ExtendedEnv (envOf limits ⟨b, source, c, caller, maxOutputs⟩ traced)
      (envOf limits ⟨b', source, c', caller, maxOutputs⟩ traced) := ⟨hb, hc, rfl, rfl⟩
  have hends := (runSource_extended (σ := Overlay) he (gasLimit + 1) limits.clamped.maxCallDepth 0
    source (.empty limits.maxStack)).ends
    (fresh ⟨b, source, c, caller, maxOutputs⟩ store gasLimit)
    (fresh ⟨b', source, c', caller, maxOutputs⟩ store gasLimit) ⟨rfl, Nat.zero_le _, rfl⟩
  rw [evaluate, evaluateWithin_eq] at hrange
  rw [evaluate, evaluate, evaluateWithin_eq, evaluateWithin_eq]
  revert hends hrange
  generalize runSource (σ := Overlay) (envOf _ ⟨b, source, c, caller, _⟩ traced) _ _ _ _ _ _ = here
  generalize runSource (σ := Overlay) (envOf _ ⟨b', source, c', caller, _⟩ traced) _ _ _ _ _ _ =
    there
  cases here with
  | ok stack m =>
    cases there with
    | ok stack' n =>
      rintro - ⟨rfl, hmn⟩
      simp only [concluded, hmn.gas, hmn.storage, and_self]
    | error e n => exact fun _ => False.elim
  | error e m =>
    cases there with
    | ok stack n =>
      intro hrange hcut
      exact absurd hcut (hrange e rfl)
    | error e' n =>
      rintro hrange (⟨rfl, hmn⟩ | hcut)
      · simp only [concluded, hmn.gas, and_self]
      · exact absurd hcut (hrange e rfl)

end Machine

namespace Integrity

theorem check_extended {b b' : Bundle} (hb : b.Extends b') {limits : Limits} {mins : List Nat}
    {reports : List EntrypointReport} (h : check b limits mins = .ok reports) :
    check b' limits mins = .ok reports := by
  have hroom : Roomier b b' limits limits :=
    ⟨hb.sources.length_le, hb.constants.length_le, Nat.le_refl _⟩
  exact check_of_roomier hroom (fun _ hi => hb.sources_getElem? hi) h

end Integrity

/-- **Extensions are conservative.** With further sources, constants and cells, an evaluation that
was not out of range has the same outcome and uses the same gas, and a bundle that is accepted is
accepted with the same reports. -/
theorem extension_conservative {b b' : Bundle} (hb : b.Extends b') :
    (∀ (c c' : Context), c.Extends c' →
      ∀ (limits : Limits) (source : Nat) (caller : Word) (maxOutputs : Option Nat) (store : Store)
        (gasLimit : Nat) (traced : Bool),
      (∀ fault, (Machine.evaluate limits ⟨b, source, c, caller, maxOutputs⟩ store gasLimit
        traced).outcome = .error fault → ¬ fault.OutOfRange) →
      (Machine.evaluate limits ⟨b', source, c', caller, maxOutputs⟩ store gasLimit
          traced).outcome =
        (Machine.evaluate limits ⟨b, source, c, caller, maxOutputs⟩ store gasLimit
          traced).outcome ∧
      (Machine.evaluate limits ⟨b', source, c', caller, maxOutputs⟩ store gasLimit
          traced).gasUsed =
        (Machine.evaluate limits ⟨b, source, c, caller, maxOutputs⟩ store gasLimit
          traced).gasUsed) ∧
    ∀ (limits : Limits) (mins : List Nat) (reports : List EntrypointReport),
      check b limits mins = .ok reports → check b' limits mins = .ok reports :=
  ⟨fun _ _ hc => Machine.evaluate_extended hb hc, fun _ _ _ => check_extended hb⟩

/-- The first source hands a constant and a cell of the context to the second, which adds them. -/
def addingBundle : Bundle :=
  ⟨[⟨[.ofRaw 0 1, .ofRaw 1 0, .ofRaw 2 0x1201]⟩, ⟨[.ofRaw 10 2]⟩], [5#256]⟩

/-- The same with a source and a constant more. -/
def largerBundle : Bundle :=
  ⟨addingBundle.sources ++ [⟨[.ofRaw 0 3]⟩], addingBundle.constants ++ [7#256]⟩

/-- A row that got longer and a row more change nothing either, unless they are asked for: the new
source reads the new constant, which was not there before. -/
theorem largerBundle_conservative :
    (Machine.evaluate .standard ⟨largerBundle, 0, ⟨[[3#256, 4#256], [9#256]]⟩, 0#256, none⟩
      (.empty .none) 50 false).outcome = .ok ⟨[8#256], [], 23⟩ ∧
    (Machine.evaluate .standard ⟨largerBundle, 2, ⟨[[3#256, 4#256], [9#256]]⟩, 0#256, none⟩
      (.empty .none) 50 false).outcome = .ok ⟨[7#256], [], 3⟩ ∧
    (Machine.evaluate .standard ⟨addingBundle, 2, ⟨[[3#256]]⟩, 0#256, none⟩
      (.empty .none) 50 false).outcome = .error (.sourceOutOfRange 2) ∧
    check largerBundle .standard [1] = .ok [⟨0, 1, 2⟩] := by
  have hb : addingBundle.Extends largerBundle := ⟨List.prefix_append _ _, List.prefix_append _ _⟩
  have hc : Context.Extends ⟨[[3#256]]⟩ ⟨[[3#256, 4#256], [9#256]]⟩ := by
    intro row column word hget
    rcases row with _ | row
    · rcases column with _ | column
      · exact hget
      · cases hget
    · cases hget
  have houtcome : (Machine.evaluate .standard ⟨addingBundle, 0, ⟨[[3#256]]⟩, 0#256, none⟩
      (.empty .none) 50 false).outcome = .ok ⟨[8#256], [], 23⟩ := by cbv
  have hcheck : check addingBundle .standard [1] = .ok [⟨0, 1, 2⟩] := rfl
  have hrange (fault : Fault) : (Machine.evaluate .standard
      ⟨addingBundle, 0, ⟨[[3#256]]⟩, 0#256, none⟩ (.empty .none) 50 false).outcome = .error fault →
      ¬ fault.OutOfRange := by
    rw [houtcome]
    rintro ⟨⟩
  obtain ⟨hevaluate, hchecks⟩ := extension_conservative hb
  refine ⟨?_, by cbv, rfl, hchecks _ _ _ hcheck⟩
  rw [(hevaluate _ _ hc _ _ _ _ _ _ _ hrange).1]
  exact houtcome

end ExprMachine
