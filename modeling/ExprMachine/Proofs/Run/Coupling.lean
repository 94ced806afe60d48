import ExprMachine.Proofs.Run.SideBySide

/-!
# Two runs to their ends

Two runs side by side of which neither is cut off (`Proofs/Run/SideBySide.lean`): they give the same
value or the same fault, and a relation between their machines holds where they end.

* `Coupled R x y`: from machines that `R` relates, the steps `x` and `y` agree, and leave machines
  that `R` relates.
* `Coupling R T`: `R` survives spending, reading, writing, and two trail entries that `T` relates.
* `step_coupled`: an op is coupled with itself if the frames that it opens are.
* `runSource_coupled`: so is a whole run.
* `evaluate_coupled`: what coupled runs say of the evaluations that they are.
* `runSource_preserves`: what every step of a run keeps, the run keeps. That is a run beside itself.
* `CutBy P`: a cut-off that the kind of the fault alone decides. Steps that are coupled are so up to
  any such cut-off (`Coupling.cutBy`).
-/

namespace ExprMachine

/-- The same value or the same fault, from and to machines that `R` relates. -/
def Coupled {σ τ α : Type} (R : Machine σ → Machine τ → Prop) (x : Run σ α) (y : Run τ α) : Prop :=
  ∀ m n, R m n →
    match x m, y n with
    | .ok a m', .ok b n' => a = b ∧ R m' n'
    | .error e m', .error e' n' => e = e' ∧ R m' n'
    | _, _ => False

/-- No cut-off. -/
def Never {σ τ : Type} (_ : Fault) (_ : Machine σ) (_ : Machine τ) : Prop := False

theorem coupledUntil_never_iff {σ τ α : Type} {R : Machine σ → Machine τ → Prop} {x : Run σ α}
    {y : Run τ α} : CoupledUntil R Never x y ↔ Coupled R x y := by
  constructor
  · intro h m n hmn
    have hends := h.ends m n hmn
    revert hends
    cases x m <;> cases y n <;> simp [SideBySide, Never]
  · intro h
    refine ⟨fun m n hmn => ?_, fun _ _ _ hcut => hcut.elim⟩
    have hends := h m n hmn
    revert hends
    cases x m <;> cases y n <;> simp [SideBySide, Never]

namespace Coupled

variable {σ τ α β : Type} {R : Machine σ → Machine τ → Prop}

theorem ret (a : α) : Coupled R (pure a) (pure a) := fun _ _ h => ⟨rfl, h⟩

theorem fail (e : Fault) : Coupled R (throw e : Run σ α) (throw e) := fun _ _ h => ⟨rfl, h⟩

theorem lift (x : Except Fault α) : Coupled R (liftM x : Run σ α) (liftM x) :=
  coupledUntil_never_iff.mp (.lift x)

theorem bind {x : Run σ α} {y : Run τ α} {f : α → Run σ β} {g : α → Run τ β} (hx : Coupled R x y)
    (hf : ∀ a, Coupled R (f a) (g a)) : Coupled R (x >>= f) (y >>= g) :=
  coupledUntil_never_iff.mp
    (.bind (coupledUntil_never_iff.mpr hx) fun a => coupledUntil_never_iff.mpr (hf a))

/-- The second run may take a step of its own that returns a value and keeps the relation. -/
theorem bind_right {x : Run σ β} {y : Run τ α} {g : α → Run τ β} {a : α}
    (hy : ∀ m, Triple (R m) y (fun b n => b = a ∧ R m n) (fun _ _ => False))
    (hg : Coupled R x (g a)) : Coupled R x (y >>= g) := by
  intro m n h
  have hend := hy m n h
  show match x m, EStateM.bind y g n with
    | .ok a m', .ok b n' => a = b ∧ R m' n'
    | .error e m', .error e' n' => e = e' ∧ R m' n'
    | _, _ => False
  unfold EStateM.bind
  cases hyn : y n with
  | error e n' =>
    rw [hyn] at hend
    exact hend.elim
  | ok b n' =>
    rw [hyn] at hend
    obtain ⟨rfl, hn'⟩ := hend
    exact hg m n' hn'

end Coupled

/-- What a relation between machines has to survive (module doc). -/
structure Coupling {σ τ : Type} [Storage σ] [Storage τ] (R : Machine σ → Machine τ → Prop)
    (T : TrailEntry → TrailEntry → Prop) : Prop where
  charge : ∀ cost, Coupled R (Run.charge cost) (Run.charge cost)
  note : ∀ {entry entry' : TrailEntry}, T entry entry' →
    Coupled R (Run.note entry) (Run.note entry')
  read : ∀ key, Coupled R (Run.read key) (Run.read key)
  write : ∀ key value, Coupled R (Run.write key value) (Run.write key value)

theorem Coupling.until {σ τ : Type} [Storage σ] [Storage τ] {R : Machine σ → Machine τ → Prop}
    {T : TrailEntry → TrailEntry → Prop} (hR : Coupling R T) : CouplingUntil R Never T where
  charge cost := coupledUntil_never_iff.mpr (hR.charge cost)
  note h := coupledUntil_never_iff.mpr (hR.note h)
  read key := coupledUntil_never_iff.mpr (hR.read key)
  write key value := coupledUntil_never_iff.mpr (hR.write key value)

/-- A cut-off by faults of one kind, whatever the second run goes on to. -/
def CutBy {σ τ : Type} (P : Fault → Prop) (e : Fault) (_ : Machine σ) (_ : Machine τ) : Prop := P e

theorem Coupled.cutBy {σ τ α : Type} {R : Machine σ → Machine τ → Prop} {x : Run σ α}
    {y : Run τ α} (h : Coupled R x y) (P : Fault → Prop) : CoupledUntil R (CutBy P) x y where
  ends m n hmn := by
    have hends := h m n hmn
    revert hends
    cases x m <;> cases y n <;> simp +contextual [SideBySide]
  lasts e _ n hcut := by
    cases y n with
    | ok _ _ => exact hcut
    | error _ _ => exact hcut

theorem Coupling.cutBy {σ τ : Type} [Storage σ] [Storage τ] {R : Machine σ → Machine τ → Prop}
    {T : TrailEntry → TrailEntry → Prop} (hR : Coupling R T) (P : Fault → Prop) :
    CouplingUntil R (CutBy P) T where
  charge cost := (hR.charge cost).cutBy P
  note h := (hR.note h).cutBy P
  read key := (hR.read key).cutBy P
  write key value := (hR.write key value).cutBy P

namespace Machine

section Runs

variable {σ τ : Type} {R : Machine σ → Machine τ → Prop} {nested : Nested σ} {nested' : Nested τ}
  [Storage σ] [Storage τ] {T : TrailEntry → TrailEntry → Prop} {env env' : Env}

/-- One op in two runs, the loops of which may be given different numbers of rounds. -/
theorem step_coupled_of_loops {rounds rounds' : Nat} {site site' : Site} (hR : Coupling R T)
    (hn : ∀ source inputs, Coupled R (nested source inputs) (nested' source inputs))
    (hw : ∀ source carried condition words,
      Coupled R (repeatWhile nested source carried rounds condition words)
        (repeatWhile nested' source carried rounds' condition words))
    (he : Echoes T env env' site site') (op : Op) (stack : Stack) :
    Coupled R (step env nested rounds site op stack) (step env' nested' rounds' site' op stack) :=
  coupledUntil_never_iff.mp (step_until hR.until
    (fun source inputs => coupledUntil_never_iff.mpr (hn source inputs))
    (fun source carried condition words =>
      coupledUntil_never_iff.mpr (hw source carried condition words)) he op stack)

omit [Storage σ] [Storage τ] in
theorem repeatWhile_coupled
    (hn : ∀ source inputs, Coupled R (nested source inputs) (nested' source inputs))
    (source carried rounds : Nat) (condition : Word) (words : List Word) :
    Coupled R (repeatWhile nested source carried rounds condition words)
      (repeatWhile nested' source carried rounds condition words) :=
  coupledUntil_never_iff.mp (repeatWhile_until
    (fun source inputs => coupledUntil_never_iff.mpr (hn source inputs)) source carried rounds
    condition words)

/-- **One op in two runs.** -/
theorem step_coupled {site site' : Site} (hR : Coupling R T)
    (hn : ∀ source inputs, Coupled R (nested source inputs) (nested' source inputs))
    (he : Echoes T env env' site site') (rounds : Nat) (op : Op) (stack : Stack) :
    Coupled R (step env nested rounds site op stack) (step env' nested' rounds site' op stack) :=
  step_coupled_of_loops hR hn (fun source carried condition words =>
    repeatWhile_coupled hn source carried rounds condition words) he op stack

/-- A frame that is paid for and run, in two runs with the same limits. -/
theorem openFrame_coupled (hR : Coupling R T) (hl : env.limits = env'.limits)
    {run : (source : Nat) → Stack → Run σ Stack} {run' : (source : Nat) → Stack → Run τ Stack}
    (h : ∀ source stack, Coupled R (run source stack) (run' source stack)) (source : Nat)
    (inputs : List Word) :
    Coupled R (openFrame env run source inputs) (openFrame env' run' source inputs) :=
  coupledUntil_never_iff.mp (openFrame_until hR.until hl
    (fun source stack => coupledUntil_never_iff.mpr (h source stack)) source inputs)

/-- **A whole run beside another.** -/
theorem runSource_coupled (hR : Coupling R Eq) (env : Env) (rounds room depth source : Nat)
    (stack : Stack) :
    Coupled R (runSource (σ := σ) env rounds room depth source stack)
      (runSource (σ := τ) env rounds room depth source stack) :=
  coupledUntil_never_iff.mp (runSource_until hR.until env rounds room depth source stack)

end Runs

/-! ## A run beside itself -/

section Preserves

variable {σ α : Type} {I : Machine σ → Prop}

/-- Machines that are the same and satisfy `I` are kept so by steps that do the same where `I` holds
and keep it. -/
theorem coupled_eq_iff {x y : Run σ α} :
    Coupled (fun m n => m = n ∧ I n) x y ↔ (∀ m, I m → x m = y m) ∧ Preserves I y := by
  constructor
  · intro h
    refine ⟨fun m hm => ?_, fun m hm => ?_⟩
    · have hends := h m m ⟨rfl, hm⟩
      revert hends
      cases x m <;> cases y m <;> simp +contextual
    · have hends := h m m ⟨rfl, hm⟩
      revert hends
      cases x m <;> cases y m <;> simp +contextual [Ends]
  · rintro ⟨heq, hkeep⟩ m _ ⟨rfl, hm⟩
    have hends := hkeep m hm
    revert hends
    rw [heq m hm]
    cases y m with
    | ok a m' => exact fun hm' => ⟨rfl, rfl, hm'⟩
    | error e m' => exact fun hm' => ⟨rfl, rfl, hm'⟩

theorem coupled_self_iff {x : Run σ α} :
    Coupled (fun m n => m = n ∧ I n) x x ↔ Preserves I x :=
  coupled_eq_iff.trans ⟨fun h => h.2, fun h => ⟨fun _ _ => rfl, h⟩⟩

/-- What a round keeps, a loop keeps. -/
theorem repeatWhile_preserves {nested : Nested σ}
    (hn : ∀ source inputs, Preserves I (nested source inputs)) (source carried rounds : Nat)
    (condition : Word) (words : List Word) :
    Preserves I (repeatWhile nested source carried rounds condition words) :=
  coupled_self_iff.mp (repeatWhile_coupled
    (fun source inputs => coupled_self_iff.mpr (hn source inputs)) source carried rounds condition
    words)

variable [Storage σ]

/-- What no step of a run breaks. -/
structure Steady (I : Machine σ → Prop) : Prop where
  charge : ∀ cost, Preserves I (Run.charge cost)
  note : ∀ entry, Preserves I (Run.note entry)
  read : ∀ key, Preserves I (Run.read key)
  write : ∀ key value, Preserves I (Run.write key value)

theorem Steady.coupling (hI : Steady I) : Coupling (fun m n => m = n ∧ I n) Eq where
  charge cost := coupled_self_iff.mpr (hI.charge cost)
  note h := h ▸ coupled_self_iff.mpr (hI.note _)
  read key := coupled_self_iff.mpr (hI.read key)
  write key value := coupled_self_iff.mpr (hI.write key value)

/-- **What every step keeps, a run keeps.** -/
theorem runSource_preserves (hI : Steady I) (env : Env) (rounds room depth source : Nat)
    (stack : Stack) : Preserves I (runSource env rounds room depth source stack) :=
  coupled_self_iff.mp (runSource_coupled hI.coupling env rounds room depth source stack)

end Preserves

/-! ## Evaluations -/

/-- **Two evaluations.** If their runs are coupled by a relation that gives equal gas and equal
writes, they have the same outcome and spend the same. -/
theorem evaluate_coupled {R : Machine Overlay → Machine Overlay → Prop} (limits : Limits)
    (request request' : Request) (store store' : Store) (gasLimit : Nat) (traced : Bool)
    (hrun : Coupled R
      (runSource ⟨request.bundle, request.context, limits.clamped, traced⟩ (gasLimit + 1)
        limits.clamped.maxCallDepth 0 request.source (.empty limits.clamped.maxStack))
      (runSource ⟨request'.bundle, request'.context, limits.clamped, traced⟩ (gasLimit + 1)
        limits.clamped.maxCallDepth 0 request'.source (.empty limits.clamped.maxStack)))
    (hstart : R ⟨.fresh gasLimit, .start store request.caller, #[]⟩
      ⟨.fresh gasLimit, .start store' request'.caller, #[]⟩)
    (hkept : request.maxOutputs = request'.maxOutputs)
    (hgas : ∀ m n, R m n → m.gas.used = n.gas.used)
    (hwrites : ∀ m n, R m n → m.storage.writes = n.storage.writes) :
    (evaluate limits request store gasLimit traced).outcome =
      (evaluate limits request' store' gasLimit traced).outcome ∧
    (evaluate limits request store gasLimit traced).gasUsed =
      (evaluate limits request' store' gasLimit traced).gasUsed ∧
    ∃ m n, R m n ∧ (evaluate limits request store gasLimit traced).trail = m.trail.toList ∧
      (evaluate limits request' store' gasLimit traced).trail = n.trail.toList := by
  have hend := hrun _ _ hstart
  unfold evaluate evaluateWithin
  simp only
  revert hend
  generalize runSource _ _ _ _ _ _ (Machine.mk _ (Overlay.start store _) _) = here
  generalize runSource _ _ _ _ _ _ (Machine.mk _ (Overlay.start store' _) _) = there
  match here, there with
  | .ok stack m, .ok stack' n =>
    rintro ⟨rfl, hmn⟩
    refine ⟨?_, hgas m n hmn, m, n, hmn, rfl, rfl⟩
    simp only [hkept, hgas m n hmn, hwrites m n hmn]
  | .error e m, .error e' n =>
    rintro ⟨rfl, hmn⟩
    exact ⟨rfl, hgas m n hmn, m, n, hmn, rfl, rfl⟩
  | .ok _ _, .error _ _ => exact False.elim
  | .error _ _, .ok _ _ => exact False.elim

end Machine

end ExprMachine
