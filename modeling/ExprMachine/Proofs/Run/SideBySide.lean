import ExprMachine.Machine.Evaluate
import ExprMachine.Proofs.Run.Triple

/-!
# Two runs side by side

Many facts about runs compare two of them: over two storages, of two bundles, with two amounts of
gas. They share one argument. If a relation between the two machines survives what a step can do to
them, the two runs give the same value or the same fault, and the relation holds where they end.
One of the runs may have less to spend than the other. It is then cut off somewhere, and of the
other run it matters only that what was so when the first one ended stays so.

* `CoupledUntil R C x y`: from machines that `R` relates, the steps `x` and `y` agree and leave
  machines that `R` relates, unless `x` is cut off; then `C` holds of its fault, the machine that it
  left, and any machine that `y` goes on to.
* `CouplingUntil R C T`: spending, reading, writing, and two trail entries that `T` relates are such
  steps.
* `Echoes T env env' site site'`: an op reads the same in both runs, and what it enters in the
  trails is related.
* `Mirrors R C T env env' site site' opcode operand stack`: the same of one op on one stack, where
  what it reads may also cut the first run off.
* `step_mirrored`: an op and the same op in the other run, if the frames that they open and the
  loops that they run are side by side. It goes through all opcodes, and nothing else has to.
* `step_until`: the same where the runs echo each other.
* `runSource_until`: a source and the same source in the other run.
-/

namespace ExprMachine

/-- The step keeps `I`, whether it returns or fails. -/
def Preserves {σ α : Type} (I : Machine σ → Prop) (x : Run σ α) : Prop :=
  Triple I x (fun _ => I) fun _ => I

/-- How two runs end beside each other: with the same value or the same fault, in machines that `R`
relates, or as `C` says of a first run that was cut off. -/
def SideBySide {σ τ α : Type} (R : Machine σ → Machine τ → Prop)
    (C : Fault → Machine σ → Machine τ → Prop) :
    EStateM.Result Fault (Machine σ) α → EStateM.Result Fault (Machine τ) α → Prop
  | .ok a m, .ok b n => a = b ∧ R m n
  | .error e m, .error e' n => e = e' ∧ R m n ∨ C e m n
  | .error e m, .ok _ n => C e m n
  | .ok _ _, .error _ _ => False

/-- Two steps that agree unless the first is cut off (module doc). -/
structure CoupledUntil {σ τ α : Type} (R : Machine σ → Machine τ → Prop)
    (C : Fault → Machine σ → Machine τ → Prop) (x : Run σ α) (y : Run τ α) : Prop where
  ends : ∀ m n, R m n → SideBySide R C (x m) (y n)
  lasts : ∀ e m, Preserves (C e m) y

namespace CoupledUntil

variable {σ τ α β : Type} {R : Machine σ → Machine τ → Prop}
  {C : Fault → Machine σ → Machine τ → Prop}

theorem ret (a : α) : CoupledUntil R C (pure a) (pure a) :=
  ⟨fun _ _ h => ⟨rfl, h⟩, fun _ _ => Triple.ret fun _ h => h⟩

theorem fail (e : Fault) : CoupledUntil R C (throw e : Run σ α) (throw e) :=
  ⟨fun _ _ h => .inl ⟨rfl, h⟩, fun _ _ => Triple.fail fun _ h => h⟩

theorem lift (x : Except Fault α) : CoupledUntil R C (liftM x : Run σ α) (liftM x) := by
  cases x with
  | ok a => exact ret a
  | error e => exact fail e

theorem bind {x : Run σ α} {y : Run τ α} {f : α → Run σ β} {g : α → Run τ β}
    (hx : CoupledUntil R C x y) (hf : ∀ a, CoupledUntil R C (f a) (g a)) :
    CoupledUntil R C (x >>= f) (y >>= g) := by
  refine ⟨fun m n h => ?_, fun e m => Triple.bind (hx.lasts e m) fun b => (hf b).lasts e m⟩
  have h1 := hx.ends m n h
  show SideBySide R C (EStateM.bind x f m) (EStateM.bind y g n)
  unfold EStateM.bind
  revert h1
  cases x m with
  | ok a m' =>
    cases y n with
    | ok b n' =>
      rintro ⟨rfl, hmn⟩
      exact (hf a).ends m' n' hmn
    | error e n' => exact False.elim
  | error e m' =>
    cases y n with
    | ok b n' =>
      -- The first run has ended; the second goes on, and what was so of its machine lasts.
      intro hcut
      have hlasts := (hf b).lasts e m' n' hcut
      revert hlasts
      simp only
      cases g b n' with
      | ok _ _ => exact id
      | error _ _ => exact .inr
    | error e' n' => exact id

end CoupledUntil

/-- What the relations have to survive (module doc). -/
structure CouplingUntil {σ τ : Type} [Storage σ] [Storage τ] (R : Machine σ → Machine τ → Prop)
    (C : Fault → Machine σ → Machine τ → Prop) (T : TrailEntry → TrailEntry → Prop) : Prop where
  charge : ∀ cost, CoupledUntil R C (Run.charge cost) (Run.charge cost)
  note : ∀ {entry entry' : TrailEntry}, T entry entry' →
    CoupledUntil R C (Run.note entry) (Run.note entry')
  read : ∀ key, CoupledUntil R C (Run.read key) (Run.read key)
  write : ∀ key value, CoupledUntil R C (Run.write key value) (Run.write key value)

namespace Machine

/-- An op reads the same in both runs, and what it enters in the trails is related. -/
structure Echoes (T : TrailEntry → TrailEntry → Prop) (env env' : Env) (site site' : Site) :
    Prop where
  constants : env.bundle.constants = env'.bundle.constants
  context : env.context = env'.context
  traced : env.traced = env'.traced
  exec : ∀ opcode, T (.exec site opcode) (.exec site' opcode)
  debug : ∀ mode stack, T (.debug ⟨mode, site, snapshot env site stack mode⟩)
    (.debug ⟨mode, site', snapshot env' site' stack mode⟩)

theorem echoes_refl (env : Env) (site : Site) : Echoes Eq env env site site :=
  ⟨rfl, rfl, rfl, fun _ => rfl, fun _ _ => rfl⟩

variable {σ τ : Type} {R : Machine σ → Machine τ → Prop}
  {C : Fault → Machine σ → Machine τ → Prop} {nested : Nested σ} {nested' : Nested τ}

/-! ## Loops -/

theorem repeatN_until
    (hn : ∀ source inputs, CoupledUntil R C (nested source inputs) (nested' source inputs))
    (source carried n : Nat) (words : List Word) :
    CoupledUntil R C (repeatN nested source carried n words)
      (repeatN nested' source carried n words) := by
  induction n generalizing words with
  | zero => exact .ret words
  | succ n ih => exact .bind (hn source words) fun frame => .bind (.lift _) fun ws => ih ws

theorem repeatWhile_until
    (hn : ∀ source inputs, CoupledUntil R C (nested source inputs) (nested' source inputs))
    (source carried rounds : Nat) (condition : Word) (words : List Word) :
    CoupledUntil R C (repeatWhile nested source carried rounds condition words)
      (repeatWhile nested' source carried rounds condition words) := by
  induction rounds generalizing condition words with
  | zero =>
    unfold repeatWhile
    split
    · exact .ret words
    · exact .fail _
  | succ rounds ih =>
    unfold repeatWhile
    split
    · exact .ret words
    refine .bind (hn source words) fun frame => .bind (.lift _) fun top => ?_
    cases top.getLast? with
    | some next => exact ih next top.dropLast
    | none => exact .fail _

/-! ## Ops -/

variable [Storage σ] [Storage τ] {T : TrailEntry → TrailEntry → Prop} {env env' : Env}
  {site site' : Site} {rounds rounds' : Nat}

theorem fetch_congr (he : Echoes T env env' site site') (operand : Operand) (stack : Stack) :
    fetch env operand stack = fetch env' operand stack := by
  unfold fetch Bundle.constant
  rw [he.constants]

/-- One op on one stack, in both runs (module doc). -/
structure Mirrors (R : Machine σ → Machine τ → Prop) (C : Fault → Machine σ → Machine τ → Prop)
    (T : TrailEntry → TrailEntry → Prop) (env env' : Env) (site site' : Site) (opcode : Opcode)
    (operand : Operand) (stack : Stack) : Prop where
  fetch : opcode = .readMemory →
    CoupledUntil R C (liftM (fetch env operand stack)) (liftM (fetch env' operand stack))
  context : opcode = .context →
    CoupledUntil R C (liftM (env.context.get operand.highByte operand.lowByte))
      (liftM (env'.context.get operand.highByte operand.lowByte))
  traced : env.traced = env'.traced
  exec : T (.exec site opcode.name) (.exec site' opcode.name)
  debug : opcode = .debug → ∀ mode, DebugMode.ofCode? operand.raw = some mode →
    T (.debug ⟨mode, site, snapshot env site stack mode⟩)
      (.debug ⟨mode, site', snapshot env' site' stack mode⟩)

omit [Storage σ] [Storage τ] in
theorem Echoes.mirrors (he : Echoes T env env' site site') (opcode : Opcode) (operand : Operand)
    (stack : Stack) : Mirrors R C T env env' site site' opcode operand stack where
  fetch _ := by
    rw [fetch_congr he]
    exact .lift _
  context _ := by
    rw [he.context]
    exact .lift _
  traced := he.traced
  exec := he.exec opcode.name
  debug _ mode _ := he.debug mode stack

theorem perform_mirrored (hR : CouplingUntil R C T)
    (hn : ∀ source inputs, CoupledUntil R C (nested source inputs) (nested' source inputs))
    (hw : ∀ source carried condition words,
      CoupledUntil R C (repeatWhile nested source carried rounds condition words)
        (repeatWhile nested' source carried rounds' condition words))
    {opcode : Opcode} {operand : Operand} {stack : Stack}
    (hm : Mirrors R C T env env' site site' opcode operand stack) :
    CoupledUntil R C (perform env nested rounds site opcode operand stack)
      (perform env' nested' rounds' site' opcode operand stack) := by
  cases opcode with
  | readMemory => exact .bind (hm.fetch rfl) fun _ => .lift _
  | context => exact .bind (hm.context rfl) fun _ => .lift _
  | «calc» c => exact .bind (.lift _) fun _ => .bind (.lift _) fun _ => .lift _
  | flow f =>
    cases f with
    | call =>
      exact .bind (.lift _) fun _ => .bind (hn _ _) fun _ => .bind (.lift _) fun _ => .lift _
    | loopN =>
      exact .bind (.lift _) fun _ => .bind (repeatN_until hn _ _ _ _) fun _ => .lift _
    | doWhile =>
      exact .bind (.lift _) fun _ => .bind (.lift _) fun _ => .bind (hw _ _ _ _) fun _ => .lift _
  | debug =>
    simp only [perform]
    cases hmode : DebugMode.ofCode? operand.raw with
    | some mode => exact .bind (hR.note (hm.debug rfl mode hmode)) fun _ => .ret stack
    | none => exact .fail _
  | ensure =>
    refine .bind (.lift _) fun popped => ?_
    obtain ⟨condition, rest⟩ := popped
    simp only
    split
    · exact .fail _
    · exact .ret rest
  | set =>
    exact .bind (.lift _) fun _ => .bind (.lift _) fun _ => .bind (hR.write _ _) fun _ => .ret _
  | get => exact .bind (.lift _) fun _ => .bind (hR.read _) fun _ => .lift _

/-- **One op in two runs.** -/
theorem step_mirrored (hR : CouplingUntil R C T)
    (hn : ∀ source inputs, CoupledUntil R C (nested source inputs) (nested' source inputs))
    (hw : ∀ source carried condition words,
      CoupledUntil R C (repeatWhile nested source carried rounds condition words)
        (repeatWhile nested' source carried rounds' condition words))
    {op : Op} {stack : Stack}
    (hm : ∀ opcode, Opcode.ofId? op.opcode = some opcode →
      Mirrors R C T env env' site site' opcode op.operand stack) :
    CoupledUntil R C (step env nested rounds site op stack)
      (step env' nested' rounds' site' op stack) := by
  unfold step Opcode.lookup
  cases ho : Opcode.ofId? op.opcode with
  | none => exact .fail _
  | some opcode =>
    have hmirrors := hm opcode ho
    have htrace : CoupledUntil R C (Run.trace env (.exec site opcode.name))
        (Run.trace env' (.exec site' opcode.name)) := by
      unfold Run.trace
      rw [hmirrors.traced]
      split
      · exact hR.note hmirrors.exec
      · exact .ret ()
    simp only [lift_ok_bind]
    exact .bind (hR.charge _) fun _ => .bind (.lift _) fun _ => .bind htrace fun _ =>
      .bind (perform_mirrored hR hn hw hmirrors) fun _ => .lift _

/-- One op in two runs that echo each other. -/
theorem step_until (hR : CouplingUntil R C T)
    (hn : ∀ source inputs, CoupledUntil R C (nested source inputs) (nested' source inputs))
    (hw : ∀ source carried condition words,
      CoupledUntil R C (repeatWhile nested source carried rounds condition words)
        (repeatWhile nested' source carried rounds' condition words))
    (he : Echoes T env env' site site') (op : Op) (stack : Stack) :
    CoupledUntil R C (step env nested rounds site op stack)
      (step env' nested' rounds' site' op stack) :=
  step_mirrored hR hn hw fun opcode _ => he.mirrors opcode op.operand stack

/-- A frame that is paid for and run, in two runs with the same limits. -/
theorem openFrame_until (hR : CouplingUntil R C T) (hl : env.limits = env'.limits)
    {run : (source : Nat) → Stack → Run σ Stack} {run' : (source : Nat) → Stack → Run τ Stack}
    (h : ∀ source stack, CoupledUntil R C (run source stack) (run' source stack)) (source : Nat)
    (inputs : List Word) :
    CoupledUntil R C (openFrame env run source inputs) (openFrame env' run' source inputs) := by
  unfold openFrame
  rw [hl]
  exact .bind (hR.charge _) fun _ => .bind (.lift _) fun frame => h source frame

/-! ## Runs of one bundle -/

theorem runOps_until (hR : CouplingUntil R C Eq)
    (hn : ∀ source inputs, CoupledUntil R C (nested source inputs) (nested' source inputs))
    (env : Env) (rounds source depth ip : Nat) (ops : List Op) (stack : Stack) :
    CoupledUntil R C (runOps env nested rounds source depth ip ops stack)
      (runOps env nested' rounds source depth ip ops stack) := by
  have hw (source carried : Nat) (condition : Word) (words : List Word) :=
    repeatWhile_until hn source carried rounds condition words
  induction ops generalizing ip stack with
  | nil => exact .ret stack
  | cons op ops ih =>
    exact .bind (step_until hR hn hw (echoes_refl env _) op stack) fun after => ih (ip + 1) after

theorem runFrame_until (hR : CouplingUntil R C Eq)
    (hn : ∀ source inputs, CoupledUntil R C (nested source inputs) (nested' source inputs))
    (env : Env) (rounds depth source : Nat) (stack : Stack) :
    CoupledUntil R C (runFrame env nested rounds depth source stack)
      (runFrame env nested' rounds depth source stack) :=
  .bind (.lift _) fun target => runOps_until hR hn env rounds source depth 0 target.ops stack

/-- **A whole run beside another.** By induction on the room that is left for frames. -/
theorem runSource_until (hR : CouplingUntil R C Eq) (env : Env)
    (rounds room depth source : Nat) (stack : Stack) :
    CoupledUntil R C (runSource (σ := σ) env rounds room depth source stack)
      (runSource (σ := τ) env rounds room depth source stack) := by
  induction room generalizing depth source stack with
  | zero => exact runFrame_until hR (fun _ _ => .fail _) env rounds depth source stack
  | succ room ih =>
    exact runFrame_until hR (openFrame_until hR rfl fun s st => ih (depth + 1) s st) env rounds
      depth source stack

end Machine

end ExprMachine
