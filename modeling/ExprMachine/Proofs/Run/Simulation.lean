import ExprMachine.Proofs.Run.Coupling

/-!
# Runs over two storages

A run reaches storage only by reading and writing keys, so two storages that answer alike
(`Alike`) cannot be told apart by it.

* `Linked S m n`: the machines differ at most in their storage, which `S` relates.
* `Agree S x y`: from linked machines, the steps `x` and `y` give the same value or the same fault,
  and leave linked machines.
* `step_agree`: an op agrees with itself over the other storage if the frames that it opens do.
* `runSource_agree`: so does a whole run.
-/

namespace ExprMachine

/-- Reads give the same answer, and writes keep it so. -/
structure Alike {σ τ : Type} [Storage σ] [Storage τ] (S : σ → τ → Prop) : Prop where
  read : ∀ {s : σ} {t : τ} (key : Word), S s t → Storage.read s key = Storage.read t key
  write : ∀ {s : σ} {t : τ} (key value : Word), S s t →
    S (Storage.write s key value) (Storage.write t key value)

/-- Machines that differ at most in their storage. -/
structure Linked {σ τ : Type} (S : σ → τ → Prop) (m : Machine σ) (n : Machine τ) : Prop where
  gas : m.gas = n.gas
  trail : m.trail = n.trail
  storage : S m.storage n.storage

/-- The same value or the same fault, from and to linked machines. -/
def Agree {σ τ α : Type} (S : σ → τ → Prop) (x : Run σ α) (y : Run τ α) : Prop :=
  ∀ m n, Linked S m n →
    match x m, y n with
    | .ok a m', .ok b n' => a = b ∧ Linked S m' n'
    | .error e m', .error e' n' => e = e' ∧ Linked S m' n'
    | _, _ => False

namespace Agree

variable {σ τ α β : Type} {S : σ → τ → Prop}

theorem ret (a : α) : Agree S (pure a) (pure a) := Coupled.ret a

theorem fail (e : Fault) : Agree S (throw e : Run σ α) (throw e) := fun _ _ h => ⟨rfl, h⟩

theorem lift (x : Except Fault α) : Agree S (liftM x : Run σ α) (liftM x) := Coupled.lift x

theorem bind {x : Run σ α} {y : Run τ α} {f : α → Run σ β} {g : α → Run τ β} (hx : Agree S x y)
    (hf : ∀ a, Agree S (f a) (g a)) : Agree S (x >>= f) (y >>= g) := Coupled.bind hx hf

end Agree

namespace Run

variable {σ τ : Type} {S : σ → τ → Prop}

theorem charge_agree (cost : Nat) : Agree S (charge cost) (charge cost) := by
  intro m n h
  unfold charge
  rw [h.gas]
  cases hc : n.gas.charge cost with
  | mk outcome gas =>
    cases outcome with
    | ok _ => exact ⟨rfl, rfl, h.trail, h.storage⟩
    | error e => exact ⟨rfl, rfl, h.trail, h.storage⟩

theorem note_agree (entry : TrailEntry) : Agree S (note entry) (note entry) :=
  fun m n h => ⟨rfl, h.gas, by simp only [h.trail], h.storage⟩

variable [Storage σ] [Storage τ]

theorem read_agree (hS : Alike S) (key : Word) : Agree S (read key) (read key) := by
  intro m n h
  unfold read
  rw [hS.read key h.storage]
  cases Storage.read n.storage key with
  | ok value => exact ⟨rfl, h⟩
  | error cause => exact ⟨rfl, h⟩

theorem write_agree (hS : Alike S) (key value : Word) :
    Agree S (write key value) (write key value) :=
  fun _ _ h => ⟨rfl, h.gas, h.trail, hS.write key value h.storage⟩

end Run

namespace Machine

variable {σ τ : Type} {S : σ → τ → Prop} {nested : Nested σ} {nested' : Nested τ} [Storage σ]
  [Storage τ]

/-- Storages that answer alike couple the machines over them, with equal trails. -/
theorem coupling_linked (hS : Alike S) : Coupling (Linked S) Eq where
  charge := Run.charge_agree
  note h := h ▸ Run.note_agree _
  read := Run.read_agree hS
  write := Run.write_agree hS

/-- Paying for a frame and running a source in it, over either storage. -/
theorem openFrame_agree (hS : Alike S) (env : Env) {run : (source : Nat) → Stack → Run σ Stack}
    {run' : (source : Nat) → Stack → Run τ Stack}
    (h : ∀ source stack, Agree S (run source stack) (run' source stack)) (source : Nat)
    (inputs : List Word) :
    Agree S (openFrame env run source inputs) (openFrame env run' source inputs) :=
  openFrame_coupled (coupling_linked hS) rfl h source inputs

theorem step_agree (hS : Alike S)
    (hn : ∀ source inputs, Agree S (nested source inputs) (nested' source inputs))
    (env : Env) (rounds : Nat) (site : Site) (op : Op) (stack : Stack) :
    Agree S (step env nested rounds site op stack) (step env nested' rounds site op stack) :=
  step_coupled (coupling_linked hS) hn (echoes_refl env site) rounds op stack

/-- **A whole run over two storages.** -/
theorem runSource_agree (hS : Alike S) (env : Env) (rounds room depth source : Nat)
    (stack : Stack) :
    Agree S (runSource (σ := σ) env rounds room depth source stack)
      (runSource (σ := τ) env rounds room depth source stack) :=
  runSource_coupled (coupling_linked hS) env rounds room depth source stack

end Machine

end ExprMachine
