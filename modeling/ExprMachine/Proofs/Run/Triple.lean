import ExprMachine.Machine
import ExprMachine.Proofs.Stack

/-!
# Triples

`Triple P x Q E`: if `P` holds of the machine, then after the step `x` either it returned `a` and
`Q a` holds of the machine, or it failed with `e` and `E e` does. A step always ends, so there is no
third case, and a run that fails is described as closely as one that returns. Where only the value
matters, `Returns P x Q` says no more than that.

What every step of a run keeps is split in two:

* `Spent J L k m`: of the `L` units of gas at least `k` are spent, and `J` holds. Spending raises
  `k`, and a failed charge spends all that is left.
* `Ambient J F`: nothing that a step does besides running other sources can break `J`, and a read
  that the storage refuses under `J` is refused with a cause in `F`.
-/

namespace ExprMachine

/-- `Q` holds of the value and the machine that a run left, or `E` of the fault and the machine. -/
def Ends {σ α : Type} (r : EStateM.Result Fault (Machine σ) α) (Q : α → Machine σ → Prop)
    (E : Fault → Machine σ → Prop) : Prop :=
  match r with
  | .ok a m => Q a m
  | .error e m => E e m

theorem Ends.imp {σ α : Type} {r : EStateM.Result Fault (Machine σ) α}
    {Q Q' : α → Machine σ → Prop} {E E' : Fault → Machine σ → Prop} (h : Ends r Q E)
    (hq : ∀ a m, Q a m → Q' a m) (he : ∀ e m, E e m → E' e m) : Ends r Q' E' := by
  cases r with
  | ok a m => exact hq a m h
  | error e m => exact he e m h

/-- A total triple for a step of a run (module doc). -/
def Triple {σ α : Type} (P : Machine σ → Prop) (x : Run σ α) (Q : α → Machine σ → Prop)
    (E : Fault → Machine σ → Prop) : Prop :=
  ∀ m, P m → Ends (x m) Q E

namespace Triple

variable {σ α β : Type} {P P' : Machine σ → Prop} {x : Run σ α} {Q Q' : α → Machine σ → Prop}
  {E E' : Fault → Machine σ → Prop}

theorem conseq (h : Triple P x Q E) (hp : ∀ m, P' m → P m) (hq : ∀ a m, Q a m → Q' a m)
    (he : ∀ e m, E e m → E' e m) : Triple P' x Q' E' :=
  fun m hm => (h m (hp m hm)).imp hq he

theorem ret {a : α} (h : ∀ m, P m → Q a m) : Triple P (pure a) Q E := h

theorem fail {e : Fault} (h : ∀ m, P m → E e m) : Triple P (throw e : Run σ α) Q E := h

theorem bind {R : α → Machine σ → Prop} {f : α → Run σ β} {Q : β → Machine σ → Prop}
    (hx : Triple P x R E) (hf : ∀ a, Triple (R a) (f a) Q E) : Triple P (x >>= f) Q E := by
  intro m hm
  have h1 := hx m hm
  show Ends (EStateM.bind x f m) Q E
  unfold EStateM.bind
  cases hxm : x m with
  | ok a m' => rw [hxm] at h1; exact hf a m' h1
  | error e m' => rw [hxm] at h1; exact h1

/-- Two triples for the same step. -/
theorem and (h : Triple P x Q E) (h' : Triple P x Q' E') :
    Triple P x (fun a m => Q a m ∧ Q' a m) (fun e m => E e m ∧ E' e m) := by
  intro m hm
  have h1 := h m hm
  have h2 := h' m hm
  cases hx : x m with
  | ok a m' => rw [hx] at h1 h2; exact ⟨h1, h2⟩
  | error e m' => rw [hx] at h1 h2; exact ⟨h1, h2⟩

/-- A fact about the machine may be moved out of the precondition. -/
theorem assume {φ : Prop} (h : φ → Triple P x Q E) : Triple (fun m => P m ∧ φ) x Q E :=
  fun m hm => h hm.2 m hm.1

theorem lift {y : Except Fault α} {R : α → Prop} (h : Outcome y R fun e => ∀ m, P m → E e m) :
    Triple P (liftM y : Run σ α) (fun a m => P m ∧ R a) E := by
  intro m hm
  cases y with
  | ok a => exact ⟨hm, h⟩
  | error e => exact h m hm

/-- A step that changes nothing, and what follows it. -/
theorem lift_bind {y : Except Fault α} {f : α → Run σ β} {Q : β → Machine σ → Prop} {R : α → Prop}
    (h : Outcome y R fun e => ∀ m, P m → E e m) (hf : ∀ a, R a → Triple P (f a) Q E) :
    Triple P (liftM y >>= f) Q E :=
  bind (lift h) fun a => assume (hf a)

end Triple

theorem lift_ok_bind {σ α β : Type} (a : α) (f : α → Run σ β) :
    (liftM (Except.ok a : Except Fault α) >>= f) = f a := rfl

theorem Run.bind_eq_ok {σ α β : Type} {x : Run σ α} {f : α → Run σ β} {m m' : Machine σ} {b : β} :
    (x >>= f) m = .ok b m' ↔ ∃ a m₁, x m = .ok a m₁ ∧ f a m₁ = .ok b m' := by
  show EStateM.bind x f m = .ok b m' ↔ _
  unfold EStateM.bind
  cases x m with
  | ok a m₁ => exact ⟨fun h => ⟨a, m₁, rfl, h⟩, by rintro ⟨_, _, ⟨⟩, h⟩; exact h⟩
  | error e m₁ => exact ⟨nofun, by rintro ⟨_, _, ⟨⟩, _⟩⟩

theorem Run.lift_bind_eq_ok {σ α β : Type} {y : Except Fault α} {f : α → Run σ β}
    {m m' : Machine σ} {b : β} :
    (liftM y >>= f) m = .ok b m' ↔ ∃ a, y = .ok a ∧ f a m = .ok b m' := by
  cases y with
  | ok a => exact ⟨fun h => ⟨a, rfl, h⟩, by rintro ⟨_, ⟨⟩, h⟩; exact h⟩
  | error e => exact ⟨nofun, by rintro ⟨_, ⟨⟩, _⟩⟩

/-- Steps that do the same from a machine, followed by steps that do so from where they end. -/
theorem bind_congr_of_triple {σ α β : Type} {P : Machine σ → Prop} {Q : α → Machine σ → Prop}
    {E : Fault → Machine σ → Prop} {x y : Run σ α} {f g : α → Run σ β} {m : Machine σ}
    (hy : Triple P y Q E) (hm : P m) (hx : x m = y m) (hf : ∀ a m', Q a m' → f a m' = g a m') :
    (x >>= f) m = (y >>= g) m := by
  have hend := hy m hm
  show EStateM.bind x f m = EStateM.bind y g m
  unfold EStateM.bind
  rw [hx]
  revert hend
  cases y m with
  | ok a m' => exact hf a m'
  | error e m' => exact fun _ => rfl

/-- From a machine of which `P` holds, the step returns nothing but what `Q` holds of. -/
def Returns {σ α : Type} (P : Machine σ → Prop) (x : Run σ α) (Q : α → Prop) : Prop :=
  Triple P x (fun a _ => Q a) fun _ _ => True

namespace Returns

variable {σ α β : Type} {P : Machine σ → Prop} {x : Run σ α} {Q : α → Prop}

theorem of_forall (h : ∀ a, Q a) : Returns P x Q := by
  intro m _
  cases hx : x m with
  | ok a m' => exact h a
  | error e m' => trivial

theorem lift_bind {y : Except Fault β} {f : β → Run σ α}
    (h : ∀ b, y = .ok b → Returns P (f b) Q) : Returns P (liftM y >>= f) Q := by
  cases y with
  | ok b => exact h b rfl
  | error e => exact fun _ _ => trivial

/-- What the first step returned is used, and what it did to the machine is not. -/
theorem bind {y : Run σ β} {R : β → Prop} {f : β → Run σ α} (hy : Returns P y R)
    (hf : ∀ b, R b → Returns (fun _ => True) (f b) Q) : Returns P (y >>= f) Q :=
  Triple.bind hy fun b m hb => hf b hb m trivial

/-- The same where nothing is known of what the first step returned. -/
theorem bind_any {y : Run σ β} {f : β → Run σ α} (hf : ∀ b, Returns (fun _ => True) (f b) Q) :
    Returns P (y >>= f) Q :=
  bind (R := fun _ => True) (of_forall fun _ => trivial) fun b _ => hf b

end Returns

variable {σ : Type}

/-- At least `k` of the `L` units of gas are spent, and `J` holds. -/
structure Spent (J : Machine σ → Prop) (L k : Nat) (m : Machine σ) : Prop where
  limit : m.gas.limit = L
  least : k ≤ m.gas.used
  most : m.gas.used ≤ L
  rest : J m

theorem Spent.weaken {J : Machine σ → Prop} {L k k' : Nat} {m : Machine σ} (h : Spent J L k m)
    (hk : k' ≤ k) : Spent J L k' m :=
  ⟨h.limit, Nat.le_trans hk h.least, h.most, h.rest⟩

variable [Storage σ]

/-- What a step cannot break besides by running other sources (module doc). -/
structure Ambient (J : Machine σ → Prop) (F : StoreFault → Prop) : Prop where
  gas : ∀ {m : Machine σ} {g : Gas.Meter}, J m → J { m with gas := g }
  note : ∀ {m : Machine σ} {entry : TrailEntry}, J m → J { m with trail := m.trail.push entry }
  write : ∀ {m : Machine σ} {key value : Word}, J m →
    J { m with storage := Storage.write m.storage key value }
  read : ∀ {m : Machine σ} {key : Word} {cause : StoreFault}, J m →
    Storage.read m.storage key = .error cause → F cause

namespace Run

variable {J : Machine σ → Prop} {F : StoreFault → Prop} {L k : Nat}
  {E : Fault → Machine σ → Prop}

theorem triple_charge (hJ : Ambient J F) {cost : Nat} (he : ∀ m, Spent J L k m → E .outOfGas m) :
    Triple (Spent J L k) (charge cost) (fun _ => Spent J L (k + cost)) E := by
  intro m hm
  obtain ⟨hl, hk, hL, hr⟩ := hm
  unfold charge Gas.Meter.charge
  by_cases hc : m.gas.used + cost ≤ m.gas.limit
  · simp only [hc, ↓reduceIte]
    exact ⟨hl, Nat.add_le_add_right hk cost, hl ▸ hc, hJ.gas hr⟩
  · simp only [hc, ↓reduceIte]
    exact he _ ⟨hl, by simp only; omega, by simp only; omega, hJ.gas hr⟩

theorem triple_note (hJ : Ambient J F) (entry : TrailEntry) :
    Triple (Spent J L k) (note entry) (fun _ => Spent J L k) E :=
  fun _ hm => ⟨hm.limit, hm.least, hm.most, hJ.note hm.rest⟩

theorem triple_trace (hJ : Ambient J F) (env : Env) (entry : TrailEntry) :
    Triple (Spent J L k) (trace env entry) (fun _ => Spent J L k) E := by
  unfold trace
  split
  · exact triple_note hJ entry
  · exact Triple.ret fun _ hm => hm

theorem triple_read (hJ : Ambient J F) (key : Word)
    (he : ∀ cause m, F cause → Spent J L k m → E (.store cause) m) :
    Triple (Spent J L k) (read key) (fun _ => Spent J L k) E := by
  intro m hm
  unfold read
  cases hr : Storage.read m.storage key with
  | ok value => exact hm
  | error cause => exact he cause m (hJ.read hm.rest hr) hm

theorem triple_write (hJ : Ambient J F) (key value : Word) :
    Triple (Spent J L k) (write key value) (fun _ => Spent J L k) E :=
  fun _ hm => ⟨hm.limit, hm.least, hm.most, hJ.write hm.rest⟩

end Run

end ExprMachine
