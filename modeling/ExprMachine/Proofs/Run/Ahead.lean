import ExprMachine.Proofs.Run.SideBySide

/-!
# One run ahead of another

Programs that do the same may pay differently for it: a `loop-n` is paid for once, and the calls
that it stands for are paid for one by one. No op reads the meter, so the one that pays more does
what the other does, until it runs out of gas.

* `Ahead d m n`: the first machine has spent `d` more than the second, and is otherwise like it. Of
  the trails only the snapshots have to be the same, for the ops that ran are not.
* `EndAhead d r r'`: both runs returned the same and the first is `d` ahead, or both failed in the
  same way, or the first ran out of gas.
* `RunAhead d d' x y`: from machines the first of which is `d` ahead, `x` and `y` end so that it is
  `d'` ahead.
* `RunAhead.pay`: paying for something that the second run does not pay for.
* `couplingUntil_ahead`: what both run keeps the distance, a frame with all that it does included.
-/

namespace ExprMachine

/-- The snapshots in the trail of a machine. -/
def Machine.events {σ : Type} (m : Machine σ) : List DebugEvent :=
  m.trail.toList.filterMap TrailEntry.event?

/-- A fault without the name of the op that found too few words. -/
def Fault.unnamed : Fault → Fault
  | .stackUnderflow _ needed available => .stackUnderflow "" needed available
  | e => e

/-- The first machine has spent `d` more than the second (module doc). -/
structure Ahead {σ : Type} (d : Nat) (m n : Machine σ) : Prop where
  limit : m.gas.limit = n.gas.limit
  used : m.gas.used = n.gas.used + d
  storage : m.storage = n.storage
  events : m.events = n.events

theorem Ahead.refl {σ : Type} (m : Machine σ) : Ahead 0 m m := ⟨rfl, rfl, rfl, rfl⟩

/-- How a run that pays more ends beside one that pays less (module doc). -/
inductive EndAhead {σ α : Type} (d : Nat) :
    EStateM.Result Fault (Machine σ) α → EStateM.Result Fault (Machine σ) α → Prop
  | returned {a : α} {m n : Machine σ} : Ahead d m n → EndAhead d (.ok a m) (.ok a n)
  | failed {e e' : Fault} {m n : Machine σ} : e.unnamed = e'.unnamed → m.storage = n.storage →
      m.events = n.events → EndAhead d (.error e m) (.error e' n)
  | outOfGas {m : Machine σ} {r : EStateM.Result Fault (Machine σ) α} :
      EndAhead d (.error .outOfGas m) r

/-- From `d` to `d'` ahead (module doc). -/
def RunAhead {σ α : Type} (d d' : Nat) (x y : Run σ α) : Prop :=
  ∀ m n, Ahead d m n → EndAhead d' (x m) (y n)

/-! ## Entering an op in the trail -/

/-- What is entered for an op that is about to run is no snapshot. -/
theorem Run.trace_exec {σ : Type} (env : Env) (site : Site) (name : String) (m : Machine σ) :
    ∃ m', trace env (.exec site name) m = .ok () m' ∧ Ahead 0 m' m := by
  unfold trace
  split
  · refine ⟨{ m with trail := m.trail.push (.exec site name) }, rfl, rfl, rfl, rfl, ?_⟩
    simp [Machine.events, TrailEntry.event?]
  · exact ⟨m, rfl, .refl m⟩

theorem Ahead.trans {σ : Type} {d d' : Nat} {m n o : Machine σ} (h : Ahead d m n)
    (h' : Ahead d' n o) : Ahead (d' + d) m o where
  limit := h.limit.trans h'.limit
  used := by rw [h.used, h'.used, Nat.add_assoc]
  storage := h.storage.trans h'.storage
  events := h.events.trans h'.events

theorem Ahead.symm {σ : Type} {m n : Machine σ} (h : Ahead 0 m n) : Ahead 0 n m :=
  ⟨h.limit.symm, h.used.symm, h.storage.symm, h.events.symm⟩

/-- An op that can be paid for is paid for and entered in the trail, and then runs. -/
theorem Run.charge_trace {σ : Type} {cost : Nat} {m : Machine σ}
    (hgas : m.gas.used + cost ≤ m.gas.limit) (env : Env) (site : Site) (name : String) :
    ∃ m₀, Ahead cost m₀ m ∧ ∀ {α : Type} (x : Run σ α),
      (charge cost >>= fun _ => trace env (.exec site name) >>= fun _ => x) m = x m₀ := by
  have hpaid : charge cost m =
      .ok () { m with gas := { m.gas with used := m.gas.used + cost } } := by
    unfold charge Gas.Meter.charge
    rw [if_pos hgas]
  obtain ⟨m₀, htrace, hm₀⟩ := trace_exec env site name
    { m with gas := { m.gas with used := m.gas.used + cost } }
  refine ⟨m₀, ⟨hm₀.limit, hm₀.used, hm₀.storage, hm₀.events⟩, fun x => ?_⟩
  show EStateM.bind (charge cost) _ m = x m₀
  simp only [EStateM.bind, hpaid]
  show EStateM.bind (trace env (.exec site name)) _ _ = x m₀
  simp only [EStateM.bind, htrace]

namespace RunAhead

variable {σ α β : Type} {d d' d'' : Nat}

theorem ret (a : α) : RunAhead (σ := σ) d d (pure a) (pure a) := fun _ _ h => .returned h

theorem bind {x y : Run σ α} {f g : α → Run σ β} (hx : RunAhead d d' x y)
    (hf : ∀ a, RunAhead d' d'' (f a) (g a)) : RunAhead d d'' (x >>= f) (y >>= g) := by
  intro m n h
  have hend := hx m n h
  show EndAhead d'' (EStateM.bind x f m) (EStateM.bind y g n)
  unfold EStateM.bind
  generalize x m = r at hend
  generalize y n = r' at hend
  cases hend with
  | returned hmn => exact hf _ _ _ hmn
  | failed he hs hev => exact .failed he hs hev
  | outOfGas => exact .outOfGas

/-- The first run pays, and the second does not. -/
theorem pay {cost : Nat} {f : Unit → Run σ α} {y : Run σ α} (h : RunAhead (d + cost) d' (f ()) y) :
    RunAhead d d' (Run.charge cost >>= f) y := by
  intro m n hmn
  show EndAhead d' (EStateM.bind (Run.charge cost) f m) (y n)
  unfold EStateM.bind Run.charge Gas.Meter.charge
  by_cases hfits : m.gas.used + cost ≤ m.gas.limit
  · rw [if_pos hfits]
    exact h _ n ⟨hmn.limit, by simp only [hmn.used]; omega, hmn.storage, hmn.events⟩
  · rw [if_neg hfits]
    exact .outOfGas

theorem trace_left {env : Env} {site : Site} {name : String} {f : Unit → Run σ α} {y : Run σ α}
    (h : RunAhead d d' (f ()) y) : RunAhead d d' (Run.trace env (.exec site name) >>= f) y := by
  intro m n hmn
  obtain ⟨m', htrace, hm'⟩ := Run.trace_exec env site name m
  show EndAhead d' (EStateM.bind (Run.trace env (.exec site name)) f m) (y n)
  unfold EStateM.bind
  rw [htrace]
  exact h m' n (hm'.trans hmn)

theorem trace_right {env : Env} {site : Site} {name : String} {x : Run σ α} {g : Unit → Run σ α}
    (h : RunAhead d d' x (g ())) : RunAhead d d' x (Run.trace env (.exec site name) >>= g) := by
  intro m n hmn
  obtain ⟨n', htrace, hn'⟩ := Run.trace_exec env site name n
  show EndAhead d' (x m) (EStateM.bind (Run.trace env (.exec site name)) g n)
  unfold EStateM.bind
  rw [htrace]
  exact h m n' (Nat.zero_add d ▸ hmn.trans hn'.symm)

/-- Both runs look at the top of the same frame, under different names. -/
theorem topN_bind {frame : Stack} {who who' : String} {k : Nat} {f g : List Word → Run σ α}
    (h : ∀ words, words.length = k → RunAhead d d' (f words) (g words)) :
    RunAhead d d' (liftM (frame.topN who k) >>= f) (liftM (frame.topN who' k) >>= g) := by
  unfold Stack.topN
  by_cases hk : k ≤ frame.height
  · rw [if_pos hk, if_pos hk]
    refine h _ ?_
    rw [List.length_drop]
    simp only [Stack.height] at hk ⊢
    omega
  · rw [if_neg hk, if_neg hk]
    exact fun m n hmn => .failed rfl hmn.storage hmn.events

end RunAhead

/-! ## Steps that both runs take -/

/-- The first run is out of gas. -/
def OutOfGas {σ : Type} (e : Fault) (_ _ : Machine σ) : Prop := e = .outOfGas

theorem CoupledUntil.runAhead {σ α : Type} {d : Nat} {x y : Run σ α}
    (h : CoupledUntil (Ahead d) OutOfGas x y) : RunAhead d d x y := by
  intro m n hmn
  have hends := h.ends m n hmn
  revert hends
  cases x m with
  | ok a m' =>
    cases y n with
    | ok b n' =>
      rintro ⟨rfl, hmn'⟩
      exact .returned hmn'
    | error e n' => exact False.elim
  | error e m' =>
    cases y n with
    | ok b n' =>
      rintro rfl
      exact .outOfGas
    | error e' n' =>
      rintro (⟨rfl, hmn'⟩ | rfl)
      · exact .failed rfl hmn'.storage hmn'.events
      · exact .outOfGas

/-- What does not depend on the machine of the second run lasts while that run goes on. -/
theorem preserves_outOfGas {σ α : Type} (e : Fault) (m : Machine σ) (y : Run σ α) :
    Preserves (OutOfGas e m) y := by
  intro n hout
  cases y n with
  | ok b n' => exact hout
  | error e' n' => exact hout

theorem charge_ahead {σ : Type} (d cost : Nat) :
    CoupledUntil (Ahead (σ := σ) d) OutOfGas (Run.charge cost) (Run.charge cost) where
  ends := by
    intro m n hmn
    have hlimit := hmn.limit
    have hused := hmn.used
    unfold Run.charge Gas.Meter.charge
    by_cases hfits : m.gas.used + cost ≤ m.gas.limit
    · rw [if_pos hfits, if_pos (by omega)]
      exact ⟨rfl, hlimit, by simp only; omega, hmn.storage, hmn.events⟩
    · rw [if_neg hfits]
      by_cases hfits' : n.gas.used + cost ≤ n.gas.limit
      · rw [if_pos hfits']
        exact rfl
      · rw [if_neg hfits']
        exact .inr rfl
  lasts e m := preserves_outOfGas e m _

theorem couplingUntil_ahead {σ : Type} [Storage σ] (d : Nat) :
    CouplingUntil (Ahead (σ := σ) d) OutOfGas Eq where
  charge := charge_ahead d
  note {entry _} h := by
    subst h
    refine ⟨fun m n hmn => ⟨rfl, hmn.limit, hmn.used, hmn.storage, ?_⟩,
      fun e m => preserves_outOfGas e m _⟩
    have hevents := hmn.events
    simp only [Machine.events] at hevents ⊢
    rw [Array.toList_push, Array.toList_push, List.filterMap_append, List.filterMap_append, hevents]
  read key := by
    refine ⟨fun m n hmn => ?_, fun e m => preserves_outOfGas e m _⟩
    unfold Run.read
    rw [hmn.storage]
    cases Storage.read n.storage key with
    | ok value => exact ⟨rfl, hmn⟩
    | error cause => exact .inl ⟨rfl, hmn⟩
  write key value := by
    refine ⟨fun m n hmn => ⟨rfl, hmn.limit, hmn.used, ?_, hmn.events⟩,
      fun e m => preserves_outOfGas e m _⟩
    simp only [hmn.storage]

end ExprMachine
