import ExprMachine.Proofs.Evaluation

/-!
# Evaluations end

Two things bound a run: how deep its frames may nest, and its gas. The first bounds calls that lead
back to where they came from. The second bounds a `do-while` whose condition is never zero, for
every round pays for its frame before it runs, even if the body is empty or made of ops that cost
nothing.

`runFuelled` runs a source on these two alone. It counts the frames below it, as a limit on their
number has to be checked, and recurses on fuel: an op takes a unit, the end of a source takes one,
and what an op runs, be it a frame or the rounds of a loop, has what is left. A run that is out of
fuel ends `unfinished`. The fuel that a source needs (`fuelBound`) is found from the gas limit, the
greatest depth and the length of the sources, and with it or any more the evaluation is the one that
`evaluate` gives (`evaluation_terminates`).

* `openFrame_spends`: opening a frame spends gas before anything is run in it.
* `repeatWhile_rounds`: so a loop is the same for all numbers of rounds above the gas that is left.
* `runFuelled_inStep`: and so is a run for all amounts of fuel above the bound, by induction on the
  fuel.
-/

namespace ExprMachine

open Integrity

/-- The number of ops of the longest source. -/
def Bundle.longest (b : Bundle) : Nat := (b.sources.map Source.size).max?.getD 0

theorem Bundle.length_le_longest {b : Bundle} {index : Nat} {s : Source}
    (h : b.source index = .ok s) : s.ops.length ≤ b.longest := by
  refine List.le_max?_getD_of_mem (List.mem_map_of_mem (f := Source.size) ?_)
  unfold Bundle.source at h
  split at h
  · rename_i hs
    cases h
    exact List.mem_of_getElem? hs
  · cases h

namespace Machine

section Fuel

variable {σ : Type} [Storage σ]

/-- Opens a frame above one at the given depth, if one more is allowed. -/
def enter (env : Env) (run : (depth source ip : Nat) → List Op → Stack → Run σ Stack)
    (depth : Nat) : Nested σ := fun source inputs =>
  if depth < env.limits.maxCallDepth then
    openFrame env (fun source frame => do
      let target ← env.bundle.source source
      run (depth + 1) source 0 target.ops frame) source inputs
  else throw (.callDepth env.limits.maxCallDepth)

/-- Runs ops one after the other, on fuel (module doc). -/
def runFuelled (env : Env) : (fuel depth source ip : Nat) → List Op → Stack → Run σ Stack
  | 0, _, _, _, _, _ => throw .unfinished
  | _ + 1, _, _, _, [], stack => pure stack
  | fuel + 1, depth, source, ip, op :: ops, stack => do
    let stack ← step env (enter env (runFuelled env fuel) depth) fuel ⟨source, ip, depth⟩ op stack
    runFuelled env fuel depth source (ip + 1) ops stack

end Fuel

/-- What a run that ended in the given way comes to. -/
def concluded (maxOutputs : Option Nat) :
    EStateM.Result Fault (Machine Overlay) Stack → Evaluation
  | .ok stack m =>
    ⟨.ok ⟨keepTop maxOutputs stack.words, m.storage.writes, m.gas.used⟩, m.gas.used,
      m.trail.toList⟩
  | .error e m => ⟨.error e, m.gas.used, m.trail.toList⟩

/-- A machine that has not run. -/
def fresh (request : Request) (store : Store) (gasLimit : Nat) : Machine Overlay :=
  ⟨.fresh gasLimit, .start store request.caller, #[]⟩

theorem evaluateWithin_eq (rounds : Nat) (limits : Limits) (request : Request) (store : Store)
    (gasLimit : Nat) (traced : Bool) :
    evaluateWithin rounds limits request store gasLimit traced =
      concluded request.maxOutputs (runSource (envOf limits request traced) rounds
        limits.clamped.maxCallDepth 0 request.source (.empty limits.maxStack)
        (fresh request store gasLimit)) := rfl

/-- Evaluates a request on fuel. -/
def evaluateFuelled (fuel : Nat) (limits : Limits) (request : Request) (store : Store)
    (gasLimit : Nat) (traced : Bool) : Evaluation :=
  let run : Run Overlay Stack := do
    let target ← request.bundle.source request.source
    runFuelled (envOf limits request traced) fuel 0 request.source 0 target.ops
      (.empty limits.maxStack)
  concluded request.maxOutputs (run (fresh request store gasLimit))

/-- Fuel for the ops of a chain of frames as deep as may be, and for as many rounds as there is
gas. -/
def fuelBound (limits : Limits) (bundle : Bundle) (gasLimit : Nat) : Nat :=
  (limits.clamped.maxCallDepth + 1) * (bundle.longest + 1) + gasLimit

/-! ## Spending -/

variable {σ : Type} [Storage σ]

theorem Ambient.steady {J : Machine σ → Prop} {F : StoreFault → Prop} (hJ : Ambient J F)
    (L k : Nat) : Steady (Spent J L k) where
  charge cost := (Run.triple_charge hJ fun _ hm => hm).conseq (fun _ h => h)
    (fun _ _ h => h.weaken (Nat.le_add_right k cost)) fun _ _ h => h
  note entry := Run.triple_note hJ entry
  read key := Run.triple_read hJ key fun _ _ _ hm => hm
  write key value := Run.triple_write hJ key value

/-- At least `k` of the `L` units of gas are spent. -/
abbrev Metered (L k : Nat) : Machine σ → Prop := Spent (fun _ => True) L k

theorem metered_fresh (request : Request) (store : Store) (gasLimit : Nat) :
    Metered gasLimit 0 (fresh request store gasLimit) :=
  ⟨rfl, Nat.le_refl 0, Nat.zero_le gasLimit, trivial⟩

theorem ambient_metered : Ambient (fun _ : Machine σ => True) (fun _ => True) :=
  ⟨fun h => h, fun h => h, fun h => h, fun _ _ => trivial⟩

theorem steady_metered (L k : Nat) : Steady (Metered (σ := σ) L k) :=
  Ambient.steady ambient_metered L k

variable {L k : Nat} {env : Env}

/-- **A frame is paid for** before anything is run in it. -/
theorem openFrame_spends {run : (source : Nat) → Stack → Run σ Stack} {source : Nat}
    {inputs : List Word} {Q : Stack → Machine σ → Prop}
    (hrun : ∀ frame, frame.Sized env.limits.maxStack inputs.length →
      Triple (Metered L (k + 1)) (run source frame) Q fun _ => Metered L (k + 1)) :
    Triple (Metered L k) (openFrame env run source inputs) Q fun _ => Metered L k := by
  refine Triple.bind ((Run.triple_charge ambient_metered fun _ hm => hm).conseq (fun _ h => h)
    (fun _ _ h => h.weaken (Nat.add_le_add_left (frameCost_pos inputs.length) k)) fun _ _ h => h)
    fun _ => ?_
  by_cases hfits : inputs.length ≤ env.limits.maxStack
  · obtain ⟨frame, hseed, hframe⟩ := Stack.seeded_eq_ok hfits
    rw [hseed, lift_ok_bind]
    exact (hrun frame hframe).conseq (fun _ h => h) (fun _ _ h => h)
      fun _ _ h => h.weaken (Nat.le_succ k)
  · simp only [Stack.seeded, hfits, ↓reduceIte]
    exact Triple.fail fun _ hm => hm.weaken (Nat.le_succ k)

/-- What a source with room for `room` frames above its own opens. -/
def above (env : Env) (rounds : Nat) : (room depth : Nat) → Nested σ
  | 0, _ => fun _ _ => throw (.callDepth env.limits.maxCallDepth)
  | room + 1, depth => openFrame env (runSource env rounds room (depth + 1))

theorem runSource_eq (rounds room depth source : Nat) (stack : Stack) :
    runSource (σ := σ) env rounds room depth source stack =
      runFrame env (above env rounds room depth) rounds depth source stack := by
  cases room <;> rfl

theorem above_spends (rounds room depth source : Nat) (inputs : List Word) :
    Triple (Metered L k) (above (σ := σ) env rounds room depth source inputs)
      (fun _ => Metered L (k + 1)) (fun _ => Metered L k) := by
  cases room with
  | zero => exact Triple.fail fun _ hm => hm
  | succ room =>
    refine openFrame_spends fun frame _ => ?_
    exact runSource_preserves (steady_metered L (k + 1)) env rounds room (depth + 1) source frame

/-! ## Rounds -/

omit [Storage σ] in
/-- **Rounds that are not used up.** With more rounds than gas is left, a loop does the same
whatever their number: a round that returned has spent some. -/
theorem repeatWhile_rounds {nested nested' : Nested σ}
    (hn : ∀ source inputs m, Metered L 0 m → nested source inputs m = nested' source inputs m)
    (hs : ∀ k source inputs, Triple (Metered L k) (nested' source inputs)
      (fun _ => Metered L (k + 1)) (fun _ => Metered L k))
    (source carried : Nat) {rounds rounds' : Nat} (hr : L < k + rounds) (hr' : L < k + rounds')
    (condition : Word) (words : List Word) {m : Machine σ} (hm : Metered L k m) :
    repeatWhile nested source carried rounds condition words m =
      repeatWhile nested' source carried rounds' condition words m := by
  have hleast := hm.least
  have hmost := hm.most
  induction rounds generalizing k rounds' condition words m with
  | zero => omega
  | succ rounds ih =>
    cases rounds' with
    | zero => omega
    | succ rounds' =>
      unfold repeatWhile
      split
      · rfl
      refine bind_congr_of_triple (hs k source words) hm
        (hn source words m (hm.weaken (Nat.zero_le k))) fun frame m' hm' => ?_
      cases frame.topN "do-while" (carried + 1) with
      | error e => rfl
      | ok top =>
        simp only [lift_ok_bind]
        cases top.getLast? with
        | none => rfl
        | some next =>
          exact ih (k := k + 1) (by omega) (by omega) next top.dropLast hm' hm'.least hm'.most

/-- The same machine, with a meter that is not overdrawn. -/
abbrev InStep (L : Nat) (m n : Machine σ) : Prop := m = n ∧ Metered L 0 n

omit [Storage σ] in
theorem repeatWhile_inStep {nested nested' : Nested σ}
    (hn : ∀ source inputs, Coupled (InStep L) (nested source inputs) (nested' source inputs))
    (hs : ∀ k source inputs, Triple (Metered L k) (nested' source inputs)
      (fun _ => Metered L (k + 1)) (fun _ => Metered L k))
    {rounds rounds' : Nat} (hr : L < rounds) (hr' : L < rounds') (source carried : Nat)
    (condition : Word) (words : List Word) :
    Coupled (InStep L) (repeatWhile nested source carried rounds condition words)
      (repeatWhile nested' source carried rounds' condition words) := by
  have hsame (source : Nat) (inputs : List Word) := coupled_eq_iff.mp (hn source inputs)
  refine coupled_eq_iff.mpr ⟨fun m hm => ?_, ?_⟩
  · exact repeatWhile_rounds (fun source inputs => (hsame source inputs).1) hs source carried
      (by omega) (by omega) condition words hm
  · exact repeatWhile_preserves (fun source inputs => (hsame source inputs).2) source carried
      rounds' condition words

/-! ## Fuel -/

/-- **Enough fuel.** It suffices for the ops that are left, for those of as many frames as there is
room for, and for more rounds than there is gas. By induction on the fuel. -/
theorem runFuelled_inStep {rounds : Nat} (hrounds : L < rounds) (fuel room depth source ip : Nat)
    (ops : List Op) (stack : Stack) (hdepth : depth + room = env.limits.maxCallDepth)
    (hfuel : ops.length + 1 + room * (env.bundle.longest + 1) + L ≤ fuel) :
    Coupled (InStep L) (runFuelled (σ := σ) env fuel depth source ip ops stack)
      (runOps env (above env rounds room depth) rounds source depth ip ops stack) := by
  induction fuel generalizing room depth source ip ops stack with
  | zero => omega
  | succ fuel ih =>
    cases ops with
    | nil => exact Coupled.ret stack
    | cons op ops =>
      rw [List.length_cons] at hfuel
      have hcoupling := Steady.coupling (steady_metered (σ := σ) L 0)
      have hn (source : Nat) (inputs : List Word) :
          Coupled (InStep L) (enter env (runFuelled env fuel) depth source inputs)
            (above (σ := σ) env rounds room depth source inputs) := by
        cases room with
        | zero =>
          rw [enter, if_neg (by omega)]
          exact Coupled.fail _
        | succ room =>
          rw [Nat.succ_mul] at hfuel
          rw [enter, if_pos (by omega)]
          refine openFrame_coupled hcoupling rfl (fun source frame => ?_) source inputs
          rw [runSource_eq, runFrame]
          cases htarget : env.bundle.source source with
          | error e => exact Coupled.fail e
          | ok target =>
            have hlen := Bundle.length_le_longest htarget
            simp only [lift_ok_bind]
            exact ih room (depth + 1) source 0 target.ops frame (by omega) (by omega)
      have hw := repeatWhile_inStep hn (fun _ => above_spends rounds room depth)
        (show L < fuel by omega) hrounds
      exact Coupled.bind (step_coupled_of_loops hcoupling hn hw (echoes_refl env _) op stack)
        fun after => ih room depth source (ip + 1) ops after hdepth (by omega)

/-! ## Whole evaluations -/

section Evaluations

variable {fuel rounds : Nat} {limits : Limits} {request : Request} {gasLimit : Nat}

theorem evaluateFuelled_eq (hrounds : gasLimit < rounds)
    (hfuel : fuelBound limits request.bundle gasLimit ≤ fuel) (store : Store) (traced : Bool) :
    evaluateFuelled fuel limits request store gasLimit traced =
      evaluateWithin rounds limits request store gasLimit traced := by
  rw [evaluateWithin_eq, evaluateFuelled, runSource_eq, runFrame]
  simp only [envOf]
  cases htarget : request.bundle.source request.source with
  | error e => rfl
  | ok target =>
    have hlen := Bundle.length_le_longest htarget
    rw [fuelBound, Nat.succ_mul] at hfuel
    simp only [lift_ok_bind]
    rw [(coupled_eq_iff.mp (runFuelled_inStep hrounds fuel limits.clamped.maxCallDepth 0
      request.source 0 target.ops _ (Nat.zero_add _) (by simp only; omega))).1 _
      (metered_fresh request store gasLimit)]

/-- The number of rounds does not matter if it is above the gas. -/
theorem evaluateWithin_eq_evaluate (hrounds : gasLimit < rounds) (store : Store) (traced : Bool) :
    evaluateWithin rounds limits request store gasLimit traced =
      evaluate limits request store gasLimit traced := by
  rw [← evaluateFuelled_eq hrounds (Nat.le_refl _), evaluate]
  exact evaluateFuelled_eq (Nat.lt_succ_self gasLimit) (Nat.le_refl _) store traced

end Evaluations

end Machine

theorem OpFault.ne_unfinished {env : Env} {F : StoreFault → Prop} {left h : Nat} {op : Op}
    {e : Fault} (he : OpFault env F left h op e) : e ≠ .unfinished := by
  rintro rfl
  cases he with
  | arithmetic _ ha => exact ha

/-- No run is left unfinished. -/
theorem Arises.ne_unfinished {env : Env} {F : StoreFault → Prop} {room : Nat} {p : Start}
    {e : Fault} (h : Arises env F room p e) : e ≠ .unfinished := by
  induction h with
  | missing _ => exact nofun
  | own _ he => exact he.ne_unfinished
  | full _ _ => exact nofun
  | nested _ _ ih => exact ih

namespace Machine

/-- **Every evaluation ends.** Whatever the bundle, it comes to a result. That result is the same
for all numbers of rounds above the gas limit, and the one of an evaluation on fuel for any amount
of it from `fuelBound` on. -/
theorem evaluation_terminates (limits : Limits) (request : Request) (store : Store)
    (gasLimit : Nat) (traced : Bool) :
    (evaluate limits request store gasLimit traced).outcome ≠ .error .unfinished ∧
    (∀ rounds, gasLimit < rounds →
      evaluateWithin rounds limits request store gasLimit traced =
        evaluate limits request store gasLimit traced) ∧
    ∀ fuel, fuelBound limits request.bundle gasLimit ≤ fuel →
      evaluateFuelled fuel limits request store gasLimit traced =
        evaluate limits request store gasLimit traced := by
  refine ⟨fun hout => ?_, fun rounds hrounds => ?_, fun fuel hfuel => ?_⟩
  · have hcause := evaluate_outcome limits request store gasLimit traced
    rw [hout] at hcause
    exact hcause.ne_unfinished rfl
  · exact evaluateWithin_eq_evaluate hrounds store traced
  · exact evaluateFuelled_eq (Nat.lt_succ_self gasLimit) hfuel store traced

/-- The first source runs the second in a `do-while`; the second records a snapshot and leaves a
condition that is not zero. -/
def spinningBundle : Bundle :=
  ⟨[⟨[.ofRaw 0 1, .ofRaw 4 1]⟩, ⟨[.ofRaw 5 0, .ofRaw 0 1]⟩], [1#256]⟩

/-- It is the gas that ends the loop, not the rounds or the fuel. -/
theorem spinningBundle_terminates :
    (evaluateWithin 1000 ⟨4, 2⟩ ⟨spinningBundle, 0, .empty, 0#256, none⟩ (.empty .none) 40
      false).outcome = .error .outOfGas ∧
    (evaluateFuelled 49 ⟨4, 2⟩ ⟨spinningBundle, 0, .empty, 0#256, none⟩ (.empty .none) 40
      false).outcome = .error .outOfGas := by
  have houtcome : (evaluate ⟨4, 2⟩ ⟨spinningBundle, 0, .empty, 0#256, none⟩ (.empty .none) 40
      false).outcome = .error .outOfGas := by cbv
  obtain ⟨-, hrounds, hfuel⟩ := evaluation_terminates ⟨4, 2⟩
    ⟨spinningBundle, 0, .empty, 0#256, none⟩ (.empty .none) 40 false
  rw [hrounds 1000 (by decide), hfuel 49 (by decide)]
  exact ⟨houtcome, houtcome⟩

end Machine

end ExprMachine
