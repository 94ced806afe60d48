import ExprMachine.Proofs.Locality
import ExprMachine.Proofs.Run.Ahead
import ExprMachine.Proofs.Termination
import Mathlib.Logic.ExistsUnique

/-!
# Loops are repeated calls

A round of a loop opens a frame as a call does, so a loop can be written out as calls. A `loop-n` is
as many calls of its target, each of which takes and returns the words that are carried along. A
`do-while` with a condition that is not zero is an `ensure`, which takes the condition off, a call
that returns one word more than it is given, and the `do-while` again. What is written out costs
more, and is otherwise the same (`EndAhead`).

* `step_call_bind`: a call, opened up as far as the frame that it runs.
* `calls_ahead`: calls one after the other beside the rounds of a `loop-n`, by induction on their
  number.
* `Rounds`: the rounds of a `do-while`, counted. Each hands on the words below the condition that it
  left, and the last one leaves zero.
* `repeatWhile_eq_ok_iff`: a `do-while` returns what its rounds come to. It is never short of rounds
  if it is given more of them than there is gas (`Rounds.le_gas`).
-/

namespace ExprMachine

/-- A control-flow op that hands `count` words to the source `target`. -/
structure Op.Targets (op : Op) (f : Flow) (target count : Nat) : Prop where
  opcode : Opcode.ofId? op.opcode = some (.flow f)
  target : op.operand.lowByte = target
  count : op.operand.lowCount = count

namespace Machine

variable {σ : Type}

/-! ## Rounds of a `do-while` -/

/-- `Rounds nested source carried n condition words m words' m'`: from the condition and the words
given, the source is run exactly `n` times, until it leaves the condition zero; the words and the
machine are then the primed ones. -/
inductive Rounds (nested : Nested σ) (source carried : Nat) :
    Nat → Word → List Word → Machine σ → List Word → Machine σ → Prop
  | done {condition : Word} {words : List Word} {m : Machine σ} : condition = 0#256 →
      Rounds nested source carried 0 condition words m words m
  | round {n : Nat} {condition next : Word} {words below words₁ words' : List Word}
      {frame : Stack} {m m₁ m' : Machine σ} : condition ≠ 0#256 →
      nested source words m = .ok frame m₁ → frame.words = below ++ words₁ ++ [next] →
      words₁.length = carried → Rounds nested source carried n next words₁ m₁ words' m' →
      Rounds nested source carried (n + 1) condition words m words' m'

section Rounds

variable {nested : Nested σ} {source carried n : Nat} {condition : Word} {words words' : List Word}
  {m m' : Machine σ}

/-- The top of a frame that holds as many words is the words carried along and the condition. -/
theorem topN_eq_ok_iff {frame : Stack} {who : String} {top : List Word} :
    frame.topN who (carried + 1) = .ok top ↔
      ∃ below words₁ next, frame.words = below ++ words₁ ++ [next] ∧ words₁.length = carried ∧
        top = words₁ ++ [next] := by
  unfold Stack.topN
  constructor
  · intro h
    split at h
    · rename_i hle
      cases h
      simp only [Stack.height] at hle ⊢
      have hlen : (frame.words.drop (frame.words.length - (carried + 1))).length = carried + 1 := by
        rw [List.length_drop]
        omega
      obtain ⟨words₁, next, htop, hcarried⟩ := exists_concat_of_length hlen
      refine ⟨frame.words.take (frame.words.length - (carried + 1)), words₁, next, ?_, hcarried,
        htop⟩
      rw [List.append_assoc, ← htop, List.take_append_drop]
    · cases h
  · rintro ⟨below, words₁, next, hframe, rfl, rfl⟩
    have hheight : frame.height = below.length + (words₁.length + 1) := by
      simp [Stack.height, hframe]
    rw [if_pos (by omega), hheight, Nat.add_sub_cancel, hframe, List.append_assoc,
      List.drop_left]

/-- **A `do-while` is its rounds**, if it is given enough of them. -/
theorem repeatWhile_eq_ok_iff {rounds : Nat} :
    repeatWhile nested source carried rounds condition words m = .ok words' m' ↔
      ∃ n ≤ rounds, Rounds nested source carried n condition words m words' m' := by
  induction rounds generalizing condition words m with
  | zero =>
    unfold repeatWhile
    constructor
    · intro h
      split at h
      · rename_i hz
        cases h
        exact ⟨0, Nat.le_refl 0, .done (Word.isZero_iff.mp hz)⟩
      · cases h
    · rintro ⟨n, hn, hrounds⟩
      obtain rfl : n = 0 := Nat.le_zero.mp hn
      cases hrounds with
      | done hz => rw [if_pos (Word.isZero_iff.mpr hz)]; rfl
  | succ rounds ih =>
    unfold repeatWhile
    constructor
    · intro h
      split at h
      · rename_i hz
        cases h
        exact ⟨0, Nat.zero_le _, .done (Word.isZero_iff.mp hz)⟩
      · rename_i hz
        obtain ⟨frame, m₁, hframe, h⟩ := Run.bind_eq_ok.mp h
        obtain ⟨top, htop, h⟩ := Run.lift_bind_eq_ok.mp h
        obtain ⟨below, words₁, next, hwords, hlen, rfl⟩ := topN_eq_ok_iff.mp htop
        simp only [List.getLast?_concat, List.dropLast_concat] at h
        obtain ⟨n, hn, hrounds⟩ := ih.mp h
        have hne : condition ≠ 0#256 := fun heq => hz (Word.isZero_iff.mpr heq)
        exact ⟨n + 1, Nat.succ_le_succ hn, .round hne hframe hwords hlen hrounds⟩
    · rintro ⟨n, hn, hrounds⟩
      cases hrounds with
      | done hz => rw [if_pos (Word.isZero_iff.mpr hz)]; rfl
      | round hne hframe hwords hlen hrounds =>
        rw [if_neg fun hz => hne (Word.isZero_iff.mp hz)]
        refine Run.bind_eq_ok.mpr ⟨_, _, hframe, Run.lift_bind_eq_ok.mpr ⟨_,
          topN_eq_ok_iff.mpr ⟨_, _, _, hwords, hlen, rfl⟩, ?_⟩⟩
        simp only [List.getLast?_concat, List.dropLast_concat]
        exact ih.mpr ⟨_, Nat.le_of_succ_le_succ hn, hrounds⟩

/-- The number of rounds is a function of where they start. -/
theorem Rounds.unique {n' : Nat} {words'' : List Word} {m'' : Machine σ}
    (h : Rounds nested source carried n condition words m words' m')
    (h' : Rounds nested source carried n' condition words m words'' m'') : n = n' := by
  induction h generalizing n' with
  | done hz =>
    cases h' with
    | done _ => rfl
    | round hne _ _ _ _ => exact absurd hz hne
  | round hne hframe hwords hlen _ ih =>
    cases h' with
    | done hz => exact absurd hz hne
    | round _ hframe' hwords' hlen' hrest' =>
      obtain ⟨rfl, rfl⟩ := EStateM.Result.ok.inj (hframe.symm.trans hframe')
      -- The condition is the last word of the frame, and the words carried along are those below.
      obtain ⟨hbelow, hnext⟩ := List.append_inj' (hwords.symm.trans hwords') rfl
      obtain ⟨-, rfl⟩ := List.append_inj' hbelow (hlen.trans hlen'.symm)
      cases hnext
      rw [ih hrest']

/-- There are no more rounds than gas, for each spends some. -/
theorem Rounds.le_gas {L k : Nat}
    (hs : ∀ k source inputs, Triple (Metered L k) (nested source inputs)
      (fun _ => Metered L (k + 1)) (fun _ => Metered L k))
    (h : Rounds nested source carried n condition words m words' m') (hm : Metered L k m) :
    k + n ≤ L := by
  induction h generalizing k with
  | done _ => exact Nat.le_trans hm.least hm.most
  | @round _ _ _ words _ _ _ _ m _ _ _ hframe _ _ _ ih =>
    have hspent := hs k source words m hm
    rw [hframe] at hspent
    have := ih hspent
    omega

end Rounds

/-! ## Frames that both runs open -/

section Frames

variable [Storage σ] (env : Env) (rounds room depth : Nat)

theorem above_until (d source : Nat) (inputs : List Word) :
    CoupledUntil (Ahead (σ := σ) d) OutOfGas (above env rounds room depth source inputs)
      (above env rounds room depth source inputs) := by
  cases room with
  | zero => exact .fail _
  | succ room =>
    refine openFrame_until (couplingUntil_ahead d) rfl (fun target stack => ?_) source inputs
    exact runSource_until (couplingUntil_ahead d) env rounds room (depth + 1) target stack

theorem above_ahead (d source : Nat) (inputs : List Word) :
    RunAhead (σ := σ) d d (above env rounds room depth source inputs)
      (above env rounds room depth source inputs) :=
  (above_until env rounds room depth d source inputs).runAhead

theorem repeatWhile_ahead (d source carried n : Nat) (condition : Word) (words : List Word) :
    RunAhead (σ := σ) d d
      (repeatWhile (above env rounds room depth) source carried n condition words)
      (repeatWhile (above env rounds room depth) source carried n condition words) :=
  CoupledUntil.runAhead
    (repeatWhile_until (above_until env rounds room depth d) source carried n condition words)

/-- The number of rounds that an op may run does not matter if it is above the gas. -/
theorem step_rounds {L n n' : Nat} (hn : L < n) (hn' : L < n') (site : Site) (op : Op)
    (stack : Stack) {m : Machine σ} (hm : Metered L 0 m) :
    step env (above env rounds room depth) n site op stack m =
      step env (above env rounds room depth) n' site op stack m := by
  have hself (source : Nat) (inputs : List Word) :
      Coupled (InStep L) (above (σ := σ) env rounds room depth source inputs)
        (above env rounds room depth source inputs) :=
    coupled_self_iff.mpr ((above_spends rounds room depth source inputs).conseq (fun _ h => h)
      (fun _ _ h => h.weaken (Nat.zero_le 1)) fun _ _ h => h)
  have hloops := repeatWhile_inStep hself (fun _ => above_spends rounds room depth) hn hn'
  exact (coupled_eq_iff.mp (step_coupled_of_loops (Steady.coupling (steady_metered L 0)) hself
    hloops (echoes_refl env site) op stack)).1 m hm

/-! ## Calls -/

variable {below words : List Word} {c target k j : Nat}

omit rounds room depth in
/-- A call and what follows it, opened up as far as the frame that it runs. -/
theorem step_call_bind {α : Type} {call : Op} (hcall : call.Targets .call target k)
    (hout : call.operand.highCount = j) (hlen : words.length = k) (hfits : below.length + j ≤ c)
    (nested : Nested σ) (rounds : Nat) (site : Site) (next : Stack → Run σ α) :
    step env nested rounds site call ⟨below ++ words, c⟩ >>= next = (do
      Run.charge 8
      Run.trace env (.exec site "call")
      let callee ← nested target words
      let results ← callee.topN "call" j
      next ⟨below ++ results, c⟩) := by
  have hinputs : words.length = Opcode.inputs (.flow .call) call.operand := by
    rw [hlen, ← hcall.count]
    rfl
  have hroom : below.length + Opcode.outputs (.flow .call) call.operand ≤ c := by
    rw [← hout] at hfits
    exact hfits
  rw [step_of_room env nested rounds site below c hcall.opcode rfl hinputs hroom]
  simp only [compute, Opcode.gas, Opcode.name, Flow.name, hcall.target, hout, bind_assoc, pure_bind]

/-- **Calls beside rounds.** Each of them costs 8 more than the round beside it. By induction on
their number. -/
theorem calls_ahead {call : Op} (hcall : call.Targets .call target k)
    (hout : call.operand.highCount = k) (hfits : below.length + k ≤ c) (n d source ip : Nat)
    (hlen : words.length = k) :
    RunAhead (σ := σ) d (d + 8 * n)
      (runOps env (above env rounds room depth) rounds source depth ip (List.replicate n call)
        ⟨below ++ words, c⟩)
      (repeatN (above env rounds room depth) target k n words >>= fun after =>
        pure ⟨below ++ after, c⟩) := by
  induction n generalizing d ip words with
  | zero => exact .ret _
  | succ n ih =>
    rw [List.replicate_succ, runOps, step_call_bind env hcall hout hlen hfits, repeatN]
    simp only [bind_assoc]
    refine .pay (.trace_left (.bind (above_ahead env rounds room depth _ target words) fun frame =>
      .topN_bind fun after hafter => ?_))
    have hsum : d + 8 * (n + 1) = d + 8 + 8 * n := by omega
    rw [hsum]
    exact ih (d + 8) (ip + 1) hafter

end Frames

/-! ## A `loop-n` -/

/-- **A `loop-n` is repeated calls.** On a stack that holds the words to carry, a `loop-n` of at
least one round and as many calls leave the same stack, storage and snapshots, or fail with the same
fault. The calls cost 8 more for each after the first, and only for that may they run out of gas
where the loop does not. A `loop-n` of no rounds costs 8 and does nothing. -/
theorem loopN_is_repeated_call [Storage σ] (env : Env) (rounds room depth source ip : Nat)
    {loop call : Op} {target k : Nat} (hloop : loop.Targets .loopN target k)
    (hcall : call.Targets .call target k) (hout : call.operand.highCount = k) (stack : Stack)
    (hk : k ≤ stack.height) (hfits : stack.height ≤ stack.capacity) (m : Machine σ) :
    (1 ≤ loop.operand.highCount →
      EndAhead (8 * (loop.operand.highCount - 1))
        (runOps env (above env rounds room depth) rounds source depth ip
          (List.replicate loop.operand.highCount call) stack m)
        (step env (above env rounds room depth) rounds ⟨source, ip, depth⟩ loop stack m)) ∧
    (loop.operand.highCount = 0 → m.gas.used + 8 ≤ m.gas.limit → ∃ m', Ahead 8 m' m ∧
      step env (above env rounds room depth) rounds ⟨source, ip, depth⟩ loop stack m =
        .ok stack m') := by
  obtain ⟨below, words, hstack, hlen⟩ := Stack.eq_append hk
  generalize stack.capacity = c at hstack hfits
  subst hstack
  have hfits' : below.length + k ≤ c := by
    rw [← hlen, ← List.length_append]
    exact hfits
  have hinputs : words.length = Opcode.inputs (.flow .loopN) loop.operand := by
    rw [hlen, ← hloop.count]
    rfl
  have hroom : below.length + Opcode.outputs (.flow .loopN) loop.operand ≤ c := by
    rw [show Opcode.outputs (.flow .loopN) loop.operand = k from hloop.count]
    exact hfits'
  rw [step_of_room env _ rounds _ below c hloop.opcode rfl hinputs hroom]
  simp only [compute, Opcode.gas, Opcode.name, Flow.name, hloop.target, hloop.count]
  constructor
  · intro hn
    obtain ⟨n, hcount⟩ : ∃ n, loop.operand.highCount = n + 1 := ⟨_, (Nat.sub_add_cancel hn).symm⟩
    rw [hcount, List.replicate_succ, runOps, step_call_bind env hcall hout hlen hfits', repeatN]
    simp only [bind_assoc]
    -- The first call and the loop pay alike; the calls after it pay once more each.
    refine RunAhead.bind (charge_ahead 0 8).runAhead (fun _ => .trace_left (.trace_right
      (.bind (above_ahead env rounds room depth 0 target words) fun frame =>
        .topN_bind fun after hafter => ?_))) m m (.refl m)
    have hrest := calls_ahead (σ := σ) env rounds room depth hcall hout hfits' n 0 source (ip + 1)
      hafter
    rwa [Nat.zero_add] at hrest
  · intro hn hgas
    obtain ⟨m', hm', hrun⟩ := Run.charge_trace hgas env ⟨source, ip, depth⟩ "loop-n"
    refine ⟨m', hm', ?_⟩
    rw [hrun, hn, repeatN, pure_bind]
    rfl

/-- The second source records a snapshot and doubles its input. The third negates its input and
leaves it as its condition too. -/
def loopingEnv : Env :=
  ⟨⟨[⟨[]⟩, ⟨[.ofRaw 5 0, .ofRaw 0 0, .ofRaw 10 2]⟩, ⟨[.ofRaw 24 0, .ofRaw 0 0]⟩], []⟩, .empty,
    ⟨4, 2⟩, false⟩

/-- A machine of which so much gas is spent, with the given snapshots. -/
def loopingMachine (used : Nat) (events : List DebugEvent) : Machine Overlay :=
  ⟨⟨60, used⟩, .start (.empty .none) 0#256, (events.map TrailEntry.debug).toArray⟩

/-- The snapshots of three rounds of doubling a 5. -/
def doublingEvents : List DebugEvent :=
  [⟨.stack, ⟨1, 0, 1⟩, [5#256]⟩, ⟨.stack, ⟨1, 0, 1⟩, [10#256]⟩, ⟨.stack, ⟨1, 0, 1⟩, [20#256]⟩]

/-- Three rounds of doubling cost 16 less than three calls. -/
theorem doublingLoop_is_repeated_call :
    runOps loopingEnv (above loopingEnv 61 2 0) 61 0 0 0 (List.replicate 3 (.ofRaw 2 0x1101))
      ⟨[9#256, 5#256], 4⟩ (loopingMachine 0 []) =
        .ok ⟨[9#256, 40#256], 4⟩ (loopingMachine 57 doublingEvents) ∧
    ∃ m, step loopingEnv (above loopingEnv 61 2 0) 61 ⟨0, 0, 0⟩ (.ofRaw 3 0x3101)
        ⟨[9#256, 5#256], 4⟩ (loopingMachine 0 []) = .ok ⟨[9#256, 40#256], 4⟩ m ∧
      m.gas.used = 41 ∧ m.events = doublingEvents := by
  have hcalls : runOps loopingEnv (above loopingEnv 61 2 0) 61 0 0 0
      (List.replicate 3 (.ofRaw 2 0x1101)) ⟨[9#256, 5#256], 4⟩ (loopingMachine 0 []) =
        .ok ⟨[9#256, 40#256], 4⟩ (loopingMachine 57 doublingEvents) := by cbv
  refine ⟨hcalls, ?_⟩
  have hloop : Op.Targets (.ofRaw 3 0x3101) .loopN 1 1 := ⟨rfl, rfl, rfl⟩
  have hcall : Op.Targets (.ofRaw 2 0x1101) .call 1 1 := ⟨rfl, rfl, rfl⟩
  have hend := (loopN_is_repeated_call loopingEnv 61 2 0 0 0 hloop hcall rfl ⟨[9#256, 5#256], 4⟩
    (by decide) (by decide) (loopingMachine 0 [])).1 (by decide)
  rw [show (Op.ofRaw 3 0x3101).operand.highCount = 3 from rfl, hcalls] at hend
  generalize step loopingEnv (above loopingEnv 61 2 0) 61 ⟨0, 0, 0⟩ (.ofRaw 3 0x3101)
    ⟨[9#256, 5#256], 4⟩ (loopingMachine 0 []) = ended at hend
  cases hend with
  | @returned _ _ m hahead =>
    have hused : 57 = m.gas.used + 16 := hahead.used
    exact ⟨m, rfl, by omega, hahead.events.symm⟩

/-! ## A `do-while` -/

section DoWhile

variable [Storage σ] (env : Env) {loop : Op} {target k : Nat} {base carried : List Word}
  {condition : Word} {c : Nat}

/-- A `do-while`, opened up as far as its rounds. -/
theorem step_doWhile (hloop : loop.Targets .doWhile target k) (hlen : carried.length = k)
    (hfits : base.length + k ≤ c) (nested : Nested σ) (rounds : Nat) (site : Site) :
    step env nested rounds site loop ⟨base ++ carried ++ [condition], c⟩ = (do
      Run.charge 8
      Run.trace env (.exec site "do-while")
      let after ← repeatWhile nested target k rounds condition carried
      pure ⟨base ++ after, c⟩) := by
  have hinputs : (carried ++ [condition]).length = Opcode.inputs (.flow .doWhile) loop.operand := by
    rw [List.length_append, hlen, ← hloop.count]
    rfl
  have hroom : base.length + Opcode.outputs (.flow .doWhile) loop.operand ≤ c := by
    rw [show Opcode.outputs (.flow .doWhile) loop.operand = k from hloop.count]
    exact hfits
  rw [List.append_assoc, step_of_room env nested rounds site base c hloop.opcode rfl hinputs hroom]
  simp only [compute, Opcode.gas, Opcode.name, Flow.name, hloop.target, hloop.count,
    List.getLast?_concat, List.dropLast_concat]

/-- An `ensure` takes off a condition that is not zero. -/
theorem step_ensure {ensure : Op} (hensure : Opcode.ofId? ensure.opcode = some .ensure)
    (hcondition : condition ≠ 0#256) (hfits : base.length ≤ c) (nested : Nested σ) (rounds : Nat)
    (site : Site) :
    step env nested rounds site ensure ⟨base ++ [condition], c⟩ = (do
      Run.charge 3
      Run.trace env (.exec site "ensure")
      pure ⟨base, c⟩) := by
  have hzero : ¬ condition.isZero = true := fun hz => hcondition (Word.isZero_iff.mp hz)
  rw [step_of_room env nested rounds site base c hensure rfl rfl hfits]
  simp only [compute, Opcode.gas, Opcode.name, if_neg hzero, pure_bind, List.append_nil]

/-- One round more makes no difference to a `do-while` that has more rounds than gas. -/
theorem step_doWhile_succ (hloop : loop.Targets .doWhile target k) (hlen : carried.length = k)
    (hfits : base.length + k ≤ c) {rounds : Nat} (room depth : Nat) (site : Site) {m : Machine σ}
    (hrounds : m.gas.limit < rounds) :
    step env (above env rounds room depth) rounds site loop
        ⟨base ++ carried ++ [condition], c⟩ m =
      step env (above env rounds room depth) (rounds + 1) site loop
        ⟨base ++ carried ++ [condition], c⟩ m := by
  by_cases hused : m.gas.used ≤ m.gas.limit
  · exact step_rounds env rounds room depth hrounds (Nat.lt_succ_of_lt hrounds) site loop _
      ⟨rfl, Nat.zero_le _, hused, trivial⟩
  · -- A meter that is overdrawn does not pay for the op.
    have hcharge : Run.charge 8 m =
        .error .outOfGas { m with gas := { m.gas with used := m.gas.limit } } := by
      unfold Run.charge Gas.Meter.charge
      rw [if_neg (by omega)]
    rw [step_doWhile env hloop hlen hfits, step_doWhile env hloop hlen hfits]
    show EStateM.bind (Run.charge 8) _ m = EStateM.bind (Run.charge 8) _ m
    simp only [EStateM.bind, hcharge]

end DoWhile

/-- **A `do-while` unrolls.** With a condition that is not zero it is an `ensure`, a call and the
`do-while` again, which cost 11 more. With the condition zero it costs 8 and takes it off. It
returns if and only if its rounds come to an end, and there is then one number of them. The rounds
that an op may run are above the gas, as in every evaluation. -/
theorem doWhile_unrolls [Storage σ] (env : Env) (rounds room depth source ip : Nat) {loop : Op}
    {target k : Nat} (hloop : loop.Targets .doWhile target k) (base carried : List Word)
    (condition : Word) {c : Nat} (hlen : carried.length = k)
    (hfits : (base ++ carried ++ [condition]).length ≤ c) (m : Machine σ)
    (hrounds : m.gas.limit < rounds) :
    (condition ≠ 0#256 → ∀ {ensure call : Op}, Opcode.ofId? ensure.opcode = some .ensure →
      call.Targets .call target k → call.operand.highCount = k + 1 →
      EndAhead 11
        (runOps env (above env rounds room depth) rounds source depth ip [ensure, call, loop]
          ⟨base ++ carried ++ [condition], c⟩ m)
        (step env (above env rounds room depth) rounds ⟨source, ip, depth⟩ loop
          ⟨base ++ carried ++ [condition], c⟩ m)) ∧
    (m.gas.used + 8 ≤ m.gas.limit → ∃ m₀, Ahead 8 m₀ m ∧
      (condition = 0#256 →
        step env (above env rounds room depth) rounds ⟨source, ip, depth⟩ loop
          ⟨base ++ carried ++ [condition], c⟩ m = .ok ⟨base ++ carried, c⟩ m₀) ∧
      ∀ after m',
        step env (above env rounds room depth) rounds ⟨source, ip, depth⟩ loop
          ⟨base ++ carried ++ [condition], c⟩ m = .ok after m' ↔
        ∃! n, ∃ words, after = ⟨base ++ words, c⟩ ∧
          Rounds (above env rounds room depth) target k n condition carried m₀ words m') := by
  simp only [List.length_append, List.length_singleton] at hfits
  constructor
  · intro hcondition ensure call hensure hcall hout
    have hzero : ¬ condition.isZero = true := fun hz => hcondition (Word.isZero_iff.mp hz)
    rw [step_doWhile_succ env hloop hlen (by omega) room depth _ hrounds,
      step_doWhile env hloop hlen (by omega), repeatWhile, if_neg hzero, runOps,
      step_ensure env hensure hcondition (by rw [List.length_append]; omega)]
    simp only [bind_assoc, pure_bind]
    rw [runOps, step_call_bind env hcall hout hlen (by omega)]
    refine RunAhead.pay (.trace_left (.bind (charge_ahead 3 8).runAhead fun _ =>
      .trace_left (.trace_right (.bind (above_ahead env rounds room depth 3 target carried)
        fun frame => .topN_bind fun top htop => ?_)))) m m (.refl m)
    -- What the call returned is the stack of the next `do-while`, which pays for itself.
    obtain ⟨next, condition', rfl, hnext⟩ := exists_concat_of_length htop
    rw [runOps, ← List.append_assoc, step_doWhile env hloop hnext (by omega)]
    simp only [runOps, bind_assoc, pure_bind, List.getLast?_concat, List.dropLast_concat]
    exact .pay (.trace_left (.bind
      (repeatWhile_ahead env rounds room depth 11 target k rounds condition' next) fun after =>
        .ret _))
  · intro hgas
    obtain ⟨m₀, hm₀, hrun⟩ := Run.charge_trace hgas env ⟨source, ip, depth⟩ "do-while"
    have hmetered : Metered m.gas.limit 0 m₀ :=
      ⟨hm₀.limit, Nat.zero_le _, hm₀.used ▸ hgas, trivial⟩
    rw [step_doWhile env hloop hlen (by omega), hrun]
    refine ⟨m₀, hm₀, ?_, fun after m' => ?_⟩
    · rintro rfl
      cases rounds <;> rfl
    · constructor
      · intro hended
        obtain ⟨words, m₁, hloops, hlast⟩ := Run.bind_eq_ok.mp hended
        cases hlast
        obtain ⟨n, -, hrounds'⟩ := repeatWhile_eq_ok_iff.mp hloops
        refine ⟨n, ⟨words, rfl, hrounds'⟩, ?_⟩
        rintro n' ⟨words', -, hother⟩
        exact hother.unique hrounds'
      · rintro ⟨n, ⟨words, rfl, hrounds'⟩, -⟩
        have hle := hrounds'.le_gas (fun _ => above_spends rounds room depth) hmetered
        exact Run.bind_eq_ok.mpr ⟨words, m', repeatWhile_eq_ok_iff.mpr ⟨n, by omega, hrounds'⟩, rfl⟩

/-- Negating a zero until it is zero again takes two rounds, and costs 11 less than with the first
one written out. -/
theorem negatingLoop_unrolls :
    runOps loopingEnv (above loopingEnv 61 2 0) 61 0 0 0
      [.ofRaw 6 7, .ofRaw 2 0x2102, .ofRaw 4 0x0102] ⟨[9#256, 0#256, 1#256], 4⟩
      (loopingMachine 0 []) = .ok ⟨[9#256, 0#256], 4⟩ (loopingMachine 37 []) ∧
    ∃ m, step loopingEnv (above loopingEnv 61 2 0) 61 ⟨0, 0, 0⟩ (.ofRaw 4 0x0102)
        ⟨[9#256, 0#256, 1#256], 4⟩ (loopingMachine 0 []) = .ok ⟨[9#256, 0#256], 4⟩ m ∧
      m.gas.used = 26 := by
  have hcalls : runOps loopingEnv (above loopingEnv 61 2 0) 61 0 0 0
      [.ofRaw 6 7, .ofRaw 2 0x2102, .ofRaw 4 0x0102] ⟨[9#256, 0#256, 1#256], 4⟩
      (loopingMachine 0 []) = .ok ⟨[9#256, 0#256], 4⟩ (loopingMachine 37 []) := by cbv
  refine ⟨hcalls, ?_⟩
  have hloop : Op.Targets (.ofRaw 4 0x0102) .doWhile 2 1 := ⟨rfl, rfl, rfl⟩
  have hcall : Op.Targets (.ofRaw 2 0x2102) .call 2 1 := ⟨rfl, rfl, rfl⟩
  have hensure : Opcode.ofId? (Op.ofRaw 6 7).opcode = some .ensure := rfl
  have hend := (doWhile_unrolls loopingEnv 61 2 0 0 0 hloop [9#256] [0#256] 1#256 (c := 4) rfl
    (by decide) (loopingMachine 0 []) (by decide)).1 (by decide) hensure hcall rfl
  rw [show [9#256] ++ [0#256] ++ [1#256] = [9#256, 0#256, 1#256] from rfl, hcalls] at hend
  generalize step loopingEnv (above loopingEnv 61 2 0) 61 ⟨0, 0, 0⟩ (.ofRaw 4 0x0102)
    ⟨[9#256, 0#256, 1#256], 4⟩ (loopingMachine 0 []) = ended at hend
  cases hend with
  | @returned _ _ m hahead =>
    have hused : 37 = m.gas.used + 11 := hahead.used
    exact ⟨m, rfl, by omega⟩

end Machine

end ExprMachine
