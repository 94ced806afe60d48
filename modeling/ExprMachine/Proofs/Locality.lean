import ExprMachine.Machine.Evaluate
import ExprMachine.Proofs.Run.Triple

/-!
# What an op makes of its inputs

An op takes its inputs off the stack, makes other words of them, and puts those on what is left.
`compute` is the part in the middle: the words that an op makes of its inputs, with what it does to
the machine on the way. It is given the whole frame as well, but only a read of the stack and a
`debug` op look at it (`Opcode.looksBelow`).

* `perform_append`: an op is `compute`, and then its results go on top of the words below its
  inputs. It goes through all opcodes, and says all that there is to say of them.
* `compute_length`: there are as many results as the table says, whatever the frames do that the op
  opens. So the check on its outputs never fails.
* `step_append`: an op with its cost and its checks, in the same form (`attempt`).
* `step_of_room`: the same of an op that has what it asks for, without the checks.
* `ops_leave_words_below`: the frame rule. What is below the inputs of an op is neither looked at
  nor changed.
-/

namespace ExprMachine

/-- Whether an op looks at words below its inputs: a read of the stack does, and so does a `debug`
op, which may record them. -/
def Opcode.looksBelow (opcode : Opcode) (operand : Operand) : Bool :=
  match opcode with
  | .readMemory => operand.region == .stack
  | .debug => true
  | _ => false

theorem Stack.length_of_topN {s : Stack} {who : String} {n : Nat} {words : List Word}
    (h : s.topN who n = .ok words) : words.length = n := by
  unfold Stack.topN at h
  split at h
  · rename_i hle
    cases h
    rw [List.length_drop]
    simp only [Stack.height] at hle ⊢
    omega
  · cases h

/-- The words that a `do-while` works on: those that it carries along, and then the condition. -/
theorem exists_concat_of_length {words : List Word} {n : Nat} (h : words.length = n + 1) :
    ∃ carried condition, words = carried ++ [condition] ∧ carried.length = n := by
  have hne : words ≠ [] := List.ne_nil_of_length_eq_add_one h
  refine ⟨words.dropLast, words.getLast hne, (List.dropLast_concat_getLast hne).symm, ?_⟩
  rw [List.length_dropLast, h, Nat.add_sub_cancel]

/-- A stack that holds `n` words has them on top of the others. -/
theorem Stack.eq_append {s : Stack} {n : Nat} (h : n ≤ s.height) :
    ∃ below top, s = ⟨below ++ top, s.capacity⟩ ∧ top.length = n := by
  refine ⟨s.words.take (s.height - n), s.words.drop (s.height - n), ?_, ?_⟩
  · rw [List.take_append_drop]
  · rw [List.length_drop]
    simp only [Stack.height] at h ⊢
    omega

namespace Machine

variable {σ : Type}

/-! ## Results -/

section Results

variable [Storage σ]

/-- The words that an op puts in the place of its inputs (module doc). -/
def compute (env : Env) (nested : Nested σ) (rounds : Nat) (site : Site) (opcode : Opcode)
    (operand : Operand) (frame : Stack) (inputs : List Word) : Run σ (List Word) :=
  match opcode with
  | .readMemory => do
    let word ← fetch env operand frame
    pure [word]
  | .context => do
    let word ← env.context.get operand.highByte operand.lowByte
    pure [word]
  | .flow .call => do
    let callee ← nested operand.lowByte inputs
    callee.topN "call" operand.highCount
  | .flow .loopN => repeatN nested operand.lowByte operand.lowCount operand.highCount inputs
  | .flow .doWhile =>
    match inputs.getLast? with
    | some condition =>
      repeatWhile nested operand.lowByte operand.lowCount rounds condition inputs.dropLast
    | none => throw (.stackUnderflow "do-while" 1 0)
  | .debug =>
    match DebugMode.ofCode? operand.raw with
    | some mode => do
      Run.note (.debug ⟨mode, site, snapshot env site frame mode⟩)
      pure []
    | none => throw (.invalidOperand "debug" operand.raw)
  | .ensure =>
    match inputs with
    | [condition] => if condition.isZero then throw (.ensureFailed operand.raw) else pure []
    | _ => throw (.stackUnderflow "ensure" 1 inputs.length)
  | .set =>
    match inputs with
    | [key, value] => do
      Run.write key value
      pure []
    | _ => throw (.stackUnderflow "set" 2 inputs.length)
  | .get =>
    match inputs with
    | [key] => do
      let value ← Run.read key
      pure [value]
    | _ => throw (.stackUnderflow "get" 1 inputs.length)
  | .calc c => do
    let word ← c.apply inputs
    pure [word]

/-- The results of an op with its cost and the check on its operand. -/
def attempt (env : Env) (nested : Nested σ) (rounds : Nat) (site : Site) (opcode : Opcode)
    (operand : Operand) (frame : Stack) (inputs : List Word) : Run σ (List Word) := do
  Run.charge opcode.gas
  checkInputs opcode operand inputs.length
  Run.trace env (.exec site opcode.name)
  compute env nested rounds site opcode operand frame inputs

end Results

/-! ## How many there are -/

section Lengths

variable {nested : Nested σ} {source carried : Nat}

theorem repeatN_length (n : Nat) {words : List Word} (hw : words.length = carried) :
    Returns (fun _ => True) (repeatN nested source carried n words)
      (fun after => after.length = carried) := by
  induction n generalizing words with
  | zero => exact fun _ _ => hw
  | succ n ih =>
    refine Returns.bind_any fun frame => Returns.lift_bind fun top htop => ?_
    exact ih (Stack.length_of_topN htop)

theorem repeatWhile_length (rounds : Nat) (condition : Word) {words : List Word}
    (hw : words.length = carried) :
    Returns (fun _ => True) (repeatWhile nested source carried rounds condition words)
      (fun after => after.length = carried) := by
  induction rounds generalizing condition words with
  | zero =>
    unfold repeatWhile
    split
    · exact fun _ _ => hw
    · exact fun _ _ => trivial
  | succ rounds ih =>
    unfold repeatWhile
    split
    · exact fun _ _ => hw
    refine Returns.bind_any fun frame => Returns.lift_bind fun top htop => ?_
    have hlen := Stack.length_of_topN htop
    split
    · exact ih _ (by rw [List.length_dropLast]; omega)
    · exact fun _ _ => trivial

variable [Storage σ] (env : Env) (nested : Nested σ) (rounds : Nat) (site : Site) {opcode : Opcode}
  {operand : Operand} (frame : Stack) {inputs : List Word}

/-- **Results are as many as the table says**, whatever the frames do that the op opens. -/
theorem compute_length (hlen : inputs.length = opcode.inputs operand) :
    Returns (fun _ => True) (compute env nested rounds site opcode operand frame inputs)
      (fun words => words.length = opcode.outputs operand) := by
  cases opcode with
  | readMemory | context | «calc» => exact Returns.lift_bind fun word _ _ _ => rfl
  | flow f =>
    cases f with
    | call =>
      refine Returns.bind_any fun frame m _ => ?_
      cases htop : frame.topN "call" operand.highCount with
      | ok words => exact Stack.length_of_topN htop
      | error e => trivial
    | loopN => exact repeatN_length _ hlen
    | doWhile =>
      simp only [compute]
      split
      · refine repeatWhile_length rounds _ ?_
        rw [List.length_dropLast, hlen]
        rfl
      · exact fun _ _ => trivial
  | debug =>
    simp only [compute]
    split
    · exact fun _ _ => rfl
    · exact fun _ _ => trivial
  | ensure =>
    simp only [compute]
    split
    · split
      · exact fun _ _ => trivial
      · exact fun _ _ => rfl
    · exact fun _ _ => trivial
  | set =>
    simp only [compute]
    split
    · exact fun _ _ => rfl
    · exact fun _ _ => trivial
  | get =>
    simp only [compute]
    split
    · exact Returns.bind_any fun _ _ _ => rfl
    · exact fun _ _ => trivial

theorem attempt_length (hlen : inputs.length = opcode.inputs operand) :
    Returns (fun _ => True) (attempt env nested rounds site opcode operand frame inputs)
      (fun words => words.length = opcode.outputs operand) :=
  Returns.bind_any fun _ => Returns.lift_bind fun _ _ => Returns.bind_any fun _ =>
    compute_length env nested rounds site frame hlen

end Lengths

/-! ## Where they go -/

section Placing

variable [Storage σ] {op : Op} {opcode : Opcode} {operand : Operand} {top : List Word}
  (env : Env) (nested : Nested σ) (rounds : Nat) (site : Site) (below : List Word) (c : Nat)

/-- **An op puts its results on what is below its inputs.** -/
theorem perform_append (hlen : top.length = opcode.inputs operand) :
    perform env nested rounds site opcode operand ⟨below ++ top, c⟩ =
      compute env nested rounds site opcode operand ⟨below ++ top, c⟩ top >>=
        fun words => liftM (Stack.extend ⟨below, c⟩ words) := by
  cases opcode with
  | readMemory =>
    obtain rfl : top = [] := List.eq_nil_of_length_eq_zero hlen
    simp only [perform, compute, bind_assoc, pure_bind, Stack.extend_singleton, List.append_nil]
  | context =>
    obtain rfl : top = [] := List.eq_nil_of_length_eq_zero hlen
    simp only [perform, compute, bind_assoc, pure_bind, Stack.extend_singleton, List.append_nil]
  | «calc» k =>
    simp only [Opcode.inputs] at hlen
    simp only [perform, compute, ← hlen, Stack.popN_append, lift_ok_bind, bind_assoc, pure_bind,
      Stack.extend_singleton]
  | flow f =>
    cases f with
    | call =>
      simp only [Opcode.inputs, Flow.inputs] at hlen
      simp only [perform, compute, runCall, ← hlen, Stack.popN_append, lift_ok_bind, bind_assoc]
    | loopN =>
      simp only [Opcode.inputs, Flow.inputs] at hlen
      simp only [perform, compute, runLoopN, ← hlen, Stack.popN_append, lift_ok_bind]
    | doWhile =>
      simp only [Opcode.inputs, Flow.inputs] at hlen
      obtain ⟨carried, condition, rfl, hcarried⟩ := exists_concat_of_length hlen
      simp only [perform, compute, runDoWhile, ← List.append_assoc, Stack.pop_append, ← hcarried,
        Stack.popN_append, lift_ok_bind, List.getLast?_concat, List.dropLast_concat]
  | debug =>
    obtain rfl : top = [] := List.eq_nil_of_length_eq_zero hlen
    simp only [perform, compute, List.append_nil]
    cases DebugMode.ofCode? operand.raw with
    | some mode => rfl
    | none => rfl
  | ensure =>
    obtain ⟨condition, rfl⟩ := List.length_eq_one_iff.mp hlen
    simp only [perform, compute, Stack.pop_append, lift_ok_bind]
    split
    · rfl
    · rfl
  | set =>
    obtain ⟨key, rest, rfl⟩ := List.exists_cons_of_length_eq_add_one hlen
    obtain ⟨value, rfl⟩ := List.length_eq_one_iff.mp (Nat.succ.inj hlen)
    have hsplit : below ++ [key, value] = below ++ [key] ++ [value] := by simp
    simp only [perform, compute, hsplit, Stack.pop_append, lift_ok_bind]
    rfl
  | get =>
    obtain ⟨key, rfl⟩ := List.length_eq_one_iff.mp hlen
    simp only [perform, compute, Stack.pop_append, lift_ok_bind, bind_assoc, pure_bind,
      Stack.extend_singleton]

/-- What passes the check on the inputs has them. -/
theorem inputs_le_of_checkInputs {available : Nat}
    (h : checkInputs opcode operand available = .ok ()) : opcode.inputs operand ≤ available := by
  unfold checkInputs at h
  split at h
  · cases h
  · split at h
    · cases h
    · omega

/-- Of the height, the check on the inputs asks only that it is enough. -/
theorem checkInputs_append (hlen : top.length = opcode.inputs operand) :
    checkInputs opcode operand (Stack.mk (below ++ top) c).height =
      checkInputs opcode operand top.length := by
  have henough : ¬ (Stack.mk (below ++ top) c).height < opcode.inputs operand := by
    simp only [Stack.height, List.length_append]
    omega
  have henough' : ¬ top.length < opcode.inputs operand := by omega
  simp only [checkInputs, henough, henough', ↓reduceIte]

omit [Storage σ] in
/-- As many results as the table says pass the check on the outputs. -/
theorem extend_checkOutputs (hlen : top.length = opcode.inputs operand) {words : List Word}
    (hwords : words.length = opcode.outputs operand) :
    (liftM (Stack.extend ⟨below, c⟩ words) >>= fun after =>
      liftM (checkOutputs opcode operand (Stack.mk (below ++ top) c).height after) : Run σ Stack) =
      liftM (Stack.extend ⟨below, c⟩ words) := by
  rw [Stack.extend_eq]
  split
  · have hheight : (Stack.mk (below ++ words) c).height =
        (Stack.mk (below ++ top) c).height - opcode.inputs operand + opcode.outputs operand := by
      simp only [Stack.height, List.length_append]
      omega
    rw [lift_ok_bind, checkOutputs, if_pos hheight]
  · rfl

/-- **One op.** Its cost, the check on its operand, its results, and where they go. The check on its
outputs is gone, for it never fails. -/
theorem step_append (ho : Opcode.ofId? op.opcode = some opcode)
    (hlen : top.length = opcode.inputs op.operand) :
    step env nested rounds site op ⟨below ++ top, c⟩ =
      attempt env nested rounds site opcode op.operand ⟨below ++ top, c⟩ top >>=
        fun words => liftM (Stack.extend ⟨below, c⟩ words) := by
  unfold step attempt Opcode.lookup
  simp only [ho, lift_ok_bind, bind_assoc, checkInputs_append below c hlen,
    perform_append env nested rounds site below c hlen]
  congr 1
  funext _
  congr 1
  funext _
  congr 1
  funext _ m
  refine bind_congr_of_triple (compute_length env nested rounds site _ hlen) trivial rfl ?_
  exact fun words m' hwords => congrFun (extend_checkOutputs below c hlen hwords) m'

/-! ## The frame rule -/

/-- An op that does not look below its inputs does the same in every frame. -/
theorem attempt_congr (hlooks : opcode.looksBelow operand = false) (frame frame' : Stack) :
    attempt env nested rounds site opcode operand frame top =
      attempt env nested rounds site opcode operand frame' top := by
  cases opcode with
  | readMemory =>
    have hregion : operand.region = .constants := by
      cases hr : operand.region with
      | constants => rfl
      | stack => simp [Opcode.looksBelow, hr] at hlooks
    simp only [attempt, compute, fetch, hregion]
  | debug => cases hlooks
  | flow f => cases f <;> rfl
  | context | ensure | set | get | «calc» => rfl

omit [Storage σ] in
/-- Results that fit go on top; where there are none, the fault stands. -/
theorem bind_extend {x : Run σ (List Word)} {n : Nat}
    (hx : Returns (fun _ => True) x (fun words => words.length = n)) (hfits : below.length + n ≤ c)
    (m : Machine σ) :
    (x >>= fun words => liftM (Stack.extend ⟨below, c⟩ words)) m =
      match x m with
      | .ok words m' => .ok ⟨below ++ words, c⟩ m'
      | .error fault m' => .error fault m' := by
  have hend := hx m trivial
  show EStateM.bind x (fun words => liftM (Stack.extend ⟨below, c⟩ words)) m = _
  unfold EStateM.bind
  revert hend
  cases x m with
  | ok words m' =>
    intro hwords
    simp only
    rw [Stack.extend_eq, if_pos (.inr (by rw [hwords]; exact hfits))]
    rfl
  | error fault m' => exact fun _ => rfl

/-- **One op that has what it asks for**: an operand that it admits, its inputs, and room for its
results. -/
theorem step_of_room (ho : Opcode.ofId? op.opcode = some opcode)
    (ha : opcode.admits op.operand = true) (hlen : top.length = opcode.inputs op.operand)
    (hfits : below.length + opcode.outputs op.operand ≤ c) :
    step env nested rounds site op ⟨below ++ top, c⟩ = (do
      Run.charge opcode.gas
      Run.trace env (.exec site opcode.name)
      let words ← compute env nested rounds site opcode op.operand ⟨below ++ top, c⟩ top
      pure ⟨below ++ words, c⟩) := by
  have hcheck : checkInputs opcode op.operand top.length = .ok () := by
    simp [checkInputs, ha, hlen]
  rw [step_append env nested rounds site below c ho hlen]
  simp only [attempt, hcheck, lift_ok_bind, bind_assoc]
  congr 1
  funext _
  congr 1
  funext _ m
  rw [bind_extend below c (compute_length env nested rounds site _ hlen) hfits m]
  show _ = EStateM.bind _ _ m
  unfold EStateM.bind
  cases compute env nested rounds site opcode op.operand ⟨below ++ top, c⟩ top m with
  | ok words m' => rfl
  | error fault m' => rfl

end Placing

/-- **The frame rule.** An op that does not look below its inputs, met in two frames with the same
inputs on top and room for its results, fails in both with the same fault, or puts the same words in
the place of its inputs in both; either way it leaves the same machine. `nested` may be anything: no
source that the op runs, and none that those run, sees or changes the words below. -/
theorem ops_leave_words_below [Storage σ] (env : Env) (nested : Nested σ) (rounds : Nat)
    (site : Site) (op : Op) {opcode : Opcode} (below below' top : List Word)
    (ho : Opcode.ofId? op.opcode = some opcode)
    (hlooks : opcode.looksBelow op.operand = false) (hlen : top.length = opcode.inputs op.operand)
    (hfits : below.length + opcode.outputs op.operand ≤ env.limits.maxStack)
    (hfits' : below'.length + opcode.outputs op.operand ≤ env.limits.maxStack) (m : Machine σ) :
    (∃ fault m',
      step env nested rounds site op ⟨below ++ top, env.limits.maxStack⟩ m = .error fault m' ∧
      step env nested rounds site op ⟨below' ++ top, env.limits.maxStack⟩ m = .error fault m') ∨
    ∃ words m', words.length = opcode.outputs op.operand ∧
      step env nested rounds site op ⟨below ++ top, env.limits.maxStack⟩ m =
        .ok ⟨below ++ words, env.limits.maxStack⟩ m' ∧
      step env nested rounds site op ⟨below' ++ top, env.limits.maxStack⟩ m =
        .ok ⟨below' ++ words, env.limits.maxStack⟩ m' := by
  have hwords := attempt_length env nested rounds site ⟨below ++ top, env.limits.maxStack⟩ hlen
  rw [step_append env nested rounds site below' _ ho hlen,
    attempt_congr env nested rounds site hlooks _ ⟨below ++ top, env.limits.maxStack⟩,
    step_append env nested rounds site below _ ho hlen,
    bind_extend below _ hwords hfits m, bind_extend below' _ hwords hfits' m]
  have hend := hwords m trivial
  revert hend
  cases attempt env nested rounds site opcode op.operand ⟨below ++ top, env.limits.maxStack⟩ top m
  with
  | ok words m' => exact fun hcount => .inr ⟨words, m', hcount, rfl, rfl⟩
  | error fault m' => exact fun _ => .inl ⟨fault, m', rfl, rfl⟩

/-- A call with one input and one result of a source that adds its input to itself. -/
def doublingCall : Op := .ofRaw 2 0x1101

/-- The call is in the first source, and the second is what it runs. -/
def doublingEnv : Env :=
  ⟨⟨[⟨[doublingCall]⟩, ⟨[.ofRaw 0 0, .ofRaw 10 2]⟩], []⟩, .empty, ⟨4, 2⟩, false⟩

/-- A machine of which so much gas is spent. -/
def doublingMachine (used : Nat) : Machine Overlay :=
  ⟨⟨100, used⟩, .start (.empty .none) 0#256, #[]⟩

/-- The call on top of one word, and on top of two others. -/
theorem doublingCall_leaves_words_below :
    step doublingEnv (openFrame doublingEnv (runSource doublingEnv 101 1 1)) 101 ⟨0, 0, 0⟩
      doublingCall ⟨[9#256, 5#256], 4⟩ (doublingMachine 0) =
        .ok ⟨[9#256, 10#256], 4⟩ (doublingMachine 19) ∧
    step doublingEnv (openFrame doublingEnv (runSource doublingEnv 101 1 1)) 101 ⟨0, 0, 0⟩
      doublingCall ⟨[7#256, 8#256, 5#256], 4⟩ (doublingMachine 0) =
        .ok ⟨[7#256, 8#256, 10#256], 4⟩ (doublingMachine 19) := by
  have hrun : step doublingEnv (openFrame doublingEnv (runSource doublingEnv 101 1 1)) 101 ⟨0, 0, 0⟩
      doublingCall ⟨[9#256, 5#256], 4⟩ (doublingMachine 0) =
        .ok ⟨[9#256, 10#256], 4⟩ (doublingMachine 19) := rfl
  refine ⟨hrun, ?_⟩
  rcases ops_leave_words_below doublingEnv (openFrame doublingEnv (runSource doublingEnv 101 1 1))
    101 ⟨0, 0, 0⟩ doublingCall [9#256] [7#256, 8#256] [5#256] rfl rfl rfl (by decide) (by decide)
    (doublingMachine 0) with ⟨fault, m', hfail, -⟩ | ⟨words, m', -, hok, hok'⟩
  · exact absurd (hrun.symm.trans hfail) nofun
  · obtain ⟨hstack, rfl⟩ := EStateM.Result.ok.inj (hrun.symm.trans hok)
    cases hstack
    exact hok'

end Machine

end ExprMachine
