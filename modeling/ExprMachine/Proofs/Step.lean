import ExprMachine.Machine.Step
import ExprMachine.Proofs.Heights
import ExprMachine.Proofs.Run.Triple

/-!
# What one op does

`step_triple` says once what an op can do, whatever the bundle: it leaves as many words as the table
says, or it fails with one of the faults that its place allows (`OpFault`), or with a fault of a
frame that it opened. Everything proved about runs goes through it.

* `OpFault env F left h op`: the faults of an op that is met at height `h` and whose target, if it
  has one, leaves `left` words. Each constructor carries the condition under which the fault arises,
  so that a bundle that was checked rules it out or not at a glance. There is no constructor for a
  wrong number of outputs: no op leaves one.
* `Opens`: what a control-flow op may rely on when it hands words to its target.

A `do-while` is given a number of rounds. Each round spends gas, so a number above the gas that is
left never runs out (`repeatWhile_triple`).
-/

namespace ExprMachine

open Integrity

/-! ## Computed words -/

/-- A result that is no word, or a division by zero. -/
def Fault.Arithmetic : Fault → Prop
  | .overflow _ | .underflow _ | .divisionByZero _ => True
  | _ => False

namespace Calc

theorem foldlM_outcome {E : Fault → Prop} {f : Word → Word → Except Fault Word}
    (hf : ∀ a b, Outcome (f a b) (fun _ => True) E) (w : Word) (ws : List Word) :
    Outcome (ws.foldlM f w) (fun _ => True) E := by
  induction ws generalizing w with
  | nil => trivial
  | cons v vs ih =>
    rw [List.foldlM_cons]
    exact (hf w v).bind fun u _ => ih u

theorem fold_outcome {E : Fault → Prop} (c : Calc) {f : Word → Word → Except Fault Word}
    (hf : ∀ a b, Outcome (f a b) (fun _ => True) E) {ws : List Word} (hw : 0 < ws.length) :
    Outcome (fold c f ws) (fun _ => True) E := by
  cases ws with
  | nil => simp at hw
  | cons w ws => exact foldlM_outcome hf w ws

theorem compare_outcome {E : Fault → Prop} (c : Calc) (f : Nat → Nat → Bool) {ws : List Word}
    (hw : ws.length = 2) : Outcome (compare c f ws) (fun _ => True) E := by
  match ws, hw with
  | [_, _], _ => trivial

theorem within_outcome {E : Fault → Prop} {e : Fault} (n : Nat) (he : E e) :
    Outcome (within n e) (fun _ => True) E := by
  unfold within
  split
  · trivial
  · exact he

/-- An opcode that is given as many inputs as it takes, and at least its minimum, computes a word or
fails in its arithmetic. -/
theorem apply_outcome (c : Calc) {operand : Operand} {ws : List Word}
    (hw : ws.length = c.inputs operand) (ha : (Opcode.calc c).admits operand = true) :
    Outcome (c.apply ws) (fun _ => True) Fault.Arithmetic := by
  -- The folds need one input, which their minimum of two gives.
  have hpos : c.variadicMin? = some 2 → 0 < ws.length := by
    intro hmin
    simp only [Opcode.admits, Opcode.variadicMin?, hmin, Opcode.inputs] at ha
    have := of_decide_eq_true ha
    omega
  cases c with
  | hash | every | any => trivial
  | add => exact fold_outcome _ (fun a b => within_outcome _ trivial) (hpos rfl)
  | mul => exact fold_outcome _ (fun a b => within_outcome _ trivial) (hpos rfl)
  | sub =>
    refine fold_outcome _ (fun a b => ?_) (hpos rfl)
    unfold difference
    split <;> trivial
  | div =>
    refine fold_outcome _ (fun a b => ?_) (hpos rfl)
    unfold quotient
    split <;> trivial
  | mod =>
    refine fold_outcome _ (fun a b => ?_) (hpos rfl)
    unfold remainder
    split <;> trivial
  | exp =>
    refine fold_outcome _ (fun a b => ?_) (hpos rfl)
    unfold power
    split
    · trivial
    · split
      · trivial
      · exact within_outcome _ trivial
  | min | max | saturatingAdd | saturatingSub | saturatingMul =>
    simp only [apply]
    refine fold_outcome _ (fun _ _ => ?_) (hpos rfl)
    trivial
  | lessThan | greaterThan | equalTo | lessThanOrEqualTo | greaterThanOrEqualTo =>
    simp only [apply]
    exact compare_outcome _ _ hw
  | isZero =>
    match ws, hw with
    | [_], _ => trivial
  | eagerIf =>
    match ws, hw with
    | [_, _, _], _ => trivial

end Calc

/-! ## Faults of an op -/

/-- The faults of an op (module doc). -/
inductive OpFault (env : Env) (F : StoreFault → Prop) (left h : Nat) (op : Op) : Fault → Prop
  | unknownOpcode : Opcode.ofId? op.opcode = none →
      OpFault env F left h op (.unknownOpcode op.opcode)
  | outOfGas : OpFault env F left h op .outOfGas
  | invalidOperand {opcode : Opcode} : Opcode.ofId? op.opcode = some opcode →
      opcode.admits op.operand = false →
      OpFault env F left h op (.invalidOperand opcode.name op.operand.raw)
  | stackUnderflow {opcode : Opcode} : Opcode.ofId? op.opcode = some opcode →
      h < opcode.inputs op.operand →
      OpFault env F left h op (.stackUnderflow opcode.name (opcode.inputs op.operand) h)
  | stackOverflow {opcode : Opcode} : Opcode.ofId? op.opcode = some opcode →
      env.limits.maxStack < op.after h →
      OpFault env F left h op (.stackOverflow env.limits.maxStack)
  | constantOutOfRange : Opcode.ofId? op.opcode = some .readMemory →
      op.operand.region = .constants → env.bundle.constants.length ≤ op.operand.index →
      OpFault env F left h op (.constantOutOfRange op.operand.index)
  | stackReadOutOfRange : Opcode.ofId? op.opcode = some .readMemory →
      op.operand.region = .stack → h ≤ op.operand.index →
      OpFault env F left h op (.stackReadOutOfRange op.operand.index h)
  | contextOutOfBounds : Opcode.ofId? op.opcode = some .context →
      OpFault env F left h op (.contextOutOfBounds op.operand.highByte op.operand.lowByte)
  | invalidMode : Opcode.ofId? op.opcode = some .debug →
      DebugMode.ofCode? op.operand.raw = none →
      OpFault env F left h op (.invalidOperand "debug" op.operand.raw)
  | ensureFailed : Opcode.ofId? op.opcode = some .ensure →
      OpFault env F left h op (.ensureFailed op.operand.raw)
  | store {cause : StoreFault} : Opcode.ofId? op.opcode = some .get → F cause →
      OpFault env F left h op (.store cause)
  | arithmetic {c : Calc} {e : Fault} : Opcode.ofId? op.opcode = some (.calc c) → e.Arithmetic →
      OpFault env F left h op e
  | shortCallee {f : Flow} : Opcode.ofId? op.opcode = some (.flow f) →
      left < f.needed op.operand →
      OpFault env F left h op (.stackUnderflow f.name (f.needed op.operand) left)

namespace Machine

variable {σ : Type} {J : Machine σ → Prop} {L k : Nat} {nested : Nested σ} {G : Fault → Prop}
  {source carried left : Nat}

/-- Handed `carried` words, the source spends gas and leaves `left` words, or fails as `G` says. -/
def Opens (J : Machine σ → Prop) (L c : Nat) (nested : Nested σ) (G : Fault → Prop)
    (source carried left : Nat) : Prop :=
  ∀ inputs : List Word, inputs.length = carried → ∀ k,
    Triple (Spent J L k) (nested source inputs)
      (fun frame m => Spent J L (k + 1) m ∧ frame.Sized c left)
      (fun e m => Spent J L k m ∧ G e)

/-! ## Loops -/

theorem repeatN_triple {c : Nat} (hn : Opens J L c nested G source carried left) (n : Nat)
    {words : List Word} (hw : words.length = carried) :
    Triple (Spent J L k) (repeatN nested source carried n words)
      (fun ws m => Spent J L k m ∧ ws.length = carried)
      (fun e m => Spent J L k m ∧
        (left < carried ∧ e = .stackUnderflow "loop-n" carried left ∨ G e)) := by
  induction n generalizing k words with
  | zero => exact Triple.ret fun m hm => ⟨hm, hw⟩
  | succ n ih =>
    refine Triple.bind ((hn words hw k).conseq (fun _ h => h) (fun _ _ h => h)
      fun e m h => ⟨h.1, .inr h.2⟩) fun frame => Triple.assume fun hf => ?_
    refine Triple.lift_bind ((hf.topN "loop-n" carried).mono (fun _ h => h)
      fun e h m hm => ⟨hm.weaken (Nat.le_succ k), .inl h⟩) fun ws hws => ?_
    exact (ih (k := k + 1) hws).conseq (fun _ h => h)
      (fun _ _ h => ⟨h.1.weaken (Nat.le_succ k), h.2⟩)
      fun _ _ h => ⟨h.1.weaken (Nat.le_succ k), h.2⟩

/-- With more rounds than gas is left, a loop never runs out of them: a round that returned has
spent some. -/
theorem repeatWhile_triple {c : Nat} (hn : Opens J L c nested G source carried left) (rounds : Nat)
    (hr : L < k + rounds) (condition : Word) {words : List Word} (hw : words.length = carried) :
    Triple (Spent J L k) (repeatWhile nested source carried rounds condition words)
      (fun ws m => Spent J L k m ∧ ws.length = carried)
      (fun e m => Spent J L k m ∧
        (left < carried + 1 ∧ e = .stackUnderflow "do-while" (carried + 1) left ∨ G e)) := by
  induction rounds generalizing k condition words with
  | zero =>
    intro m hm
    have := hm.least
    have := hm.most
    omega
  | succ rounds ih =>
    unfold repeatWhile
    split
    · exact Triple.ret fun m hm => ⟨hm, hw⟩
    refine Triple.bind ((hn words hw k).conseq (fun _ h => h) (fun _ _ h => h)
      fun e m h => ⟨h.1, .inr h.2⟩) fun frame => Triple.assume fun hf => ?_
    refine Triple.lift_bind ((hf.topN "do-while" (carried + 1)).mono (fun _ h => h)
      fun e h m hm => ⟨hm.weaken (Nat.le_succ k), .inl h⟩) fun top htop => ?_
    split
    · rename_i next _
      have hlen : top.dropLast.length = carried := by rw [List.length_dropLast]; omega
      exact (ih (k := k + 1) (by omega) next hlen).conseq (fun _ h => h)
        (fun _ _ h => ⟨h.1.weaken (Nat.le_succ k), h.2⟩)
        fun _ _ h => ⟨h.1.weaken (Nat.le_succ k), h.2⟩
    · rename_i hnone
      rw [List.getLast?_eq_none_iff] at hnone
      simp [hnone] at htop

/-! ## Ops -/

/-- The last step of an op: the words that it computed go on top of those that it left. -/
theorem extend_triple {c n : Nat} {rest : Stack} {words : List Word} {E : Fault → Machine σ → Prop}
    {P : Machine σ → Prop} (hs : rest.Sized c n)
    (he : c < n + words.length → ∀ m, P m → E (.stackOverflow c) m) :
    Triple P (liftM (rest.extend words) : Run σ Stack)
      (fun after m => P m ∧ after.Sized c (n + words.length)) E :=
  Triple.lift ((hs.extend words).mono (fun _ h => h) fun _ h m hm => h.2 ▸ he h.1 m hm)

theorem push_triple {c n : Nat} {rest : Stack} {word : Word} {E : Fault → Machine σ → Prop}
    {P : Machine σ → Prop} (hs : rest.Sized c n)
    (he : c < n + 1 → ∀ m, P m → E (.stackOverflow c) m) :
    Triple P (liftM (rest.push word) : Run σ Stack)
      (fun after m => P m ∧ after.Sized c (n + 1)) E :=
  Triple.lift ((hs.push word).mono (fun _ h => h) fun _ h m hm => h.2 ▸ he h.1 m hm)

variable [Storage σ] {F : StoreFault → Prop} {env : Env} {rounds h : Nat} {site : Site} {op : Op}
  {opcode : Opcode} {stack : Stack}

/-- What a control-flow op does to its frame. -/
theorem perform_flow_triple {f : Flow} (ho : Opcode.ofId? op.opcode = some (.flow f))
    (hs : stack.Sized env.limits.maxStack h) (hin : f.inputs op.operand ≤ h)
    (hn : op.operand.lowCount ≤ env.limits.maxStack →
      Opens J L env.limits.maxStack nested G op.operand.lowByte op.operand.lowCount left)
    (hr : L < k + rounds) :
    Triple (Spent J L k) (perform env nested rounds site (.flow f) op.operand stack)
      (fun after m => Spent J L k m ∧ after.Sized env.limits.maxStack (op.after h))
      (fun e m => Spent J L k m ∧ (OpFault env F left h op e ∨ G e)) := by
  have hafter := Op.after_eq ho h
  simp only [Opcode.inputs, Opcode.outputs] at hafter
  -- The words that go into a frame were on the stack, so they fit.
  replace hn := hn (by
    have := hs.fits
    cases f <;> simp only [Flow.inputs] at hin <;> omega)
  have hover : env.limits.maxStack < op.after h → ∀ m, Spent J L k m → Spent J L k m ∧
      (OpFault env F left h op (.stackOverflow env.limits.maxStack) ∨
        G (.stackOverflow env.limits.maxStack)) :=
    fun hlt m hm => ⟨hm, .inl (.stackOverflow ho hlt)⟩
  have hshort : left < f.needed op.operand → ∀ m, Spent J L k m → Spent J L k m ∧
      (OpFault env F left h op (.stackUnderflow f.name (f.needed op.operand) left) ∨
        G (.stackUnderflow f.name (f.needed op.operand) left)) :=
    fun hlt m hm => ⟨hm, .inl (.shortCallee ho hlt)⟩
  cases f with
  | call =>
    simp only [Flow.inputs] at hin
    obtain ⟨inputs, rest, hpop, hlen, hrest⟩ := hs.popN hin "call"
    simp only [perform, runCall, hpop, lift_ok_bind]
    refine Triple.bind ((hn inputs hlen k).conseq (fun _ h => h)
      (fun _ _ h => ⟨h.1.weaken (Nat.le_succ k), h.2⟩) fun e m h => ⟨h.1, .inr h.2⟩)
      fun callee => Triple.assume fun hc => ?_
    refine Triple.lift_bind ((hc.topN "call" op.operand.highCount).mono (fun _ h => h)
      fun e h m hm => h.2 ▸ hshort h.1 m hm) fun results hres => ?_
    have hsum : h - op.operand.lowCount + results.length = op.after h := by
      rw [hafter, hres]; rfl
    rw [← hsum]
    exact extend_triple hrest fun hlt => hover (hsum ▸ hlt)
  | loopN =>
    simp only [Flow.inputs] at hin
    obtain ⟨inputs, rest, hpop, hlen, hrest⟩ := hs.popN hin "loop-n"
    simp only [perform, runLoopN, hpop, lift_ok_bind]
    refine Triple.bind ((repeatN_triple hn op.operand.highCount hlen).conseq (fun _ h => h)
      (fun _ _ h => h) ?_) fun words => Triple.assume fun hw => ?_
    · rintro e m ⟨hm, ⟨hlt, rfl⟩ | hg⟩
      · exact hshort hlt m hm
      · exact ⟨hm, .inr hg⟩
    have hsum : h - op.operand.lowCount + words.length = op.after h := by
      rw [hafter, hw]; rfl
    rw [← hsum]
    exact extend_triple hrest fun hlt => hover (hsum ▸ hlt)
  | doWhile =>
    simp only [Flow.inputs] at hin
    obtain ⟨condition, below, hpop, hbelow⟩ := hs.pop (by omega) "do-while"
    obtain ⟨inputs, rest, hpopN, hlen, hrest⟩ :=
      hbelow.popN (k := op.operand.lowCount) (by omega) "do-while"
    simp only [perform, runDoWhile, hpop, hpopN, lift_ok_bind]
    refine Triple.bind ((repeatWhile_triple hn rounds hr condition hlen).conseq (fun _ h => h)
      (fun _ _ h => h) ?_) fun words => Triple.assume fun hw => ?_
    · rintro e m ⟨hm, ⟨hlt, rfl⟩ | hg⟩
      · exact hshort hlt m hm
      · exact ⟨hm, .inr hg⟩
    have hsum : h - 1 - op.operand.lowCount + words.length = op.after h := by
      rw [hafter, hw]
      simp only [Flow.inputs, Flow.outputs]
      omega
    rw [← hsum]
    exact extend_triple hrest fun hlt => hover (hsum ▸ hlt)

theorem fetch_outcome (ho : Opcode.ofId? op.opcode = some .readMemory)
    (hs : stack.Sized env.limits.maxStack h) :
    Outcome (fetch env op.operand stack) (fun _ => True) (OpFault env F left h op) := by
  unfold fetch
  split
  · rename_i hreg
    unfold Bundle.constant
    split
    · trivial
    · rename_i hnone
      exact .constantOutOfRange ho hreg (List.getElem?_eq_none_iff.mp hnone)
  · rename_i hreg
    refine (hs.get op.operand.index).mono (fun _ h => h) ?_
    rintro e ⟨hle, rfl⟩
    exact .stackReadOutOfRange ho hreg hle

theorem context_outcome (ho : Opcode.ofId? op.opcode = some .context) :
    Outcome (env.context.get op.operand.highByte op.operand.lowByte) (fun _ => True)
      (OpFault env F left h op) := by
  unfold Context.get
  split
  · trivial
  · exact .contextOutOfBounds ho

/-- What any op does to its frame, its inputs being there. -/
theorem perform_triple (hJ : Ambient J F) (ho : Opcode.ofId? op.opcode = some opcode)
    (ha : opcode.admits op.operand = true) (hs : stack.Sized env.limits.maxStack h)
    (hin : opcode.inputs op.operand ≤ h)
    (hn : ∀ f, opcode = .flow f → op.operand.lowCount ≤ env.limits.maxStack →
      Opens J L env.limits.maxStack nested G op.operand.lowByte op.operand.lowCount left)
    (hr : L < k + rounds) :
    Triple (Spent J L k) (perform env nested rounds site opcode op.operand stack)
      (fun after m => Spent J L k m ∧ after.Sized env.limits.maxStack (op.after h))
      (fun e m => Spent J L k m ∧ (OpFault env F left h op e ∨ G e)) := by
  have hafter := Op.after_eq ho h
  have hover : env.limits.maxStack < op.after h → ∀ m, Spent J L k m → Spent J L k m ∧
      (OpFault env F left h op (.stackOverflow env.limits.maxStack) ∨
        G (.stackOverflow env.limits.maxStack)) :=
    fun hlt m hm => ⟨hm, .inl (.stackOverflow ho hlt)⟩
  cases opcode with
  | flow f => exact perform_flow_triple ho hs hin (hn f rfl) hr
  | readMemory =>
    refine Triple.lift_bind ((fetch_outcome ho hs).mono (fun _ h => h)
      fun e he m hm => ⟨hm, .inl he⟩) fun word _ => ?_
    rw [show op.after h = h + 1 from hafter] at hover ⊢
    exact push_triple hs hover
  | context =>
    refine Triple.lift_bind ((context_outcome ho).mono (fun _ h => h)
      fun e he m hm => ⟨hm, .inl he⟩) fun word _ => ?_
    rw [show op.after h = h + 1 from hafter] at hover ⊢
    exact push_triple hs hover
  | debug =>
    rw [show op.after h = h from hafter]
    simp only [perform]
    split
    · exact Triple.bind (Run.triple_note hJ _) fun _ => Triple.ret fun m hm => ⟨hm, hs⟩
    · rename_i hnone
      exact Triple.fail fun m hm => ⟨hm, .inl (.invalidMode ho hnone)⟩
  | ensure =>
    rw [show op.after h = h - 1 from hafter]
    obtain ⟨condition, rest, hpop, hrest⟩ := hs.pop hin "ensure"
    simp only [perform, hpop, lift_ok_bind]
    split
    · exact Triple.fail fun m hm => ⟨hm, .inl (.ensureFailed ho)⟩
    · exact Triple.ret fun m hm => ⟨hm, hrest⟩
  | set =>
    rw [show op.after h = h - 1 - 1 from hafter]
    simp only [Opcode.inputs] at hin
    obtain ⟨value, below, hpop, hbelow⟩ := hs.pop (by omega) "set"
    obtain ⟨key, rest, hpop', hrest⟩ := hbelow.pop (by omega) "set"
    simp only [perform, hpop, hpop', lift_ok_bind]
    exact Triple.bind (Run.triple_write hJ key value) fun _ => Triple.ret fun m hm => ⟨hm, hrest⟩
  | get =>
    obtain ⟨key, rest, hpop, hrest⟩ := hs.pop hin "get"
    simp only [perform, hpop, lift_ok_bind]
    refine Triple.bind (Run.triple_read hJ key fun cause m hF hm => ⟨hm, .inl (.store ho hF)⟩)
      fun value => ?_
    rw [show op.after h = h - 1 + 1 from hafter] at hover ⊢
    exact push_triple hrest hover
  | «calc» c =>
    obtain ⟨inputs, rest, hpop, hlen, hrest⟩ := hs.popN hin c.name
    simp only [Opcode.inputs] at hpop hlen hrest
    simp only [perform, hpop, lift_ok_bind]
    refine Triple.lift_bind ((c.apply_outcome hlen ha).mono (fun _ h => h)
      fun e he m hm => ⟨hm, .inl (.arithmetic ho he)⟩) fun word _ => ?_
    rw [show op.after h = h - c.inputs op.operand + 1 from hafter] at hover ⊢
    exact push_triple hrest hover

theorem checkInputs_outcome (ho : Opcode.ofId? op.opcode = some opcode) :
    Outcome (checkInputs opcode op.operand h)
      (fun _ => opcode.admits op.operand = true ∧ opcode.inputs op.operand ≤ h)
      (OpFault env F left h op) := by
  unfold checkInputs
  cases ha : opcode.admits op.operand with
  | false => exact .invalidOperand ho ha
  | true =>
    simp only [Bool.not_true, Bool.false_eq_true, ↓reduceIte]
    split
    · rename_i hlt
      exact .stackUnderflow ho hlt
    · rename_i hle
      exact ⟨trivial, Nat.le_of_not_lt hle⟩

/-- **One op.** Met at height `h`, an op leaves the height that the table gives, or fails with one
of its own faults or with one of a frame that it opened. -/
theorem step_triple (hJ : Ambient J F) (hs : stack.Sized env.limits.maxStack h)
    (hn : ∀ f, Opcode.ofId? op.opcode = some (.flow f) →
      op.operand.lowCount ≤ env.limits.maxStack →
      Opens J L env.limits.maxStack nested G op.operand.lowByte op.operand.lowCount left)
    (hr : L < k + rounds) :
    Triple (Spent J L k) (step env nested rounds site op stack)
      (fun after m => Spent J L k m ∧ after.Sized env.limits.maxStack (op.after h))
      (fun e m => Spent J L k m ∧ (OpFault env F left h op e ∨ G e)) := by
  unfold step Opcode.lookup
  cases ho : Opcode.ofId? op.opcode with
  | none =>
    intro m hm
    exact ⟨hm, .inl (.unknownOpcode ho)⟩
  | some opcode =>
    simp only [lift_ok_bind]
    refine Triple.bind ((Run.triple_charge hJ fun m hm => ⟨hm, .inl .outOfGas⟩).conseq
      (fun _ h => h) (fun _ _ h => h.weaken (Nat.le_add_right k _)) fun _ _ h => h) fun _ => ?_
    rw [hs.height]
    refine Triple.lift_bind ((checkInputs_outcome ho).mono (fun _ h => h)
      fun e he m hm => ⟨hm, .inl he⟩) fun _ hin => ?_
    refine Triple.bind (Run.triple_trace hJ env _) fun _ => ?_
    refine Triple.bind (perform_triple hJ ho hin.1 hs hin.2
      (fun f hf => hn f (hf ▸ ho)) hr) fun after => Triple.assume fun hafter => ?_
    -- The height is the expected one, so the check on the outputs passes.
    have hcheck : checkOutputs opcode op.operand h after = .ok after := by
      simp only [checkOutputs, hafter.height, Op.after_eq ho h, ↓reduceIte]
    rw [hcheck]
    exact Triple.ret fun m hm => ⟨hm, hafter⟩

end Machine

end ExprMachine
