import ExprMachine.Proofs.Integrity.Nesting
import ExprMachine.Proofs.Termination

/-!
# Integrity analysis refuses nothing that runs

A `do-while` whose first condition is zero and a `loop-n` of no rounds do not run their target, so
an evaluation that succeeds says nothing of it. In a bundle without such ops one successful
evaluation goes through everything that its source reaches, and with that it has shown all that the
analysis looks for (`check_accepts_what_runs`).

* `Op.skippable`, `Bundle.Unconditional`: the ops that may leave their target out, and the bundles
  without them.
* `Shown`: what an op that returned has shown of its place. `step_shows` says that it has.
* `runSource_certifies`: a source that ended is certified, by induction on the room for frames. A
  frame that returned has certified its target, and the words that were taken from its top were
  there.
-/

namespace ExprMachine

open Integrity

/-- Whether an op may return without having run the source that it names. -/
def Op.skippable (op : Op) : Bool :=
  match Opcode.ofId? op.opcode with
  | some (.flow .doWhile) => true
  | some (.flow .loopN) => op.operand.highCount == 0
  | _ => false

/-- No source has a `do-while`, or a `loop-n` of no rounds. -/
def Bundle.Unconditional (b : Bundle) : Prop :=
  ∀ source ∈ b.sources, ∀ op ∈ source.ops, op.skippable = false

instance (b : Bundle) : Decidable b.Unconditional :=
  inferInstanceAs (Decidable (∀ source ∈ b.sources, ∀ op ∈ source.ops, op.skippable = false))

theorem Bundle.Unconditional.skippable_eq {b : Bundle} (hb : b.Unconditional) {p : Start} {ip : Nat}
    {op : Op} (hop : (p.ops b)[ip]? = some op) : op.skippable = false := by
  unfold Start.ops at hop
  split at hop
  · rename_i source hsource
    exact hb source (List.mem_of_getElem? hsource) op (List.mem_of_getElem? hop)
  · cases hop

/-! ## What has been shown -/

/-- What an op that was met at height `h` and returned has shown of its operand. `Y` holds of the
frame that it opened. -/
def Shown (b : Bundle) (h : Nat) (Y : Stack → Prop) (operand : Operand) : Opcode → Prop
  | .readMemory =>
    match operand.region with
    | .constants => operand.index < b.constants.length
    | .stack => operand.index < h
  | .debug => DebugMode.ofCode? operand.raw ≠ none
  | .flow f => ∃ frame : Stack, Y frame ∧ f.needed operand ≤ frame.height
  | _ => True

/-- An op fits at height `h`, and its target is certified and leaves what the op needs. -/
def Assured (b : Bundle) (limits : Limits) (h : Nat) (op : Op) : Prop :=
  ∃ opcode, Opcode.ofId? op.opcode = some opcode ∧ OpFits b limits h op opcode ∧
    ∀ f, opcode = .flow f → f.needed op.operand ≤ (targetOf op.operand).final b ∧
      Certified b limits (targetOf op.operand)

variable {b : Bundle} {limits : Limits} {p : Start}

theorem Shown.assured {h : Nat} {op : Op} {opcode : Opcode}
    (hshown : Shown b h (fun frame => frame.Sized limits.maxStack ((targetOf op.operand).final b) ∧
      Certified b limits (targetOf op.operand)) op.operand opcode)
    (ho : Opcode.ofId? op.opcode = some opcode) (hadmits : opcode.admits op.operand = true)
    (hin : opcode.inputs op.operand ≤ h) (hlimit : op.after h ≤ limits.maxStack) :
    Assured b limits h op := by
  have hflow : ∀ f, opcode = .flow f → f.needed op.operand ≤ (targetOf op.operand).final b ∧
      Certified b limits (targetOf op.operand) := by
    rintro f rfl
    obtain ⟨frame, ⟨hsized, hcertified⟩, hneeded⟩ := hshown
    exact ⟨hsized.height ▸ hneeded, hcertified⟩
  refine ⟨opcode, ho, ⟨hadmits, hin, ?_, ?_, ?_, fun f hf => ?_, hlimit⟩, hflow⟩
  · rintro rfl hregion
    simpa only [Shown, hregion] using hshown
  · rintro rfl hregion
    simpa only [Shown, hregion] using hshown
  · rintro rfl
    exact hshown
  · exact ((hflow f hf).2 _ (Reaches.refl _)).1

/-- A start whose ops are assured is certified: what it reaches it reaches through one of them. -/
theorem certified_of_assured (hsource : p.source < b.sources.length)
    (h : ∀ ip op, (p.ops b)[ip]? = some op → Assured b limits (p.heightAt b ip) op) :
    Certified b limits p := by
  intro q hq
  rcases Relation.ReflTransGen.cases_head hq with rfl | ⟨t, ⟨ip, op, f, hop, ho, rfl⟩, htq⟩
  · refine ⟨hsource, fun ip op hop => ?_, fun ip op f hop ho => ?_⟩
    · obtain ⟨opcode, ho, hfits, -⟩ := h ip op hop
      exact ⟨opcode, ho, hfits⟩
    · obtain ⟨opcode, ho', -, hflow⟩ := h ip op hop
      rw [ho] at ho'
      cases ho'
      exact (hflow f rfl).1
  · obtain ⟨opcode, ho', -, hflow⟩ := h ip op hop
    rw [ho] at ho'
    cases ho'
    exact (hflow f rfl).2 q htq

/-! ## Steps that return -/

theorem Returns.bind_keeps {σ α β : Type} {P : Machine σ → Prop} {Q : α → Prop} {y : Run σ β}
    {f : β → Run σ α} (hy : Preserves P y) (hf : ∀ b, Returns P (f b) Q) :
    Returns P (y >>= f) Q :=
  Triple.bind (hy.conseq (fun _ h => h) (fun _ _ h => h) fun _ _ _ => trivial) hf

namespace Machine

variable {σ : Type} {L k rounds h : Nat} {nested : Nested σ} {stack : Stack}

/-- Handed as many words as the start says, its source spends gas and leaves a frame of its final
height, and then the start is certified. -/
def Certifies (b : Bundle) (limits : Limits) (L : Nat) (nested : Nested σ) (q : Start) : Prop :=
  ∀ inputs : List Word, inputs.length = q.height → ∀ k,
    Triple (Metered L k) (nested q.source inputs)
      (fun frame m => Metered L (k + 1) m ∧ frame.Sized limits.maxStack (q.final b) ∧
        Certified b limits q)
      (fun _ m => Metered L k m)

variable [Storage σ] {env : Env} {site : Site} {op : Op} {opcode : Opcode}

theorem fetch_shows {operand : Operand} {word : Word} (h : fetch env operand stack = .ok word)
    (Y : Stack → Prop) : Shown env.bundle stack.height Y operand .readMemory := by
  unfold fetch at h
  cases hregion : operand.region with
  | constants =>
    simp only [hregion, Bundle.constant] at h
    simp only [Shown, hregion]
    split at h
    · rename_i hword
      exact (List.getElem?_eq_some_iff.mp hword).1
    · cases h
  | stack =>
    simp only [hregion, Stack.get] at h
    simp only [Shown, hregion]
    split at h
    · rename_i hword
      exact (List.getElem?_eq_some_iff.mp hword).1
    · cases h

theorem topN_shows {frame : Stack} {who : String} {n : Nat} {words : List Word}
    (h : frame.topN who n = .ok words) : n ≤ frame.height := by
  unfold Stack.topN at h
  split at h
  · assumption
  · cases h

/-- What an op that returned has shown, its inputs being there. -/
theorem perform_shows {P : Machine σ → Prop} {Y : Stack → Prop} {c : Nat}
    (ho : Opcode.ofId? op.opcode = some opcode) (hop : op.skippable = false)
    (hs : stack.Sized c h) (hin : opcode.inputs op.operand ≤ h)
    (hn : ∀ f, opcode = .flow f → ∀ inputs, inputs.length = op.operand.lowCount →
      Returns P (nested op.operand.lowByte inputs) Y) :
    Returns P (perform env nested rounds site opcode op.operand stack)
      (fun _ => Shown env.bundle h Y op.operand opcode) := by
  cases opcode with
  | readMemory =>
    refine Returns.lift_bind fun word hword => Returns.of_forall fun _ => ?_
    rw [← hs.height]
    exact fetch_shows hword Y
  | debug =>
    simp only [perform]
    split
    · rename_i mode hmode
      refine Returns.of_forall fun _ => ?_
      rw [Shown, hmode]
      exact Option.some_ne_none mode
    · exact Triple.fail fun _ _ => trivial
  | flow f =>
    cases f with
    | doWhile => simp [Op.skippable, ho] at hop
    | call =>
      obtain ⟨inputs, rest, hpop, hlen, -⟩ := hs.popN hin "call"
      simp only [Opcode.inputs, Flow.inputs] at hpop hlen
      simp only [perform, runCall, hpop, lift_ok_bind]
      refine Returns.bind (hn .call rfl inputs hlen) fun frame hframe => ?_
      refine Returns.lift_bind fun words hwords => Returns.of_forall fun _ => ?_
      exact ⟨frame, hframe, topN_shows hwords⟩
    | loopN =>
      obtain ⟨inputs, rest, hpop, hlen, -⟩ := hs.popN hin "loop-n"
      simp only [Opcode.inputs, Flow.inputs] at hpop hlen
      simp only [perform, runLoopN, hpop, lift_ok_bind]
      -- There is a first round, and it shows all that the others would.
      obtain ⟨n, hrounds⟩ : ∃ n, op.operand.highCount = n + 1 := by
        refine Nat.exists_eq_succ_of_ne_zero fun hzero => ?_
        simp [Op.skippable, ho, hzero] at hop
      rw [hrounds, repeatN, bind_assoc]
      refine Returns.bind (hn .loopN rfl inputs hlen) fun frame hframe => ?_
      rw [bind_assoc]
      refine Returns.lift_bind fun words hwords => Returns.of_forall fun _ => ?_
      exact ⟨frame, hframe, topN_shows hwords⟩
  | context | ensure | set | get | «calc» => exact Returns.of_forall fun _ => trivial

/-- **One op.** If it returns, its opcode is known, its operand is admitted, its inputs were there,
and it has shown the rest. -/
theorem step_shows {Y : Stack → Prop} {c : Nat} (hop : op.skippable = false)
    (hs : stack.Sized c h)
    (hn : ∀ f, Opcode.ofId? op.opcode = some (.flow f) →
      ∀ inputs, inputs.length = op.operand.lowCount →
      Returns (Metered L k) (nested op.operand.lowByte inputs) Y) :
    Returns (Metered L k) (step env nested rounds site op stack) fun _ =>
      ∃ opcode, Opcode.ofId? op.opcode = some opcode ∧ opcode.admits op.operand = true ∧
        opcode.inputs op.operand ≤ h ∧ Shown env.bundle h Y op.operand opcode := by
  have hsteady := steady_metered (σ := σ) L k
  unfold step Opcode.lookup
  cases ho : Opcode.ofId? op.opcode with
  | none => exact Triple.fail fun _ _ => trivial
  | some opcode =>
    simp only [lift_ok_bind]
    have hchecked : Outcome (checkInputs opcode op.operand h)
        (fun _ => opcode.admits op.operand = true ∧ opcode.inputs op.operand ≤ h)
        (OpFault env (fun _ => True) 0 h op) := checkInputs_outcome ho
    refine Returns.bind_keeps (hsteady.charge _) fun _ => ?_
    rw [hs.height]
    refine Returns.lift_bind fun _ hpassed => ?_
    rw [hpassed] at hchecked
    obtain ⟨hadmits, hin⟩ := hchecked
    refine Returns.bind_keeps (Run.triple_trace ambient_metered env _) fun _ => ?_
    refine Returns.bind (perform_shows ho hop hs hin fun f hf => hn f (hf ▸ ho))
      fun after hshown => Returns.of_forall fun _ => ?_
    exact ⟨opcode, rfl, hadmits, hin, hshown⟩

/-- An op that returned is assured, if its target certifies itself by returning. -/
theorem step_assures (hmax : env.limits.maxStack = limits.maxStack) (hop : op.skippable = false)
    (hs : stack.Sized limits.maxStack h)
    (hn : ∀ f, Opcode.ofId? op.opcode = some (.flow f) →
      Certifies env.bundle limits L nested (targetOf op.operand))
    (hr : L < k + rounds) :
    Triple (Metered L k) (step env nested rounds site op stack)
      (fun after m => Metered L k m ∧ after.Sized limits.maxStack (op.after h) ∧
        Assured env.bundle limits h op)
      (fun _ m => Metered L k m) := by
  have hsized : Triple (Metered L k) (step env nested rounds site op stack)
      (fun after m => Metered L k m ∧ after.Sized env.limits.maxStack (op.after h))
      (fun e m => Metered L k m ∧
        (OpFault env (fun _ => True) ((targetOf op.operand).final env.bundle) h op e ∨ True)) :=
    step_triple ambient_metered (hmax ▸ hs) (fun f ho _ inputs hlen k =>
      (hn f ho inputs hlen k).conseq (fun _ h => h) (fun _ _ h => ⟨h.1, hmax ▸ h.2.1⟩)
        fun _ _ h => ⟨h, trivial⟩) hr
  refine (hsized.and (step_shows hop hs fun f ho inputs hlen =>
    (hn f ho inputs hlen k).conseq (fun _ h => h) (fun _ _ h => h.2) fun _ _ _ => trivial)).conseq
    (fun _ h => h) ?_ fun _ _ h => h.1.1
  rintro after m ⟨⟨hm, hafter⟩, opcode, ho, hadmits, hin, hshown⟩
  rw [hmax] at hafter
  exact ⟨hm, hafter, hshown.assured ho hadmits hin hafter.fits⟩

/-! ## Runs -/

/-- The ops of a start, from any place on. -/
theorem runOps_assures (hmax : env.limits.maxStack = limits.maxStack)
    (hb : env.bundle.Unconditional)
    (hn : ∀ q, Calls env.bundle p q → Certifies env.bundle limits L nested q)
    (hr : L < k + rounds) (depth ip : Nat) (ops : List Op)
    (hops : (p.ops env.bundle).drop ip = ops)
    (hs : stack.Sized limits.maxStack (p.heightAt env.bundle ip)) :
    Triple (Metered L k) (runOps env nested rounds p.source depth ip ops stack)
      (fun after m => Metered L k m ∧ after.Sized limits.maxStack (p.final env.bundle) ∧
        ∀ j op, ip ≤ j → (p.ops env.bundle)[j]? = some op →
          Assured env.bundle limits (p.heightAt env.bundle j) op)
      (fun _ m => Metered L k m) := by
  induction ops generalizing ip stack with
  | nil =>
    have hlen := List.drop_eq_nil_iff.mp hops
    rw [Start.heightAt_of_le hlen] at hs
    refine Triple.ret fun m hm => ⟨hm, hs, fun j op hj hop => ?_⟩
    have hlt := (List.getElem?_eq_some_iff.mp hop).1
    omega
  | cons op ops ih =>
    obtain ⟨hop, hrest⟩ := getElem?_of_drop hops
    refine Triple.bind (step_assures hmax (hb.skippable_eq hop) hs
      (fun f ho => hn _ ⟨ip, op, f, hop, ho, rfl⟩) hr) fun after => Triple.assume ?_
    rintro ⟨hafter, hassured⟩
    rw [← Start.heightAt_succ hop] at hafter
    refine (ih (ip + 1) hrest hafter).conseq (fun _ h => h) ?_ fun _ _ h => h
    rintro stack m ⟨hm, hsized, hlater⟩
    refine ⟨hm, hsized, fun j op' hj hop' => ?_⟩
    rcases Nat.lt_or_eq_of_le hj with hlt | rfl
    · exact hlater j op' hlt hop'
    · rw [hop] at hop'
      cases hop'
      exact hassured

theorem runFrame_certifies (hmax : env.limits.maxStack = limits.maxStack)
    (hb : env.bundle.Unconditional)
    (hn : ∀ q, Calls env.bundle p q → Certifies env.bundle limits L nested q)
    (hr : L < k + rounds) (depth : Nat) (hs : stack.Sized limits.maxStack p.height) :
    Triple (Metered L k) (runFrame env nested rounds depth p.source stack)
      (fun after m => Metered L k m ∧ after.Sized limits.maxStack (p.final env.bundle) ∧
        Certified env.bundle limits p)
      (fun _ m => Metered L k m) := by
  unfold runFrame Bundle.source
  cases hsource : env.bundle.sources[p.source]? with
  | none => exact Triple.fail fun _ hm => hm
  | some source =>
    simp only [lift_ok_bind]
    rw [← Start.ops_eq hsource]
    refine (runOps_assures hmax hb hn hr depth 0 _ List.drop_zero hs).conseq (fun _ h => h) ?_
      fun _ _ h => h
    rintro after m ⟨hm, hsized, hassured⟩
    refine ⟨hm, hsized, certified_of_assured (List.getElem?_eq_some_iff.mp hsource).1 ?_⟩
    exact fun ip op hop => hassured ip op (Nat.zero_le ip) hop

/-- **A source that ended is certified.** By induction on the room that is left for frames. -/
theorem runSource_certifies (hmax : env.limits.maxStack = limits.maxStack)
    (hb : env.bundle.Unconditional) (hr : L < rounds) (room depth : Nat)
    (hs : stack.Sized limits.maxStack p.height) :
    Triple (Metered L k) (runSource (σ := σ) env rounds room depth p.source stack)
      (fun after m => Metered L k m ∧ after.Sized limits.maxStack (p.final env.bundle) ∧
        Certified env.bundle limits p)
      (fun _ m => Metered L k m) := by
  induction room generalizing k depth p stack with
  | zero =>
    refine runFrame_certifies hmax hb (fun q _ inputs _ k => ?_) (by omega) depth hs
    exact Triple.fail fun _ hm => hm
  | succ room ih =>
    refine runFrame_certifies hmax hb (fun q _ inputs hlen k => ?_) (by omega) depth hs
    refine openFrame_spends fun frame hframe => ?_
    rw [hmax, hlen] at hframe
    exact ih (depth + 1) hframe

/-! ## Evaluations -/

/-- An evaluation that succeeded has certified its source. -/
theorem evaluate_certifies {limits limits' : Limits} {request : Request} {store : Store}
    {gasLimit : Nat} {traced : Bool} {output : Output} (hb : request.bundle.Unconditional)
    (h : (evaluate limits request store gasLimit traced).outcome = .ok output)
    (hmax : limits.maxStack = limits'.maxStack) :
    Certified request.bundle limits' ⟨request.source, 0⟩ := by
  have hempty : (Stack.empty limits.maxStack).Sized limits'.maxStack 0 :=
    hmax ▸ Stack.sized_empty limits.maxStack
  have hend : Ends (runSource (envOf limits request traced) (gasLimit + 1)
        limits.clamped.maxCallDepth 0 request.source (.empty limits.maxStack)
        (fresh request store gasLimit))
      (fun after m => Metered gasLimit 0 m ∧
        after.Sized limits'.maxStack (Start.final request.bundle ⟨request.source, 0⟩) ∧
        Certified request.bundle limits' ⟨request.source, 0⟩)
      (fun _ m => Metered gasLimit 0 m) :=
    runSource_certifies (p := ⟨request.source, 0⟩) hmax hb (Nat.lt_succ_self gasLimit) _ 0 hempty _
      (metered_fresh request store gasLimit)
  rw [evaluate, evaluateWithin_eq] at h
  revert hend h
  generalize runSource _ _ _ _ _ _ (fresh request store gasLimit) = ended
  cases ended with
  | ok stack m => exact fun _ hend => hend.2.2
  | error e m => rintro ⟨⟩

/-- Some evaluation of the source succeeds and leaves so many words. -/
def Leaves (b : Bundle) (maxStack source count : Nat) : Prop :=
  ∃ (maxCallDepth : Nat) (context : Context) (caller : Word) (store : Store) (gasLimit : Nat)
    (traced : Bool) (output : Output),
    (evaluate ⟨maxStack, maxCallDepth⟩ ⟨b, source, context, caller, none⟩ store gasLimit
      traced).outcome = .ok output ∧ output.stack.length = count

theorem Leaves.certified {b : Bundle} {maxStack source count : Nat}
    (h : Leaves b maxStack source count) (hb : b.Unconditional) (maxCallDepth : Nat) :
    Certified b ⟨maxStack, maxCallDepth⟩ ⟨source, 0⟩ ∧ Start.final b ⟨source, 0⟩ = count := by
  obtain ⟨depth, context, caller, store, gasLimit, traced, output, hout, rfl⟩ := h
  refine ⟨evaluate_certifies hb hout rfl, ?_⟩
  have hwords := evaluate_outcome ⟨maxStack, depth⟩ ⟨b, source, context, caller, none⟩ store
    gasLimit traced
  rw [hout] at hwords
  obtain ⟨words, hlen, hstack⟩ := hwords
  rw [hstack]
  exact hlen.symm

/-- **Completeness.** If each of the first sources of an unconditional bundle has an evaluation that
succeeds, a check with these entrypoints accepts the bundle and reports the words that the
evaluations left, as long as no more are asked for. -/
theorem check_accepts_what_runs {b : Bundle} (hb : b.Unconditional) {maxStack : Nat}
    {counts : List Nat} (hdeclared : 1 ≤ counts.length)
    (hruns : ∀ (i count : Nat), counts[i]? = some count → Leaves b maxStack i count)
    (maxCallDepth : Nat) {mins : List Nat} (hlen : mins.length = counts.length)
    (hmins : ∀ (i min count : Nat), mins[i]? = some min → counts[i]? = some count → min ≤ count) :
    ∃ reports, check b ⟨maxStack, maxCallDepth⟩ mins = .ok reports ∧
      reports.map EntrypointReport.outputs = counts := by
  have hcount (i : Nat) (hi : i < counts.length) :=
    (hruns i counts[i] (List.getElem?_eq_getElem hi)).certified hb maxCallDepth
  have hacc : Acceptable b ⟨maxStack, maxCallDepth⟩ mins := by
    refine ⟨List.length_pos_iff.mp (hlen ▸ hdeclared), ?_, fun i hi => ?_, fun i min hmin => ?_⟩
    · -- The last of the entrypoints is a source of the bundle, so there are enough.
      have hlast := ((hcount (counts.length - 1) (by omega)).1 _ (Reaches.refl _)).1
      simp only at hlast
      omega
    · exact (hcount i (hlen ▸ hi)).1
    · have hi : i < counts.length := hlen ▸ (List.getElem?_eq_some_iff.mp hmin).1
      rw [(hcount i hi).2]
      exact hmins i min _ hmin (List.getElem?_eq_getElem hi)
  obtain ⟨reports, hcheck⟩ := check_eq_ok_iff.mpr hacc
  have hreported := (check_eq_ok hcheck).2
  refine ⟨reports, hcheck, List.ext_getElem ?_ fun i hi hi' => ?_⟩
  · rw [List.length_map, hreported.length, hlen]
  · rw [List.length_map] at hi
    rw [List.getElem_map, (hreported.outputs i _ (List.getElem?_eq_getElem hi)).2]
    exact (hcount i hi').2

/-- The first source runs the second twice and calls the third. -/
def doublingBundle : Bundle :=
  ⟨[⟨[.ofRaw 0 1, .ofRaw 3 0x2101, .ofRaw 2 0x2102]⟩, ⟨[.ofRaw 0 0, .ofRaw 10 2]⟩,
    ⟨[.ofRaw 0 0]⟩], [1#256]⟩

/-- One evaluation shows that the bundle is accepted. -/
theorem doublingBundle_accepted :
    (evaluate .standard ⟨doublingBundle, 0, .empty, 0#256, none⟩ (.empty .none) 100
      false).outcome = .ok ⟨[4#256, 4#256], [], 47⟩ ∧
    ∃ reports, check doublingBundle ⟨1024, 0⟩ [1] = .ok reports ∧
      reports.map EntrypointReport.outputs = [2] := by
  have hout : (evaluate .standard ⟨doublingBundle, 0, .empty, 0#256, none⟩ (.empty .none) 100
      false).outcome = .ok ⟨[4#256, 4#256], [], 47⟩ := by cbv
  refine ⟨hout, check_accepts_what_runs (by decide) (by decide) ?_ 0 rfl ?_⟩
  · rintro (_ | i) count hcount
    · cases hcount
      exact ⟨32, .empty, 0#256, .empty .none, 100, false, _, hout, rfl⟩
    · cases hcount
  · rintro (_ | i) min count hmin hcount
    · cases hmin
      cases hcount
      decide
    · cases hmin

end Machine

end ExprMachine
