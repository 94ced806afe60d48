import ExprMachine.Proofs.Evaluation
import ExprMachine.Proofs.Integrity.Acceptance
import ExprMachine.Proofs.Locality

/-!
# Heights do not depend on data

How high a stack is depends on the ops that were run and on nothing else: not on words, the context,
the store, the caller, the limits or the gas. This holds of every bundle, checked or not
(`heights_independent_of_data`).

* `perform_height`: an op changes the height by its outputs less its inputs, whatever the frames do
  that it opens. That is what the op does itself; the check after it has nothing to find.
* `Sighting.Follows`: of two sightings the second is of the same frame, one op later, and its height
  is what that op made of the first one's.
* `Sighting.Accounted`: a sighting is of a frame that was just opened, or follows another. That all
  are is kept by a run (`Accounts`), and with it that a sighting which was made stays made.
* `Sighting.balance_eq`: so the height of a frame is the number of words that it was given, and what
  the ops before its place have gained.
-/

namespace ExprMachine

open Integrity

/-- The same frame, one op later. -/
structure Sighting.Follows (b : Bundle) (u v : Sighting) : Prop where
  start : v.start = u.start
  depth : v.depth = u.depth
  ip : v.ip = u.ip + 1
  height : ∃ (op : Op) (opcode : Opcode), (u.start.ops b)[u.ip]? = some op ∧
    Opcode.ofId? op.opcode = some opcode ∧
    (v.height : Int) = u.height + (opcode.outputs op.operand - opcode.inputs op.operand)

/-- A frame that was just opened, or one that was sighted an op earlier. -/
def Sighting.Accounted (b : Bundle) (seen : List Sighting) (v : Sighting) : Prop :=
  (v.ip = 0 ∧ v.height = v.start.height) ∨ ∃ u ∈ seen, u.Follows b v

theorem Sighting.Accounted.mono {b : Bundle} {seen seen' : List Sighting} {v : Sighting}
    (h : v.Accounted b seen) (hseen : seen ⊆ seen') : v.Accounted b seen' := by
  rcases h with hfirst | ⟨u, hu, hfollows⟩
  · exact .inl hfirst
  · exact .inr ⟨u, hseen hu, hfollows⟩

/-- Heights that are accounted for are balances. By induction on the place of the op. -/
theorem Sighting.balance_eq {b : Bundle} {seen : List Sighting}
    (hseen : ∀ v ∈ seen, v.Accounted b seen) {v : Sighting} (hv : v ∈ seen) :
    (v.height : Int) = v.start.balance b v.ip := by
  induction hip : v.ip generalizing v with
  | zero =>
    rcases hseen v hv with ⟨-, hheight⟩ | ⟨u, -, hfollows⟩
    · simp [hheight, Start.balance]
    · have := hfollows.ip
      omega
  | succ ip ih =>
    rcases hseen v hv with ⟨hzero, -⟩ | ⟨u, hu, hfollows⟩
    · omega
    · have huip : u.ip = ip := by
        have := hfollows.ip
        omega
      obtain ⟨op, opcode, hop, ho, hheight⟩ := hfollows.height
      have hgain : op.gain = opcode.outputs op.operand - opcode.inputs op.operand := by
        simp only [Op.gain, ho]
      rw [huip] at hop
      rw [hheight, ih hu huip, hfollows.start, Start.balance_succ hop, hgain]

namespace Machine

/-! ## Ops -/

section Ops

variable {σ : Type} [Storage σ] (env : Env) (nested : Nested σ) (rounds : Nat) (site : Site)

/-- **What an op does to the height.** -/
theorem perform_height {opcode : Opcode} {operand : Operand} {stack : Stack}
    (hin : opcode.inputs operand ≤ stack.height) :
    Returns (fun _ => True) (perform env nested rounds site opcode operand stack) fun after =>
      (after.height : Int) = stack.height + (opcode.outputs operand - opcode.inputs operand) := by
  obtain ⟨below, top, hstack, hlen⟩ := Stack.eq_append hin
  rw [hstack, perform_append env nested rounds site below _ hlen]
  refine Returns.bind (compute_length env nested rounds site _ hlen) fun words hwords => ?_
  rw [Stack.extend_eq]
  split
  · intro m _
    simp only [Stack.height, List.length_append]
    show ((below ++ words).length : Int) = _
    rw [List.length_append]
    omega
  · exact fun _ _ => trivial

theorem checkOutputs_eq_ok {opcode : Opcode} {operand : Operand} {available : Nat}
    {after after' : Stack} (h : checkOutputs opcode operand available after = .ok after') :
    after' = after := by
  simp only [checkOutputs] at h
  split at h
  · cases h
    rfl
  · cases h

/-- The same of an op with its checks: if it returns, its opcode is known. -/
theorem step_height (op : Op) (stack : Stack) :
    Returns (fun _ => True) (step env nested rounds site op stack) fun after =>
      ∃ opcode, Opcode.ofId? op.opcode = some opcode ∧ (after.height : Int) =
        stack.height + (opcode.outputs op.operand - opcode.inputs op.operand) := by
  unfold step Opcode.lookup
  cases ho : Opcode.ofId? op.opcode with
  | none => exact fun _ _ => trivial
  | some opcode =>
    simp only [lift_ok_bind]
    refine Returns.bind_any fun _ => Returns.lift_bind fun _ hpassed => ?_
    refine Returns.bind_any fun _ => ?_
    refine Returns.bind (perform_height env nested rounds site (inputs_le_of_checkInputs hpassed))
      fun after hafter => ?_
    intro m _
    cases hout : checkOutputs opcode op.operand stack.height after with
    | ok after' =>
      rw [← checkOutputs_eq_ok hout] at hafter
      exact ⟨opcode, rfl, hafter⟩
    | error e => trivial

end Ops

/-! ## Runs -/

section Runs

variable {σ : Type} {b : Bundle} {kept : List Sighting}

/-- Every sighting so far is accounted for, and those that are kept are among them. -/
structure Accounts (b : Bundle) (kept : List Sighting) (m : Machine (Watched σ)) : Prop where
  each : ∀ v ∈ m.storage.sightings, v.Accounted b m.storage.sightings
  kept : kept ⊆ m.storage.sightings

theorem Accounts.of_cons {v : Sighting} {m : Machine (Watched σ)} (h : Accounts b (v :: kept) m) :
    Accounts b kept m := ⟨h.each, fun _ hw => h.kept (List.mem_cons_of_mem v hw)⟩

theorem triple_shoot_accounts {v : Scene} (hv : v.sighting.Accounted b kept) :
    Triple (Accounts (σ := σ) b kept) (shoot v) (fun _ => Accounts b (v.sighting :: kept))
      fun _ => Accounts b kept := by
  intro m hm
  have hgrown : m.storage.sightings ⊆ (m.staged v).storage.sightings := by
    rw [staged_sightings]
    exact List.subset_append_left _ _
  refine ⟨fun w hw => ?_, fun w hw => ?_⟩
  · rw [staged_sightings] at hw
    rcases List.mem_append.mp hw with hw | hw
    · exact (hm.each w hw).mono hgrown
    · rw [List.mem_singleton.mp hw]
      exact hv.mono (List.Subset.trans hm.kept hgrown)
  · rcases List.mem_cons.mp hw with rfl | hw
    · rw [staged_sightings]
      exact List.mem_append_right _ List.mem_cons_self
    · exact hgrown (hm.kept hw)

variable [Storage σ]

/-- Only a sighting changes what was sighted. -/
theorem steady_accounts (b : Bundle) (kept : List Sighting) :
    Steady (Accounts (σ := σ) b kept) where
  charge cost m h := by
    unfold Run.charge
    cases m.gas.charge cost with
    | mk outcome gas =>
      cases outcome with
      | ok _ => exact ⟨h.each, h.kept⟩
      | error e => exact ⟨h.each, h.kept⟩
  note _ _ h := ⟨h.each, h.kept⟩
  read key m h := by
    unfold Run.read
    cases Storage.read m.storage key with
    | ok value => exact h
    | error cause => exact h
  write _ _ _ h := ⟨h.each, h.kept⟩

variable {env : Env} {nested : Nested (Watched σ)}

/-- **The ops of a start**, from any place on, if the sighting that comes first is accounted for. By
induction on the ops: each sighting is kept until the one that follows it. -/
theorem watchOps_accounts
    (hn : ∀ kept source inputs, Preserves (Accounts env.bundle kept) (nested source inputs))
    (rounds : Nat) (below : List Start) (start : Start) (ip : Nat) (ops : List Op)
    (hops : (start.ops env.bundle).drop ip = ops) (stack : Stack) (kept : List Sighting)
    (hfirst : Sighting.Accounted env.bundle kept ⟨start, ip, below.length, stack.height⟩) :
    Preserves (Accounts env.bundle kept)
      (watchOps env nested rounds below start ip ops stack) := by
  induction ops generalizing ip stack kept with
  | nil =>
    exact Triple.bind (triple_shoot_accounts hfirst) fun _ => Triple.ret fun _ hm => hm.of_cons
  | cons op ops ih =>
    obtain ⟨hop, hrest⟩ := getElem?_of_drop hops
    refine Triple.bind (triple_shoot_accounts hfirst) fun _ => ?_
    have hkeeps : Preserves
        (Accounts env.bundle (⟨start, ip, below.length, stack.height⟩ :: kept))
        (step env nested rounds ⟨start.source, ip, below.length⟩ op stack) :=
      coupled_self_iff.mp (step_coupled (steady_accounts _ _).coupling
        (fun source inputs => coupled_self_iff.mpr (hn _ source inputs)) (echoes_refl env _) rounds
        op stack)
    have hheight := step_height env nested rounds ⟨start.source, ip, below.length⟩ op stack
    refine Triple.bind ((hkeeps.and (hheight.conseq (fun _ _ => trivial) (fun _ _ h => h)
      fun _ _ h => h)).conseq (fun _ h => h) (fun _ _ h => h) fun _ _ h => h.1.of_cons)
      fun after => Triple.assume ?_
    rintro ⟨opcode, ho, hafter⟩
    have hnext : Sighting.Accounted env.bundle (⟨start, ip, below.length, stack.height⟩ :: kept)
        ⟨start, ip + 1, below.length, after.height⟩ :=
      .inr ⟨_, List.mem_cons_self, rfl, rfl, rfl, op, opcode, hop, ho, hafter⟩
    exact (ih (ip + 1) hrest after _ hnext).conseq (fun _ h => h) (fun _ _ h => h.of_cons)
      fun _ _ h => h.of_cons

theorem watchFrame_accounts
    (hn : ∀ kept source inputs, Preserves (Accounts env.bundle kept) (nested source inputs))
    (rounds : Nat) (below : List Start) {start : Start} {stack : Stack}
    (hstart : stack.height = start.height) (kept : List Sighting) :
    Preserves (Accounts env.bundle kept) (watchFrame env nested rounds below start stack) :=
  watchFrame_of_ops (fun _ _ hm => hm)
    (watchOps_accounts hn rounds below start 0 _ List.drop_zero stack kept (.inl ⟨rfl, hstart⟩))

/-- **A whole run.** By induction on the room that is left for frames. -/
theorem watchSource_accounts (env : Env) (rounds room : Nat) (below : List Start) (source : Nat)
    (stack : Stack) (kept : List Sighting) :
    Preserves (Accounts (σ := σ) env.bundle kept)
      (watchSource env rounds room below source stack) := by
  induction room generalizing below source stack kept with
  | zero =>
    exact watchFrame_accounts (fun _ _ _ => Triple.fail fun _ hm => hm) rounds below rfl kept
  | succ room ih =>
    refine watchFrame_accounts (fun kept target inputs => ?_) rounds below rfl kept
    exact coupled_self_iff.mp (openFrame_coupled (steady_accounts _ _).coupling rfl
      (fun s st => coupled_self_iff.mpr (ih _ s st kept)) target inputs)

end Runs

/-! ## Evaluations -/

theorem sightings_accounted (limits : Limits) (request : Request) (store : Store) (gasLimit : Nat)
    (traced : Bool) {v : Sighting} (hv : v ∈ sightings limits request store gasLimit traced) :
    v.Accounted request.bundle (sightings limits request store gasLimit traced) := by
  have hstart : Accounts request.bundle [] (watchedStart request store gasLimit) :=
    ⟨fun _ hv => absurd hv List.not_mem_nil, List.nil_subset _⟩
  have hend : Ends (watchedEnd limits request store gasLimit traced)
      (fun _ => Accounts request.bundle []) (fun _ => Accounts request.bundle []) :=
    watchSource_accounts (envOf limits request traced) _ _ _ _ _ _ _ hstart
  obtain ⟨m, hm, -, hscenes⟩ := watch_ends limits request store gasLimit traced hend
  unfold sightings at hv ⊢
  rw [hscenes] at hv ⊢
  exact hm.each v hv

end Machine

theorem OpFault.ne_arityMismatch {env : Env} {F : StoreFault → Prop} {left h : Nat} {op : Op}
    {e : Fault} (he : OpFault env F left h op e) (opcode : String) (expected actual : Nat) :
    e ≠ .arityMismatch opcode expected actual := by
  rintro rfl
  cases he with
  | arithmetic _ ha => exact ha

/-- No op leaves a wrong number of words. -/
theorem Arises.ne_arityMismatch {env : Env} {F : StoreFault → Prop} {room : Nat} {p : Start}
    {e : Fault} (h : Arises env F room p e) (opcode : String) (expected actual : Nat) :
    e ≠ .arityMismatch opcode expected actual := by
  induction h with
  | missing _ => exact nofun
  | own _ he => exact he.ne_arityMismatch opcode expected actual
  | full _ _ => exact nofun
  | nested _ _ ih => exact ih

namespace Machine

variable {limits : Limits} {request : Request} {store : Store} {gasLimit : Nat} {traced : Bool}

/-- Of an evaluation that keeps all words, their number is the final height of its source. -/
theorem length_of_evaluate_eq_ok (hall : request.maxOutputs = none) {output : Output}
    (h : (evaluate limits request store gasLimit traced).outcome = .ok output) :
    output.stack.length = Start.final request.bundle ⟨request.source, 0⟩ := by
  have hwords := evaluate_outcome limits request store gasLimit traced
  rw [h] at hwords
  obtain ⟨words, hlen, hstack⟩ := hwords
  rw [hstack, hall]
  exact hlen

variable (limits request store gasLimit traced)

/-- **Heights do not depend on data.** An op that completes changes the height by its outputs less
its inputs, whatever its frames do. So of an evaluation of any bundle every frame that is sighted
was just opened or was sighted one op earlier, at a height that differs by so much, and its height
is the number of words that it was given with what the ops before its place gain. No evaluation
finds a wrong number of outputs, and any two of the same source that succeed and keep all words
leave equally many. -/
theorem heights_independent_of_data :
    (∀ (env : Env) (nested : Nested Overlay) (rounds : Nat) (site : Site) (opcode : Opcode)
      (operand : Operand) (stack after : Stack) (m m' : Machine Overlay),
      opcode.inputs operand ≤ stack.height →
      perform env nested rounds site opcode operand stack m = .ok after m' →
      (after.height : Int) = stack.height + (opcode.outputs operand - opcode.inputs operand)) ∧
    (∀ v ∈ sightings limits request store gasLimit traced,
      v.Accounted request.bundle (sightings limits request store gasLimit traced) ∧
      (v.height : Int) = v.start.balance request.bundle v.ip) ∧
    (∀ opcode expected actual, (evaluate limits request store gasLimit traced).outcome ≠
      .error (.arityMismatch opcode expected actual)) ∧
    ∀ (limits' : Limits) (request' : Request) (store' : Store) (gasLimit' : Nat) (traced' : Bool)
      (output output' : Output), request'.bundle = request.bundle →
      request'.source = request.source → request.maxOutputs = none →
      request'.maxOutputs = none →
      (evaluate limits request store gasLimit traced).outcome = .ok output →
      (evaluate limits' request' store' gasLimit' traced').outcome = .ok output' →
      output'.stack.length = output.stack.length := by
  refine ⟨?_, fun v hv => ⟨?_, ?_⟩, fun opcode expected actual hout => ?_, ?_⟩
  · intro env nested rounds site opcode operand stack after m m' hin hrun
    have hend := perform_height env nested rounds site hin m trivial
    rw [hrun] at hend
    exact hend
  · exact sightings_accounted limits request store gasLimit traced hv
  · exact Sighting.balance_eq (fun _ => sightings_accounted limits request store gasLimit traced) hv
  · have hcause := evaluate_outcome limits request store gasLimit traced
    rw [hout] at hcause
    exact hcause.ne_arityMismatch opcode expected actual rfl
  · intro limits' request' store' gasLimit' traced' output output' hbundle hsource hall hall' hout
      hout'
    rw [length_of_evaluate_eq_ok hall hout, length_of_evaluate_eq_ok hall' hout', hbundle, hsource]

/-- The first source runs the second in a `do-while` whose first condition is a cell of the context;
the second leaves the word that it is handed, and whether that is zero. -/
def conditionalBundle : Bundle :=
  ⟨[⟨[.ofRaw 0 1, .ofRaw 1 0, .ofRaw 4 0x0101]⟩, ⟨[.ofRaw 0 0, .ofRaw 24 0]⟩], [1#256]⟩

/-- With a zero in the context the loop is not entered, and otherwise it is. Either way one word is
left. -/
theorem conditionalBundle_heights :
    (∃ output output',
      (evaluate ⟨2, 1⟩ ⟨conditionalBundle, 0, ⟨[[5#256]]⟩, 3#256, none⟩ (.empty .none) 50
        true).outcome = .ok output ∧
      (evaluate .standard ⟨conditionalBundle, 0, ⟨[[0#256]]⟩, 0#256, none⟩ (.empty .none) 100
        false).outcome = .ok output' ∧
      output.gasUsed = 23 ∧ output'.gasUsed = 14 ∧
      output'.stack.length = output.stack.length) ∧
    ∀ v ∈ sightings ⟨2, 1⟩ ⟨conditionalBundle, 0, ⟨[[5#256]]⟩, 3#256, none⟩ (.empty .none) 50 true,
      (v.height : Int) = v.start.balance conditionalBundle v.ip := by
  have henters : (evaluate ⟨2, 1⟩ ⟨conditionalBundle, 0, ⟨[[5#256]]⟩, 3#256, none⟩
      (.empty .none) 50 true).outcome = .ok ⟨[1#256], [], 23⟩ := by cbv
  have hskips : (evaluate .standard ⟨conditionalBundle, 0, ⟨[[0#256]]⟩, 0#256, none⟩
      (.empty .none) 100 false).outcome = .ok ⟨[1#256], [], 14⟩ := by cbv
  obtain ⟨-, hheights, -, hlengths⟩ := heights_independent_of_data ⟨2, 1⟩
    ⟨conditionalBundle, 0, ⟨[[5#256]]⟩, 3#256, none⟩ (.empty .none) 50 true
  have hlen := hlengths .standard ⟨conditionalBundle, 0, ⟨[[0#256]]⟩, 0#256, none⟩ _ _ _ _ _ rfl rfl
    rfl rfl henters hskips
  exact ⟨⟨_, _, henters, hskips, rfl, rfl, hlen⟩, fun v hv => (hheights v hv).2⟩

end Machine

end ExprMachine
