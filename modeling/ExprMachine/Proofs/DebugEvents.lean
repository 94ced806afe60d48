import ExprMachine.Proofs.DebugTransparency
import ExprMachine.Proofs.Evaluation

/-!
# What debug ops record

The snapshots that an evaluation leaves are exactly those that are due at its scenes, in order
(`events_eq_scenes`), whether it succeeds or fails. What is due at a scene (`Scene.event?`) is read
off the scene alone: nothing unless its op is a `debug` op of a known mode, and otherwise the mode,
the site and the words that the mode asks for.

A run keeps this (`Recorded`) from one boundary between ops to the next:

* an op at whose scene nothing is due enters no snapshot of its own (`step_quiet`), whatever the
  frames that it opens enter for theirs;
* an op at whose scene a snapshot is due enters it (`step_due`).

With where scenes are (`watch_placed`), this gives what a snapshot says (`debug_events_faithful`).
-/

namespace ExprMachine

open Integrity

/-- The mode of a `debug` op. -/
def Op.mode? (op : Op) : Option DebugMode :=
  if Opcode.ofId? op.opcode = some .debug then DebugMode.ofCode? op.operand.raw else none

theorem Opcode.eq_of_ofId?_debug {id : UInt16} (h : Opcode.ofId? id = some .debug) : id = 5 := by
  have hplace : id.toNat = 5 := by
    unfold Opcode.ofId? Opcode.all at h
    match hn : id.toNat with
    | 5 => rfl
    | 0 | 1 | 2 | 3 | 4 => simp [hn] at h
    | n + 6 =>
      rw [hn] at h
      simp only [List.getElem?_cons_succ] at h
      have hmem := List.mem_of_getElem? h
      simp at hmem
  exact UInt16.toNat_inj.mp hplace

theorem DebugMode.eq_code_of_ofCode? {code : UInt16} {mode : DebugMode}
    (h : DebugMode.ofCode? code = some mode) : code = mode.code := by
  apply UInt16.toNat_inj.mp
  unfold DebugMode.ofCode? at h
  split at h
  all_goals first | (cases h; assumption) | cases h

theorem Op.mode?_eq_some_iff {op : Op} {mode : DebugMode} :
    op.mode? = some mode ↔ op = .debug mode := by
  constructor
  · intro h
    unfold Op.mode? at h
    split at h
    · rename_i hdebug
      obtain ⟨opcode, ⟨raw⟩⟩ := op
      obtain rfl : opcode = 5 := Opcode.eq_of_ofId?_debug hdebug
      obtain rfl : raw = mode.code := DebugMode.eq_code_of_ofCode? h
      rfl
    · cases h
  · rintro rfl
    exact mode.ofCode?_code

namespace Scene

/-- The words that a snapshot of a scene holds. -/
def snapshot (b : Bundle) (context : Context) (v : Scene) : DebugMode → List Word
  | .stack => v.words
  | .constants => b.constants
  | .context => context.rows.flatten
  | .state =>
    [BitVec.ofNat 256 v.start.source, BitVec.ofNat 256 v.ip, BitVec.ofNat 256 v.below.length,
      BitVec.ofNat 256 v.words.length] ++ v.words

/-- The snapshot that is due at a scene. -/
def event? (b : Bundle) (context : Context) (v : Scene) : Option DebugEvent :=
  ((v.op? b).bind Op.mode?).map fun mode => ⟨mode, v.site, v.snapshot b context mode⟩

variable {b : Bundle} {context : Context} {v : Scene}

theorem event?_eq (context : Context) {op : Op} (hop : v.op? b = some op) :
    v.event? b context = op.mode?.map fun mode => ⟨mode, v.site, v.snapshot b context mode⟩ := by
  simp only [event?, hop, Option.bind_some]

/-- At the end of a source nothing is due. -/
theorem event?_eq_none (context : Context) (hend : v.op? b = none) : v.event? b context = none := by
  simp only [event?, hend, Option.bind_none, Option.map_none]

/-- A snapshot is due at `debug` ops only, and is of their mode. -/
theorem of_event? {event : DebugEvent} (h : v.event? b context = some event) :
    v.op? b = some (.debug event.mode) ∧ event.site = v.site ∧
      event.words = v.snapshot b context event.mode := by
  unfold event? at h
  obtain ⟨mode, hmode, rfl⟩ := Option.map_eq_some_iff.mp h
  obtain ⟨op, hop, hop'⟩ := Option.bind_eq_some_iff.mp hmode
  rw [hop, Op.mode?_eq_some_iff.mp hop']
  exact ⟨rfl, rfl, rfl⟩

/-- So it is enough to look where an op is about to run. -/
theorem filterMap_event?_filter (b : Bundle) (context : Context) (vs : List Scene) :
    (vs.filter fun v => (v.op? b).isSome).filterMap (event? b context) =
      vs.filterMap (event? b context) := by
  rw [List.filterMap_filter]
  refine List.filterMap_congr fun v _ => ?_
  cases hop : v.op? b with
  | none => simp [event?_eq_none context hop]
  | some op => rfl

end Scene

namespace Machine

variable {σ : Type}

theorem snapshot_scene (env : Env) (v : Scene) (capacity : Nat) (mode : DebugMode) :
    snapshot env v.site ⟨v.words, capacity⟩ mode = v.snapshot env.bundle env.context mode := by
  cases mode <;> rfl

/-- The snapshots so far, and those in `due`, are what was due at the scenes so far, and no more gas
is spent than there is. -/
structure Recorded (env : Env) (due : List DebugEvent) (m : Machine (Watched σ)) : Prop where
  within : m.gas.used ≤ m.gas.limit
  events : m.trail.toList.filterMap TrailEntry.event? ++ due =
    m.storage.scenes.filterMap (Scene.event? env.bundle env.context)

/-- The same entry on both sides, which is no snapshot. -/
def NoEvent (entry entry' : TrailEntry) : Prop := entry = entry' ∧ entry.event? = none

variable {env : Env} {due : List DebugEvent}

theorem charge_recorded (cost : Nat) :
    Preserves (Recorded (σ := σ) env due) (Run.charge cost) := by
  intro m hm
  unfold Run.charge Gas.Meter.charge
  by_cases hc : m.gas.used + cost ≤ m.gas.limit
  · simp only [hc, ↓reduceIte]
    exact ⟨hc, hm.events⟩
  · simp only [hc, ↓reduceIte]
    exact ⟨Nat.le_refl _, hm.events⟩

theorem note_recorded {entry : TrailEntry} (h : entry.event? = none)
    {E : Fault → Machine (Watched σ) → Prop} :
    Triple (Recorded (σ := σ) env due) (Run.note entry) (fun _ => Recorded env due) E := by
  intro m hm
  refine ⟨hm.within, ?_⟩
  simp only [Array.toList_push, List.filterMap_append, List.filterMap_cons, h, List.filterMap_nil,
    List.append_nil]
  exact hm.events

/-- A scene makes a snapshot due. -/
theorem shoot_recorded (v : Scene) {E : Fault → Machine (Watched σ) → Prop} :
    Triple (Recorded (σ := σ) env []) (shoot v)
      (fun _ => Recorded env (v.event? env.bundle env.context).toList) E := by
  intro m hm
  refine ⟨hm.within, ?_⟩
  have hevents := hm.events
  rw [List.append_nil] at hevents
  simp only [staged, List.filterMap_append, hevents, List.filterMap_cons, List.filterMap_nil]
  cases v.event? env.bundle env.context with
  | none => rfl
  | some event => rfl

variable [Storage σ]

theorem coupling_recorded :
    Coupling (fun m n : Machine (Watched σ) => m = n ∧ Recorded env due n) NoEvent where
  charge cost := coupled_self_iff.mpr (charge_recorded cost)
  note := by
    rintro entry _ ⟨rfl, hnone⟩
    exact coupled_self_iff.mpr (note_recorded hnone)
  read key := coupled_self_iff.mpr fun m hm => by
    unfold Run.read
    cases Storage.read m.storage key with
    | ok value => exact hm
    | error cause => exact hm
  write key value := coupled_self_iff.mpr fun m hm => ⟨hm.within, hm.events⟩

variable {nested : Nested (Watched σ)}

/-- **An op at whose scene nothing is due.** The snapshots that the frames it opens enter are due at
their own scenes. -/
theorem step_quiet (hn : ∀ source inputs, Preserves (Recorded env []) (nested source inputs))
    (rounds : Nat) (site : Site) {op : Op} (hop : op.mode? = none) (stack : Stack) :
    Preserves (Recorded env []) (step env nested rounds site op stack) := by
  have hnested (source : Nat) (inputs : List Word) :=
    coupledUntil_never_iff.mpr (coupled_self_iff.mpr (hn source inputs))
  apply coupled_self_iff.mp
  apply coupledUntil_never_iff.mp
  refine step_mirrored coupling_recorded.until hnested
    (fun source carried => repeatWhile_until hnested source carried rounds) fun opcode ho => ?_
  refine ⟨fun _ => .lift _, fun _ => .lift _, rfl, ⟨rfl, rfl⟩, fun hdebug mode hmode => ?_⟩
  simp [Op.mode?, ho, hdebug, hmode] at hop

/-- **An op at whose scene a snapshot is due.** It enters the snapshot. -/
theorem step_due (rounds : Nat) {site : Site} {mode : DebugMode} {stack : Stack}
    {event : DebugEvent} (hevent : event = ⟨mode, site, snapshot env site stack mode⟩) :
    Triple (Recorded env [event]) (step env nested rounds site (.debug mode) stack)
      (fun _ => Recorded env []) (fun _ => Recorded env []) := by
  refine (step_debug_enters (Q := Recorded env []) env nested rounds (fun _ hm => hm.within)
    (fun m opcode hm => ?_) fun m hm => ⟨hm.within, ?_⟩).conseq (fun _ h => h) (fun _ _ h => h.2)
    fun _ _ h => h
  · have hnone : (TrailEntry.exec site opcode).event? = none := rfl
    exact note_recorded (E := fun _ _ => True) hnone m hm
  · simp only [Array.toList_push, List.filterMap_append, List.append_nil, ← hevent]
    exact hm.events

/-! ## Runs -/

theorem watchOps_recorded (hn : ∀ source inputs, Preserves (Recorded env []) (nested source inputs))
    (rounds : Nat) (below : List Start) (start : Start) (ip : Nat) (ops : List Op)
    (hops : (start.ops env.bundle).drop ip = ops) (stack : Stack) :
    Preserves (Recorded env []) (watchOps env nested rounds below start ip ops stack) := by
  induction ops generalizing ip stack with
  | nil =>
    have hend : Scene.op? env.bundle ⟨below, start, ip, stack.words⟩ = none :=
      List.getElem?_eq_none_iff.mpr (List.drop_eq_nil_iff.mp hops)
    refine Triple.bind (shoot_recorded _) fun _ => Triple.ret ?_
    rw [Scene.event?_eq_none env.context hend]
    exact fun _ h => h
  | cons op ops ih =>
    obtain ⟨hop, hrest⟩ := getElem?_of_drop hops
    have hdue := Scene.event?_eq (v := ⟨below, start, ip, stack.words⟩) env.context hop
    refine Triple.bind (shoot_recorded _) fun _ => ?_
    refine Triple.bind (R := fun _ => Recorded env []) ?_ fun after => ih (ip + 1) hrest after
    rw [hdue]
    cases hmode : op.mode? with
    | none => exact step_quiet hn rounds _ hmode stack
    | some mode =>
      obtain rfl := Op.mode?_eq_some_iff.mp hmode
      exact step_due rounds (by rw [snapshot_scene env ⟨below, start, ip, stack.words⟩])

theorem watchFrame_recorded
    (hn : ∀ source inputs, Preserves (Recorded env []) (nested source inputs)) (rounds : Nat)
    (below : List Start) (start : Start) (stack : Stack) :
    Preserves (Recorded env []) (watchFrame env nested rounds below start stack) :=
  watchFrame_of_ops (fun _ _ hm => hm)
    (watchOps_recorded hn rounds below start 0 _ List.drop_zero stack)

/-- **A run keeps its record.** By induction on the room that is left for frames. -/
theorem watchSource_recorded (env : Env) (rounds room : Nat) (below : List Start) (source : Nat)
    (stack : Stack) :
    Preserves (Recorded (σ := σ) env []) (watchSource env rounds room below source stack) := by
  induction room generalizing below source stack with
  | zero => exact watchFrame_recorded (fun _ _ => Triple.fail fun _ h => h) rounds below _ stack
  | succ room ih =>
    refine watchFrame_recorded (fun target inputs => coupled_self_iff.mp ?_) rounds below _ stack
    exact openFrame_coupled coupling_recorded rfl
      (fun s st => coupled_self_iff.mpr (ih _ s st)) target inputs

/-- **The snapshots are those due at the scenes.** -/
theorem events_eq_scenes (limits : Limits) (request : Request) (store : Store) (gasLimit : Nat)
    (traced : Bool) :
    (evaluate limits request store gasLimit traced).events =
      (scenes limits request store gasLimit traced).filterMap
        (Scene.event? request.bundle request.context) := by
  have hstart : Recorded (envOf limits request traced) [] (watchedStart request store gasLimit) :=
    ⟨Nat.zero_le _, rfl⟩
  have hend := watchSource_recorded (envOf limits request traced) (gasLimit + 1)
    limits.clamped.maxCallDepth [] request.source (.empty limits.clamped.maxStack) _ hstart
  obtain ⟨m, hm, htrail, hscenes⟩ := watch_ends limits request store gasLimit traced hend
  have hevents := hm.events
  rw [List.append_nil] at hevents
  unfold Evaluation.events scenes
  rw [htrail, hscenes, Scene.filterMap_event?_filter]
  exact hevents

/-- **Snapshots are faithful.** The snapshots of an evaluation, successful or not, are those due at
the ops that it ran, in order. Each one names the place of a `debug` op of its mode, in a frame that
is as deep as a chain of control-flow ops from the source that was asked for, and no deeper than the
limit; at depth 0 that is the source itself. Its words are those of the frame, of which no more than
the limit fit, or of the constants or the context, as its mode says. -/
theorem debug_events_faithful (limits : Limits) (request : Request) (store : Store)
    (gasLimit : Nat) (traced : Bool) :
    (evaluate limits request store gasLimit traced).events =
      (scenes limits request store gasLimit traced).filterMap
        (Scene.event? request.bundle request.context) ∧
    ∀ event ∈ (evaluate limits request store gasLimit traced).events,
      event.site.depth ≤ min limits.maxCallDepth 128 ∧
      (∃ source, request.bundle.sources[event.site.source]? = some source ∧
        source.ops[event.site.ip]? = some (.debug event.mode)) ∧
      (event.site.depth = 0 → event.site.source = request.source) ∧
      ∃ v ∈ scenes limits request store gasLimit traced,
        event.site = ⟨v.start.source, v.ip, v.below.length⟩ ∧
        Stacked request.bundle ⟨request.source, 0⟩ (v.start :: v.below) ∧
        v.words.length ≤ limits.maxStack ∧
        event.words = match event.mode with
          | .stack => v.words
          | .constants => request.bundle.constants
          | .context => request.context.rows.flatten
          | .state =>
            [BitVec.ofNat 256 event.site.source, BitVec.ofNat 256 event.site.ip,
              BitVec.ofNat 256 event.site.depth, BitVec.ofNat 256 v.words.length] ++ v.words := by
  have hevents := events_eq_scenes limits request store gasLimit traced
  refine ⟨hevents, fun event hevent => ?_⟩
  rw [hevents] at hevent
  obtain ⟨v, hv, hdue⟩ := List.mem_filterMap.mp hevent
  obtain ⟨hop, hsite, hwords⟩ := Scene.of_event? hdue
  have hplaced := watch_placed limits request store gasLimit traced (List.mem_of_mem_filter hv)
  have hsource : ∃ source, request.bundle.sources[v.start.source]? = some source ∧
      source.ops[v.ip]? = some (.debug event.mode) := by
    unfold Scene.op? Start.ops at hop
    cases hget : request.bundle.sources[v.start.source]? with
    | none => simp [hget] at hop
    | some source =>
      rw [hget] at hop
      exact ⟨source, rfl, hop⟩
  -- A frame with none below it is the outermost one.
  have hfirst : v.below.length = 0 → v.start.source = request.source := by
    intro hnone
    have houtermost := hplaced.frames.outermost
    rw [List.length_eq_zero_iff.mp hnone] at houtermost
    have hstart : v.start = ⟨request.source, 0⟩ := Option.some.inj houtermost
    rw [hstart]
  rw [hsite]
  refine ⟨hplaced.depth, hsource, hfirst, v, hv, rfl, hplaced.frames, hplaced.fits, ?_⟩
  rw [hwords]
  cases event.mode <;> rfl

/-- The first source runs the second by each control-flow op, with a `debug` op after it. -/
def returningBundle : Bundle :=
  ⟨[⟨[.ofRaw 2 0x0001, .debug .state, .ofRaw 3 0x2001, .debug .state, .ofRaw 0 1, .ofRaw 4 0x0002,
      .debug .state]⟩,
    ⟨[.debug .state]⟩,
    ⟨[.ofRaw 0 3, .debug .stack]⟩], [1#256, 0#256]⟩

/-- After the last return the snapshot is of the first frame again, although the frames in between
recorded theirs. -/
theorem returningBundle_event_faithful :
    ⟨.stack, ⟨2, 1, 1⟩, [0#256]⟩ ∈ (evaluate .standard
      ⟨returningBundle, 0, .empty, 0#256, none⟩ (.empty .none) 100 false).events ∧
    ⟨.state, ⟨0, 6, 0⟩, [0#256, 6#256, 0#256, 0#256]⟩ ∈ (evaluate .standard
      ⟨returningBundle, 0, .empty, 0#256, none⟩ (.empty .none) 100 false).events ∧
    (∃ source, returningBundle.sources[0]? = some source ∧
      source.ops[6]? = some (.debug .state)) ∧
    ∃ v ∈ scenes .standard ⟨returningBundle, 0, .empty, 0#256, none⟩ (.empty .none) 100 false,
      Site.mk 0 6 0 = ⟨v.start.source, v.ip, v.below.length⟩ ∧
      Stacked returningBundle ⟨0, 0⟩ (v.start :: v.below) := by
  have hmem : ⟨.state, ⟨0, 6, 0⟩, [0#256, 6#256, 0#256, 0#256]⟩ ∈ (evaluate .standard
      ⟨returningBundle, 0, .empty, 0#256, none⟩ (.empty .none) 100 false).events := by
    decide +kernel
  obtain ⟨-, hop, -, v, hv, hsite, hframes, -⟩ := (debug_events_faithful .standard
    ⟨returningBundle, 0, .empty, 0#256, none⟩ (.empty .none) 100 false).2 _ hmem
  exact ⟨by decide +kernel, hmem, hop, v, hv, hsite, hframes⟩

end Machine

end ExprMachine
