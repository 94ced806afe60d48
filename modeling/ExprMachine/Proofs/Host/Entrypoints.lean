import ExprMachine.Proofs.Host.Run

/-!
# Entrypoints of a host

What holds of deployed bundles in every state that a host can get into.

* `Host.deployed_entries_vetted`: a deployed bundle stands under its id and is accepted with the
  least numbers that are kept for it. So its entrypoints leave exactly as many words as their
  reports say, and never too few.
* `Host.callable_iff_declared_first`: a deploy that succeeds makes an entrypoint callable exactly if
  the first deploy of the bundle declared it. A later one is checked and then dropped, so what it
  declares beyond the first is not there (`Host.redeployed_entrypoint_unknown`).
-/

namespace ExprMachine

open Integrity

namespace Host

/-- A state that a host can get into, set up with the given configuration. -/
def Reachable (config : Config) (h : Host) : Prop :=
  ∃ store traced actions, h = (Host.new config store traced).run actions

theorem Reachable.config_eq {config : Config} {h : Host} (hreach : h.Reachable config) :
    h.config = config := by
  obtain ⟨store, traced, actions, rfl⟩ := hreach
  exact config_run _ actions

theorem Reachable.vetted {config : Config} {h : Host} (hreach : h.Reachable config) :
    h.Vetted := by
  obtain ⟨store, traced, actions, rfl⟩ := hreach
  exact (vetted_new config store traced).run actions

/-- **Deployed bundles.** In every state that a host can get into, a deployed bundle stands under
its own id and is accepted; each of its entrypoints, wherever its snapshots go, leaves as many words
as its report says, and fails neither for a structural reason nor for leaving too few. -/
theorem deployed_entries_vetted {config : Config} {h : Host} (hreach : h.Reachable config)
    {id : ExpressionId} {d : Deployed} (hd : h.find? id = some d) :
    id = d.bundle.id ∧
    ∃ reports, check d.bundle config.limits d.minOutputs = .ok reports ∧
      ∀ i < d.minOutputs.length, ∃ r, reports[i]? = some r ∧
        ∀ (sink : DebugSink) (context : Context) (caller : Word),
          Outcome (h.evaluateInto sink id i context caller).outcome
            (fun output => output.stack.length = r.outputs)
            (fun e => ¬ e.Structural ∧ ∀ j min actual, e ≠ .insufficientOutputs j min actual) := by
  obtain ⟨hid, reports, hcheck⟩ := hreach.vetted id d hd
  have hlen := (check_eq_ok hcheck).2.length
  refine ⟨hid, reports, hreach.config_eq ▸ hcheck, fun i hi => ?_⟩
  have hr : reports[i]? = some _ := List.getElem?_eq_getElem (hlen ▸ hi)
  refine ⟨_, hr, fun sink context caller => ?_⟩
  refine (evaluateInto_outcome hd hcheck hr sink context caller).mono (fun _ h => h) fun e he => ?_
  rcases he with he | ⟨cause, rfl⟩
  · refine ⟨he.not_structural, ?_⟩
    rintro j min actual rfl
    exact he
  · exact ⟨fun hs => hs, nofun⟩

/-- The first entrypoint has a constant doubled by the third source; the second one calls itself. -/
def relayBundle : Bundle :=
  ⟨[⟨[.ofRaw 0 1, .ofRaw 2 0x1102]⟩,
    ⟨[.ofRaw 2 0x1001, .ofRaw 0 1, .ofRaw 10 2]⟩,
    ⟨[.ofRaw 0 0, .ofRaw 10 2]⟩], [5#256]⟩

/-- Room for two nested frames. -/
def shallowConfig : Config := { Config.standard with maxCallDepth := 2 }

theorem check_relayBundle :
    check relayBundle shallowConfig.limits [1, 1] = .ok [⟨0, 1, 2⟩, ⟨1, 1, 2⟩] := rfl

/-- A host with the bundle, both of whose entrypoints have to leave a word. -/
def relayHost : Host :=
  (Host.new shallowConfig (.empty .none) false).run [.deploy relayBundle [1, 1]]

theorem find?_relayHost :
    relayHost.find? relayBundle.id = some ⟨relayBundle, [1, 1]⟩ :=
  find?_deploy (deploy_eq_ok_iff.mpr ⟨rfl, _, check_relayBundle⟩)

-- The id is left open: what follows is evaluated, and the id would be too.
section

variable {id : ExpressionId} (hfind : relayHost.find? id = some ⟨relayBundle, [1, 1]⟩)
include hfind

theorem relayHost_doubles :
    (relayHost.evaluateInto .discard id 0 .empty 1#256).outcome = .ok ⟨[10#256], [], 22⟩ := by
  unfold evaluateInto
  rw [hfind]
  rfl

theorem relayHost_recurses :
    (relayHost.evaluateInto .discard id 1 .empty 1#256).outcome = .error (.callDepth 2) := by
  unfold evaluateInto
  rw [hfind]
  rfl

end

/-- One entrypoint leaves the word that its report promises, by way of a nested frame. The other one
never gets that far, which is no structural fault. -/
theorem relay_entries_vetted :
    (relayHost.evaluateInto .discard relayBundle.id 0 .empty 1#256).outcome =
      .ok ⟨[10#256], [], 22⟩ ∧
    (relayHost.evaluateInto .discard relayBundle.id 1 .empty 1#256).outcome =
      .error (.callDepth 2) ∧
    ∀ i < 2, ∀ (sink : DebugSink) (context : Context) (caller : Word),
      Outcome (relayHost.evaluateInto sink relayBundle.id i context caller).outcome
        (fun output => output.stack.length = 1)
        (fun e => ¬ e.Structural ∧ ∀ j min actual, e ≠ .insufficientOutputs j min actual) := by
  have hfind := find?_relayHost
  have hreach : relayHost.Reachable shallowConfig :=
    ⟨.empty .none, false, [.deploy relayBundle [1, 1]], rfl⟩
  obtain ⟨-, reports, hreports, heach⟩ := deployed_entries_vetted hreach hfind
  rw [check_relayBundle] at hreports
  cases hreports
  generalize relayBundle.id = id at hfind heach ⊢
  refine ⟨relayHost_doubles hfind, relayHost_recurses hfind, fun i hi => ?_⟩
  obtain ⟨r, hr, hleaves⟩ := heach i hi
  have hone : r.outputs = 1 := by
    match i, hi with
    | 0, _ | 1, _ =>
      cases hr
      rfl
  rwa [hone] at hleaves

/-! ## Calling what was deployed -/

/-- No two bundles that are deployed in a run share an id. -/
def Unambiguous (actions : List Action) : Prop :=
  ∀ b m b' m', .deploy b m ∈ actions → .deploy b' m' ∈ actions → b.id = b'.id → b = b'

/-- The entrypoint is known, and it leaves at least `min` words when it succeeds. -/
def Callable (h : Host) (id : ExpressionId) (i min : Nat) : Prop :=
  ∀ (sink : DebugSink) (context : Context) (caller : Word),
    (∀ id', (h.evaluateInto sink id i context caller).outcome ≠ .error (.unknownExpression id')) ∧
    (∀ j, (h.evaluateInto sink id i context caller).outcome ≠ .error (.unknownEntrypoint j)) ∧
    ∀ output, (h.evaluateInto sink id i context caller).outcome = .ok output →
      min ≤ output.stack.length

variable {h : Host} {id : ExpressionId} {d : Deployed} {i min : Nat}

/-- An entrypoint beyond those that are kept is not known. -/
theorem not_callable (hd : h.find? id = some d) (hi : d.minOutputs.length ≤ i) :
    ¬ h.Callable id i min := by
  intro hcall
  refine (hcall .discard .empty 0#256).2.1 i ?_
  unfold evaluateInto
  simp only [hd, List.getElem?_eq_none_iff.mpr hi]

/-- One that is kept is callable with any number of words that it is certain to leave. -/
theorem callable_of_lt (hv : h.Vetted) (hd : h.find? id = some d) (hi : i < d.minOutputs.length)
    (hmin : min ≤ Start.final d.bundle ⟨i, 0⟩) : h.Callable id i min := by
  obtain ⟨-, reports, hcheck⟩ := hv id d hd
  have hrep := (check_eq_ok hcheck).2
  have hr : reports[i]? = some _ := List.getElem?_eq_getElem (hrep.length ▸ hi)
  intro sink context caller
  have hout := evaluateInto_outcome hd hcheck hr sink context caller
  rw [(hrep.outputs i _ hr).2] at hout
  refine ⟨fun id' heq => ?_, fun j heq => ?_, fun output heq => ?_⟩
  · rw [heq] at hout
    obtain hop | ⟨_, ⟨⟩⟩ := hout
    exact hop
  · rw [heq] at hout
    obtain hop | ⟨_, ⟨⟩⟩ := hout
    exact hop
  · rw [heq] at hout
    exact Nat.le_trans hmin (Nat.le_of_eq (Eq.symm hout))

/-- With no shared ids, what stands under the id of a bundle is that bundle. -/
theorem bundle_first {config : Config} {store : Store} {traced : Bool} {before : List Action}
    {bundle : Bundle} {mins : List Nat}
    (hinj : ∀ b m, .deploy b m ∈ before → b.id = bundle.id → b = bundle) :
    ((((Host.new config store traced).run before).find? bundle.id).getD ⟨bundle, mins⟩).bundle =
      bundle := by
  cases hd : ((Host.new config store traced).run before).find? bundle.id with
  | none => rfl
  | some d =>
    have hid := ((vetted_new config store traced).run before bundle.id d hd).1
    exact hinj d.bundle d.minOutputs ((deploy_mem_of_find? hd).resolve_left nofun) hid.symm

/-- **What a deploy makes callable.** After a deploy that succeeded, whatever is done next, the
entrypoints that it declared are callable as far as the first deploy of the bundle declared them,
and no further. -/
theorem callable_iff_declared_first {config : Config} {store : Store} {traced : Bool}
    {before after : List Action} {bundle : Bundle} {mins : List Nat} {id : ExpressionId}
    (hinj : Unambiguous (before ++ .deploy bundle mins :: after))
    (hdeploy : (((Host.new config store traced).run before).deploy bundle mins).outcome = .ok id)
    {i min : Nat} (hmin : mins[i]? = some min) :
    ((Host.new config store traced).run (before ++ .deploy bundle mins :: after)).Callable id i
        min ↔
      i < ((((Host.new config store traced).run before).find? id).getD
        ⟨bundle, mins⟩).minOutputs.length := by
  have hfind := find?_run after (find?_deploy hdeploy)
  obtain ⟨rfl, reports, hcheck⟩ := deploy_eq_ok_iff.mp hdeploy
  have hfirst : ((((Host.new config store traced).run before).find? bundle.id).getD
      ⟨bundle, mins⟩).bundle = bundle :=
    bundle_first fun b m hb => hinj b m bundle mins (List.mem_append_left _ hb)
      (List.mem_append_right _ List.mem_cons_self)
  rw [run_append, run_cons]
  constructor
  · intro hcall
    exact Nat.lt_of_not_le fun hle => not_callable hfind hle hcall
  · intro hi
    have hv := (((vetted_new config store traced).run before).act (.deploy bundle mins)).run after
    refine callable_of_lt hv hfind hi ?_
    rw [hfirst]
    exact (check_eq_ok hcheck).1.outputs i min hmin

/-- Two sources without ops. -/
def idleBundle : Bundle := ⟨[⟨[]⟩, ⟨[]⟩], []⟩

theorem deploy_idleBundle (h : Host) (mins : List Nat) (hm : mins = [0] ∨ mins = [0, 0]) :
    (h.deploy idleBundle mins).outcome = .ok idleBundle.id := by
  refine deploy_eq_ok_iff.mpr ⟨rfl, ?_⟩
  rcases hm with rfl | rfl
  · exact ⟨[⟨0, 0, 0⟩], rfl⟩
  · exact ⟨[⟨0, 0, 0⟩, ⟨1, 0, 0⟩], rfl⟩

/-- Of two entrypoints, of which the first deploy declared one, that one is callable. -/
theorem idle_callable_iff_declared_first :
    ((Host.new .standard (.empty .none) false).run
      ([.deploy idleBundle [0]] ++ [.deploy idleBundle [0, 0]])).Callable idleBundle.id 0 0 := by
  have hinj : Unambiguous ([.deploy idleBundle [0]] ++ [.deploy idleBundle [0, 0]]) := by
    intro b m b' m' hb hb' _
    simp only [List.singleton_append, List.mem_cons, Action.deploy.injEq, List.not_mem_nil,
      or_false] at hb hb'
    rcases hb with ⟨rfl, -⟩ | ⟨rfl, -⟩ <;> rcases hb' with ⟨rfl, -⟩ | ⟨rfl, -⟩ <;> rfl
  have hfirst := find?_deploy (deploy_idleBundle (Host.new .standard (.empty .none) false) [0]
    (.inl rfl))
  refine (callable_iff_declared_first hinj (deploy_idleBundle _ [0, 0] (.inr rfl)) rfl).mpr ?_
  rw [run_cons, run_nil, act, hfirst]
  exact Nat.one_pos

/-- **A deployed entrypoint that is not known.** The bundle is deployed with one entrypoint, and
then with two, which succeeds. The second cannot be called. -/
theorem redeployed_entrypoint_unknown :
    (((Host.new .standard (.empty .none) false).run [.deploy idleBundle [0]]).deploy idleBundle
      [0, 0]).outcome = .ok idleBundle.id ∧
    (((Host.new .standard (.empty .none) false).run
      [.deploy idleBundle [0], .deploy idleBundle [0, 0]]).evaluateInto .discard idleBundle.id 1
        .empty 1#256).outcome = .error (.unknownEntrypoint 1) := by
  refine ⟨deploy_idleBundle _ [0, 0] (.inr rfl), ?_⟩
  have hfirst := find?_run [.deploy idleBundle [0, 0]] (find?_deploy
    (deploy_idleBundle (Host.new .standard (.empty .none) false) [0] (.inl rfl)))
  unfold evaluateInto
  rw [run_cons, act, hfirst]
  rfl

end Host

end ExprMachine
