import ExprMachine.Host
import ExprMachine.Proofs.Soundness

/-!
# Runs of a host

Whatever is done to a host one thing after another, succeeding or not.

* `Action`, `Host.act`, `Host.run`: what can be done, one action, and a run of them. The store of a
  host is open to whoever holds it, so an action may put any store in its place.
* `Host.act_cases`: the only action that touches the deployed bundles is a deploy that is accepted
  and whose id is not known, and it adds one.
* `Host.Vetted`: every deployed bundle stands under its own id and was checked. Every run keeps it
  (`Host.vetted_run`).
* `Host.evaluateInto_outcome`: what comes of evaluating an entrypoint of a checked bundle.
-/

namespace ExprMachine

open Integrity

/-- Something that is done to a host. -/
inductive Action where
  | deploy (bundle : Bundle) (minOutputs : List Nat)
  | evaluate (id : ExpressionId) (entrypoint : Nat) (context : Context) (caller : Word)
  | evaluateInto (sink : DebugSink) (id : ExpressionId) (entrypoint : Nat) (context : Context)
      (caller : Word)
  | replaceStore (store : Store)

namespace Host

/-- The host after one action. -/
def act (h : Host) : Action → Host
  | .deploy bundle minOutputs => (h.deploy bundle minOutputs).host
  | .evaluate id entrypoint context caller => (h.evaluate id entrypoint context caller).host
  | .evaluateInto sink id entrypoint context caller =>
    (h.evaluateInto sink id entrypoint context caller).host
  | .replaceStore store => { h with store := store }

/-- The host after some actions. -/
def run (h : Host) (actions : List Action) : Host := actions.foldl act h

@[simp] theorem run_nil (h : Host) : h.run [] = h := rfl

@[simp] theorem run_cons (h : Host) (a : Action) (actions : List Action) :
    h.run (a :: actions) = (h.act a).run actions := rfl

theorem run_append (h : Host) (before after : List Action) :
    h.run (before ++ after) = (h.run before).run after := List.foldl_append

/-! ## What an action changes -/

variable {h : Host} {id : ExpressionId} {d : Deployed}

/-- The host with one more bundle. -/
def added (h : Host) (bundle : Bundle) (minOutputs : List Nat) : Host :=
  { h with expressions := (bundle.id, ⟨bundle, minOutputs⟩) :: h.expressions }

theorem find?_added (h : Host) (bundle : Bundle) (minOutputs : List Nat) (id : ExpressionId) :
    (h.added bundle minOutputs).find? id =
      if id = bundle.id then some ⟨bundle, minOutputs⟩ else h.find? id := by
  unfold find? added
  rw [List.lookup_cons]
  by_cases hid : id = bundle.id
  · simp only [hid, BEq.rfl, ↓reduceIte]
  · simp only [hid, beq_eq_false_iff_ne.mpr hid, ↓reduceIte]

/-- A deploy returns the id of the bundle if it is accepted, and fails otherwise. -/
theorem deploy_eq_ok_iff {bundle : Bundle} {minOutputs : List Nat} :
    (h.deploy bundle minOutputs).outcome = .ok id ↔
      id = bundle.id ∧ ∃ reports, check bundle h.config.limits minOutputs = .ok reports := by
  unfold deploy
  cases check bundle h.config.limits minOutputs with
  | error defect => simp only [reduceCtorEq, exists_false, and_false]
  | ok reports =>
    cases hfind : h.find? bundle.id with
    | some d => simp only [hfind, Except.ok.injEq, exists_eq', and_true, eq_comm]
    | none => simp only [hfind, Except.ok.injEq, exists_eq', and_true, eq_comm]

/-- A bundle that is accepted is there from then on, as it was first deployed. -/
theorem find?_deploy {bundle : Bundle} {minOutputs : List Nat}
    (hd : (h.deploy bundle minOutputs).outcome = .ok id) :
    (h.deploy bundle minOutputs).host.find? id =
      some ((h.find? id).getD ⟨bundle, minOutputs⟩) := by
  obtain ⟨rfl, reports, hcheck⟩ := deploy_eq_ok_iff.mp hd
  unfold deploy
  cases hfind : h.find? bundle.id with
  | some d =>
    simp only [hcheck, hfind, Option.getD_some]
  | none =>
    simp only [hcheck, hfind, Option.getD_none]
    exact (h.find?_added bundle minOutputs bundle.id).trans (if_pos rfl)

/-- A deploy adds a bundle that is accepted and not known, and otherwise changes nothing. -/
theorem deploy_host (h : Host) (bundle : Bundle) (minOutputs : List Nat) :
    (h.deploy bundle minOutputs).host = h ∨
    (∃ reports, check bundle h.config.limits minOutputs = .ok reports) ∧
      h.find? bundle.id = none ∧
      (h.deploy bundle minOutputs).host = h.added bundle minOutputs := by
  unfold deploy
  cases check bundle h.config.limits minOutputs with
  | error defect => exact .inl rfl
  | ok reports =>
    cases hfind : h.find? bundle.id with
    | some d => exact .inl (by simp only [hfind])
    | none => exact .inr ⟨⟨reports, rfl⟩, rfl, by simp only [hfind, added]⟩

theorem settle_host (h : Host) (id : ExpressionId) (entrypoint : Nat) (caller : Word)
    (output : Machine.Output) (notices : List Notice) (events : List DebugEvent) :
    (h.settle id entrypoint caller output notices events).host =
      { h with store := (h.store.commit caller output.writes).store } := by
  unfold settle
  simp only
  split <;> rfl

theorem settle_outcome_eq (h : Host) (id : ExpressionId) (entrypoint : Nat) (caller : Word)
    (output : Machine.Output) (notices : List Notice) (events : List DebugEvent) :
    (h.settle id entrypoint caller output notices events).outcome =
      match (h.store.commit caller output.writes).outcome with
      | .error cause => .error (.store cause)
      | .ok _ => .ok output := by
  unfold settle
  cases hcommit : (h.store.commit caller output.writes).outcome with
  | error cause => simp only [hcommit]
  | ok _ => simp only [hcommit]

/-- An evaluation fails and changes nothing, or it leaves enough words and comes to a commit. -/
theorem evaluateInto_cases (h : Host) (sink : DebugSink) (id : ExpressionId) (entrypoint : Nat)
    (context : Context) (caller : Word) :
    (∃ e, (h.evaluateInto sink id entrypoint context caller).outcome = .error e ∧
      (h.evaluateInto sink id entrypoint context caller).host = h) ∨
    ∃ d min output notices events, h.find? id = some d ∧ d.minOutputs[entrypoint]? = some min ∧
      (Machine.evaluate h.config.limits ⟨d.bundle, entrypoint, context, caller, none⟩ h.store
        h.config.gasLimit h.traced).outcome = .ok output ∧
      min ≤ output.stack.length ∧
      h.evaluateInto sink id entrypoint context caller =
        h.settle id entrypoint caller output notices events := by
  unfold evaluateInto
  cases hfind : h.find? id with
  | none => exact .inl ⟨_, rfl, rfl⟩
  | some d =>
    simp only
    cases hmin : d.minOutputs[entrypoint]? with
    | none => exact .inl ⟨_, rfl, rfl⟩
    | some min =>
      simp only
      cases houtcome : (Machine.evaluate h.config.limits
          ⟨d.bundle, entrypoint, context, caller, none⟩ h.store h.config.gasLimit
          h.traced).outcome with
      | error e => exact .inl ⟨_, rfl, rfl⟩
      | ok output =>
        simp only
        split
        · exact .inl ⟨_, rfl, rfl⟩
        · rename_i hge
          exact .inr ⟨d, min, output, _, _, rfl, hmin, houtcome, Nat.le_of_not_lt hge, rfl⟩

/-- An evaluation changes the store at most. -/
theorem evaluateInto_host (h : Host) (sink : DebugSink) (id : ExpressionId) (entrypoint : Nat)
    (context : Context) (caller : Word) :
    ∃ store,
      (h.evaluateInto sink id entrypoint context caller).host = { h with store := store } := by
  rcases h.evaluateInto_cases sink id entrypoint context caller with
    ⟨_, -, heq⟩ | ⟨_, _, _, _, _, -, -, -, -, heq⟩
  · exact ⟨h.store, heq⟩
  · rw [heq]
    exact ⟨_, h.settle_host id entrypoint caller _ _ _⟩

/-- All that an action can do (module doc). -/
theorem act_cases (h : Host) (a : Action) :
    (∃ store, h.act a = { h with store := store }) ∨
    ∃ bundle minOutputs, a = .deploy bundle minOutputs ∧
      (∃ reports, check bundle h.config.limits minOutputs = .ok reports) ∧
      h.find? bundle.id = none ∧ h.act a = h.added bundle minOutputs := by
  cases a with
  | deploy bundle minOutputs =>
    rcases h.deploy_host bundle minOutputs with heq | hnew
    · exact .inl ⟨h.store, heq⟩
    · exact .inr ⟨bundle, minOutputs, rfl, hnew⟩
  | evaluate id entrypoint context caller =>
    exact .inl (h.evaluateInto_host _ id entrypoint context caller)
  | evaluateInto sink id entrypoint context caller =>
    exact .inl (h.evaluateInto_host sink id entrypoint context caller)
  | replaceStore store => exact .inl ⟨store, rfl⟩

/-! ## What a run keeps -/

theorem config_act (h : Host) (a : Action) : (h.act a).config = h.config := by
  rcases h.act_cases a with ⟨store, heq⟩ | ⟨bundle, minOutputs, -, -, -, heq⟩
  · rw [heq]
  · rw [heq]
    rfl

theorem config_run (h : Host) (actions : List Action) : (h.run actions).config = h.config := by
  induction actions generalizing h with
  | nil => rfl
  | cons a actions ih => rw [run_cons, ih, config_act]

/-- A deployed bundle stays as it was first deployed. -/
theorem find?_act (a : Action) (hd : h.find? id = some d) : (h.act a).find? id = some d := by
  rcases h.act_cases a with ⟨store, heq⟩ | ⟨bundle, minOutputs, -, -, hnone, heq⟩
  · rw [heq]
    exact hd
  · have hne : id ≠ bundle.id := by
      rintro rfl
      rw [hnone] at hd
      cases hd
    rw [heq, find?_added, if_neg hne]
    exact hd

theorem find?_run (actions : List Action) (hd : h.find? id = some d) :
    (h.run actions).find? id = some d := by
  induction actions generalizing h with
  | nil => exact hd
  | cons a actions ih => exact ih (find?_act a hd)

/-- Every deployed bundle stands under its own id, and was accepted with its least numbers. -/
def Vetted (h : Host) : Prop :=
  ∀ id d, h.find? id = some d →
    id = d.bundle.id ∧ ∃ reports, check d.bundle h.config.limits d.minOutputs = .ok reports

theorem vetted_new (config : Config) (store : Store) (traced : Bool) :
    (Host.new config store traced).Vetted := nofun

theorem Vetted.act (hv : h.Vetted) (a : Action) : (h.act a).Vetted := by
  rcases h.act_cases a with ⟨store, heq⟩ | ⟨bundle, minOutputs, -, hcheck, -, heq⟩
  · rw [heq]
    exact hv
  · rw [heq]
    intro id d hd
    rw [find?_added] at hd
    split at hd
    · rename_i hid
      cases hd
      exact ⟨hid, hcheck⟩
    · exact hv id d hd

theorem Vetted.run (hv : h.Vetted) (actions : List Action) : (h.run actions).Vetted := by
  induction actions generalizing h with
  | nil => exact hv
  | cons a actions ih => exact ih (hv.act a)

/-- What is deployed was deployed by some action. -/
theorem deploy_mem_of_find? {actions : List Action} (hd : (h.run actions).find? id = some d) :
    h.find? id = some d ∨ .deploy d.bundle d.minOutputs ∈ actions := by
  induction actions generalizing h with
  | nil => exact .inl hd
  | cons a actions ih =>
    rcases ih hd with hd | hmem
    · rcases h.act_cases a with ⟨store, heq⟩ | ⟨bundle, minOutputs, rfl, -, -, heq⟩
      · rw [heq] at hd
        exact .inl hd
      · rw [heq, find?_added] at hd
        split at hd
        · cases hd
          exact .inr List.mem_cons_self
        · exact .inl hd
    · exact .inr (List.mem_cons_of_mem a hmem)

/-! ## Evaluating an entrypoint -/

/-- A commit that fails is the store's. -/
theorem settle_outcome (h : Host) (id : ExpressionId) (entrypoint : Nat) (caller : Word)
    (output : Machine.Output) (notices : List Notice) (events : List DebugEvent) :
    Outcome (h.settle id entrypoint caller output notices events).outcome (fun o => o = output)
      (fun e => ∃ cause, e = .store cause) := by
  rw [settle_outcome_eq]
  split
  · exact ⟨_, rfl⟩
  · rfl

/-- **An entrypoint of a checked bundle.** It leaves as many words as its report says, or it fails
for an operational reason, or its writes cannot be committed. -/
theorem evaluateInto_outcome {reports : List EntrypointReport} {i : Nat} {r : EntrypointReport}
    (hd : h.find? id = some d) (hcheck : check d.bundle h.config.limits d.minOutputs = .ok reports)
    (hr : reports[i]? = some r) (sink : DebugSink) (context : Context) (caller : Word) :
    Outcome (h.evaluateInto sink id i context caller).outcome
      (fun output => output.stack.length = r.outputs)
      (fun e => e.Operational h.store ∨ ∃ cause, e = .store cause) := by
  obtain ⟨hacc, hrep⟩ := check_eq_ok hcheck
  have hi : i < d.minOutputs.length := by
    rw [← hrep.length]
    exact (List.getElem?_eq_some_iff.mp hr).1
  have hmin := List.getElem?_eq_getElem hi
  have hfinal := (hrep.outputs i r hr).2
  have hrun := Machine.evaluate_certified ⟨d.bundle, i, context, caller, none⟩
    (hacc.certified i hi) h.store h.config.gasLimit h.traced
  unfold evaluateInto
  simp only [hd, hmin]
  cases heval : (Machine.evaluate h.config.limits ⟨d.bundle, i, context, caller, none⟩ h.store
      h.config.gasLimit h.traced).outcome with
  | error e =>
    rw [heval] at hrun
    exact .inl hrun
  | ok output =>
    rw [heval] at hrun
    obtain ⟨words, hwords, hstack⟩ := hrun
    have hlen : output.stack.length = r.outputs := by
      rw [hstack, hfinal]
      exact hwords
    have hle := hacc.outputs i _ hmin
    rw [← hfinal, ← hlen] at hle
    simp only [Nat.not_lt.mpr hle, ↓reduceIte]
    refine (h.settle_outcome id i caller output _ _).mono (fun o ho => ?_) fun _ he => .inr he
    rw [ho]
    exact hlen

end Host

end ExprMachine
