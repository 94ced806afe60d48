import ExprMachine.Proofs.Host.Run
import ExprMachine.Proofs.Run.Simulation
import ExprMachine.Proofs.Store

/-!
# Callers do not see each other

What one caller's evaluations answer, and what the store keeps for that caller, does not depend on
what the others evaluate (`Host.evaluations_isolated`).

* `Store.SameFor caller s t`: the stores refuse the same and hold the same for the caller.
* `Host.SameFor caller h g`: the hosts differ at most in what their stores hold for others.
* An action of the caller, or of nobody, answers the same on both and keeps them so
  (`Host.SameFor.act`). An evaluation by another caller keeps the host as it is for this one
  (`Host.sameFor_act_foreign`). The run is an induction over these two.
-/

namespace ExprMachine

/-- Stores that a caller cannot tell apart. -/
structure Store.SameFor (caller : Word) (s t : Store) : Prop where
  refusals : s.refusals = t.refusals
  entries : ∀ key, s.get? ⟨caller, key⟩ = t.get? ⟨caller, key⟩

/-- Commits that a caller cannot tell apart. -/
structure Commit.SameFor (caller : Word) (a b : Commit) : Prop where
  outcome : a.outcome = b.outcome
  store : a.store.SameFor caller b.store
  failedUndos : a.failedUndos = b.failedUndos

namespace Store

variable {caller : Word} {s t u : Store}

theorem SameFor.refl (caller : Word) (s : Store) : SameFor caller s s := ⟨rfl, fun _ => rfl⟩

theorem SameFor.trans (h : SameFor caller s t) (h' : SameFor caller t u) : SameFor caller s u :=
  ⟨h.refusals.trans h'.refusals, fun key => (h.entries key).trans (h'.entries key)⟩

/-- What another caller writes cannot be told. -/
theorem sameFor_putAll {other : Word} (hne : caller ≠ other) (s : Store)
    (writes : List (Word × Word)) : SameFor caller (s.putAll other writes) s :=
  ⟨s.refusals_putAll other writes, fun _ => get?_putAll_of_caller_ne writes hne⟩

/-! ## Reading and committing -/

theorem SameFor.get (h : SameFor caller s t) (key : Word) :
    s.get caller key = t.get caller key := by
  have hpeek : s.peek caller key = t.peek caller key := congrArg (·.getD 0#256) (h.entries key)
  unfold Store.get
  rw [h.refusals, hpeek]

theorem SameFor.priors (h : SameFor caller s t) (writes : List (Word × Word)) :
    s.priors caller writes = t.priors caller writes := by
  unfold Store.priors
  simp only [h.get]

theorem SameFor.putAll (h : SameFor caller s t) (writes : List (Word × Word)) :
    SameFor caller (s.putAll caller writes) (t.putAll caller writes) := by
  refine ⟨by simp [h.refusals], fun key => ?_⟩
  rw [get?_putAll, get?_putAll, h.entries key]

theorem SameFor.applyAll (h : SameFor caller s t) (done writes priors : List (Word × Word)) :
    (s.applyAll caller done writes priors).SameFor caller
      (t.applyAll caller done writes priors) := by
  induction writes generalizing s t done priors with
  | nil => exact ⟨rfl, h, rfl⟩
  | cons w writes ih =>
    cases priors with
    | nil => exact ⟨rfl, h, rfl⟩
    | cons prior priors =>
      obtain ⟨key, value⟩ := w
      simp only [Store.applyAll, set_eq, restore_eq, h.refusals]
      by_cases ha : t.refusals.Allows (key, value)
      · simp only [ha, ↓reduceIte]
        exact ih (h.putAll [(key, value)]) (prior :: done) priors
      · simp only [ha, ↓reduceIte]
        exact ⟨rfl, h.putAll _, rfl⟩

/-- A commit by the caller. -/
theorem SameFor.commit (h : SameFor caller s t) (writes : List (Word × Word)) :
    (s.commit caller writes).SameFor caller (t.commit caller writes) := by
  unfold Store.commit
  rw [h.priors]
  cases t.priors caller writes with
  | ok priors => exact h.applyAll [] writes priors
  | error e => exact ⟨rfl, h, rfl⟩

end Store

/-! ## Evaluating -/

namespace Overlay

/-- The same writes over stores that the caller cannot tell apart. -/
structure SameView (o p : Overlay) : Prop where
  caller : o.caller = p.caller
  pending : o.pending = p.pending
  base : o.base.SameFor p.caller p.base

theorem alike_sameView : Alike SameView where
  read key h := by
    show Overlay.get _ key = Overlay.get _ key
    unfold Overlay.get
    rw [h.pending, h.caller, h.base.get]
  write key value h := ⟨h.caller, congrArg (Table.insert · key value) h.pending, h.base⟩

end Overlay

attribute [ext] Machine.Evaluation

/-- An evaluation reads what its caller can tell, and nothing else. -/
theorem Machine.evaluate_sameFor (request : Request) {s t : Store}
    (h : s.SameFor request.caller t) (limits : Limits) (gasLimit : Nat) (traced : Bool) :
    evaluate limits request s gasLimit traced = evaluate limits request t gasLimit traced := by
  have hrun := runSource_agree Overlay.alike_sameView
    ⟨request.bundle, request.context, limits.clamped, traced⟩ (gasLimit + 1)
    limits.clamped.maxCallDepth 0 request.source (.empty limits.clamped.maxStack)
  obtain ⟨houtcome, hgas, m, n, hmn, hm, hn⟩ := evaluate_coupled limits request request s t gasLimit
    traced hrun ⟨rfl, rfl, rfl, rfl, h⟩ rfl (fun m n hmn => by rw [hmn.gas])
    (fun m n hmn => congrArg Table.entries hmn.storage.pending)
  have htrail : (evaluate limits request s gasLimit traced).trail =
      (evaluate limits request t gasLimit traced).trail := by
    rw [hm, hn, hmn.trail]
  exact Evaluation.ext houtcome hgas htrail

/-! ## Actions -/

/-- Who evaluates; a deploy and a new store are nobody's. -/
def Action.caller? : Action → Option Word
  | .evaluate _ _ _ caller => some caller
  | .evaluateInto _ _ _ _ caller => some caller
  | .deploy _ _ => none
  | .replaceStore _ => none

/-- An evaluation by somebody else. -/
def Action.Foreign (caller : Word) (a : Action) : Prop :=
  a.caller? ≠ none ∧ a.caller? ≠ some caller

instance (caller : Word) : DecidablePred (Action.Foreign caller) :=
  fun _ => inferInstanceAs (Decidable (_ ∧ _))

/-- What an evaluation answers: its output or its fault, what it reports and its snapshots. -/
structure Answer where
  outcome : Except Fault Machine.Output
  notices : List Notice
  events : List DebugEvent

/-- What the caller gets to see of a reply. -/
def Reply.answer (r : Reply Machine.Output) : Answer := ⟨r.outcome, r.notices, r.events⟩

namespace Host

/-- What comes of an action, if it is an evaluation. -/
def reply? (h : Host) : Action → Option (Reply Machine.Output)
  | .evaluate id entrypoint context caller => some (h.evaluate id entrypoint context caller)
  | .evaluateInto sink id entrypoint context caller =>
    some (h.evaluateInto sink id entrypoint context caller)
  | .deploy _ _ => none
  | .replaceStore _ => none

/-- What an action answers, if it is an evaluation by the given caller. -/
def answer? (h : Host) (caller : Word) (a : Action) : Option Answer :=
  if a.caller? = some caller then (h.reply? a).map Reply.answer else none

/-- What the evaluations of a caller answer in a run. -/
def answers (h : Host) (caller : Word) : List Action → List Answer
  | [] => []
  | a :: actions => (h.answer? caller a).toList ++ (h.act a).answers caller actions

/-- Hosts that a caller cannot tell apart. -/
structure SameFor (caller : Word) (h g : Host) : Prop where
  config : h.config = g.config
  expressions : h.expressions = g.expressions
  store : h.store.SameFor caller g.store
  traced : h.traced = g.traced

theorem SameFor.refl (caller : Word) (h : Host) : SameFor caller h h :=
  ⟨rfl, rfl, .refl caller h.store, rfl⟩

theorem SameFor.trans {caller : Word} {h g k : Host} (hg : SameFor caller h g)
    (hk : SameFor caller g k) : SameFor caller h k :=
  ⟨hg.config.trans hk.config, hg.expressions.trans hk.expressions, hg.store.trans hk.store,
    hg.traced.trans hk.traced⟩

end Host

/-- Replies that a caller cannot tell apart. -/
structure Reply.SameFor {α : Type} (caller : Word) (r q : Reply α) : Prop where
  outcome : r.outcome = q.outcome
  host : r.host.SameFor caller q.host
  notices : r.notices = q.notices
  events : r.events = q.events

theorem Reply.SameFor.answer {caller : Word} {r q : Reply Machine.Output}
    (h : r.SameFor caller q) : r.answer = q.answer := by
  unfold Reply.answer
  rw [h.outcome, h.notices, h.events]

namespace Host

variable {caller : Word} {h g : Host}

theorem SameFor.settle (hs : SameFor caller h g) (id : ExpressionId) (entrypoint : Nat)
    (output : Machine.Output) (notices : List Notice) (events : List DebugEvent) :
    (h.settle id entrypoint caller output notices events).SameFor caller
      (g.settle id entrypoint caller output notices events) := by
  have hcommit := hs.store.commit output.writes
  unfold Host.settle
  simp only [hcommit.outcome, hcommit.failedUndos]
  split
  · exact ⟨rfl, ⟨hs.config, hs.expressions, hcommit.store, hs.traced⟩, rfl, rfl⟩
  · exact ⟨rfl, ⟨hs.config, hs.expressions, hcommit.store, hs.traced⟩, rfl, rfl⟩

/-- An evaluation by the caller. -/
theorem SameFor.evaluateInto (hs : SameFor caller h g) (sink : DebugSink) (id : ExpressionId)
    (entrypoint : Nat) (context : Context) :
    (h.evaluateInto sink id entrypoint context caller).SameFor caller
      (g.evaluateInto sink id entrypoint context caller) := by
  have hfind : h.find? id = g.find? id := congrArg (List.lookup id) hs.expressions
  unfold Host.evaluateInto
  rw [hfind]
  cases g.find? id with
  | none => exact ⟨rfl, hs, rfl, rfl⟩
  | some d =>
    have heval := Machine.evaluate_sameFor ⟨d.bundle, entrypoint, context, caller, none⟩
      hs.store g.config.limits g.config.gasLimit g.traced
    simp only [hs.config, hs.traced, heval]
    split
    · exact ⟨rfl, hs, rfl, rfl⟩
    · split
      · exact ⟨rfl, hs, rfl, rfl⟩
      · split
        · exact ⟨rfl, hs, rfl, rfl⟩
        · exact hs.settle id entrypoint _ _ _

theorem SameFor.evaluate (hs : SameFor caller h g) (id : ExpressionId) (entrypoint : Nat)
    (context : Context) :
    (h.evaluate id entrypoint context caller).SameFor caller
      (g.evaluate id entrypoint context caller) := by
  unfold Host.evaluate
  rw [hs.config]
  exact hs.evaluateInto g.config.debugSink id entrypoint context

theorem SameFor.deploy (hs : SameFor caller h g) (bundle : Bundle) (minOutputs : List Nat) :
    SameFor caller (h.deploy bundle minOutputs).host (g.deploy bundle minOutputs).host := by
  have hfind : h.find? bundle.id = g.find? bundle.id :=
    congrArg (List.lookup bundle.id) hs.expressions
  unfold Host.deploy
  simp only [hs.config, hfind]
  split
  · exact hs
  · split
    · exact hs
    · exact ⟨rfl, congrArg (List.cons _) hs.expressions, hs.store, hs.traced⟩

/-- **An action that is not an evaluation by somebody else** answers the same on both hosts, and
leaves hosts that the caller cannot tell apart. -/
theorem SameFor.act (hs : SameFor caller h g) {a : Action} (ha : ¬ a.Foreign caller) :
    h.answer? caller a = g.answer? caller a ∧ SameFor caller (h.act a) (g.act a) := by
  cases a with
  | deploy bundle minOutputs => exact ⟨rfl, hs.deploy bundle minOutputs⟩
  | replaceStore store =>
    exact ⟨rfl, hs.config, hs.expressions, .refl caller store, hs.traced⟩
  | evaluate id entrypoint context caller' =>
    obtain rfl : caller' = caller := by simpa [Action.Foreign, Action.caller?] using ha
    have hreply := hs.evaluate id entrypoint context
    exact ⟨by simp only [answer?, reply?, Option.map_some, hreply.answer], hreply.host⟩
  | evaluateInto sink id entrypoint context caller' =>
    obtain rfl : caller' = caller := by simpa [Action.Foreign, Action.caller?] using ha
    have hreply := hs.evaluateInto sink id entrypoint context
    exact ⟨by simp only [answer?, reply?, Option.map_some, hreply.answer], hreply.host⟩

theorem sameFor_evaluateInto_other {other : Word} (hne : caller ≠ other) (h : Host)
    (sink : DebugSink) (id : ExpressionId) (entrypoint : Nat) (context : Context) :
    SameFor caller (h.evaluateInto sink id entrypoint context other).host h := by
  rcases h.evaluateInto_cases sink id entrypoint context other with
    ⟨_, -, heq⟩ | ⟨_, _, output, _, _, -, -, -, -, heq⟩
  · rw [heq]
    exact .refl caller h
  · obtain ⟨applied, hstore⟩ := h.store.commit_store other output.writes
    rw [heq, settle_host, hstore]
    exact ⟨rfl, rfl, Store.sameFor_putAll hne h.store applied, rfl⟩

/-- **An evaluation by somebody else** leaves the host as it was for the caller. -/
theorem sameFor_act_foreign {a : Action} (ha : a.Foreign caller) (h : Host) :
    SameFor caller (h.act a) h ∧ h.answer? caller a = none := by
  refine ⟨?_, if_neg ha.2⟩
  cases a with
  | deploy bundle minOutputs => exact absurd rfl ha.1
  | replaceStore store => exact absurd rfl ha.1
  | evaluate id entrypoint context other =>
    exact sameFor_evaluateInto_other (fun heq => ha.2 (congrArg some heq.symm)) h _ id entrypoint
      context
  | evaluateInto sink id entrypoint context other =>
    exact sameFor_evaluateInto_other (fun heq => ha.2 (congrArg some heq.symm)) h sink id
      entrypoint context

/-- The run of the actions that are left when the evaluations by others are taken out, next to the
run of them all. -/
theorem SameFor.run (hs : SameFor caller h g) (actions : List Action) :
    h.answers caller actions = g.answers caller (actions.filter fun a => ¬ a.Foreign caller) ∧
    SameFor caller (h.run actions) (g.run (actions.filter fun a => ¬ a.Foreign caller)) := by
  induction actions generalizing h g with
  | nil => exact ⟨rfl, hs⟩
  | cons a actions ih =>
    by_cases ha : a.Foreign caller
    · -- Only the first run takes this step, and the caller cannot tell.
      obtain ⟨hact, hnone⟩ := sameFor_act_foreign ha h
      rw [List.filter_cons_of_neg (by simpa using ha), answers, hnone]
      exact ih (hact.trans hs)
    · obtain ⟨hanswer, hact⟩ := hs.act ha
      rw [List.filter_cons_of_pos (by simpa using ha), answers, answers, hanswer]
      obtain ⟨hrest, hrun⟩ := ih hact
      exact ⟨congrArg _ hrest, hrun⟩

/-- **Callers are isolated.** Whatever is done to a host, each caller's evaluations answer what they
would answer if the others evaluated nothing, and the store ends up with the same entries for that
caller. -/
theorem evaluations_isolated (h : Host) (actions : List Action) (caller : Word) :
    h.answers caller actions = h.answers caller (actions.filter fun a => ¬ a.Foreign caller) ∧
    ∀ key, (h.run actions).store.get? ⟨caller, key⟩ =
      (h.run (actions.filter fun a => ¬ a.Foreign caller)).store.get? ⟨caller, key⟩ := by
  obtain ⟨hanswers, hrun⟩ := (SameFor.refl caller h).run actions
  exact ⟨hanswers, hrun.store.entries⟩

end Host

end ExprMachine
