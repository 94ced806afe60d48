import ExprMachine.Proofs.Host.Run
import ExprMachine.Proofs.Store

/-!
# Evaluations are all or nothing

An evaluation that fails leaves the host as it was, and one that succeeds adds exactly the writes
that it returns (`Host.evaluation_all_or_nothing`). A store that refuses nothing gives this
outright. One that refuses values can refuse to take back what a key held before; where it does not,
the same holds of it.

* `Host.Orderly refusals h`: the host was set up over a store that was filled word by word, and the
  store was changed by evaluations, single writes and commits only.
* `Host.Orderly.store_induction`: what holds of an empty store and survives a write holds of the
  store of such a host.
* `Host.pendingWrites`: what an evaluation asks the store to commit.
-/

namespace ExprMachine

/-- A store filled word by word, whatever it refuses. -/
def Store.filled (refusals : Refusals) (seed : List (Slot × Word)) : Store :=
  seed.foldl (fun s e => s.put e.1.caller e.1.key e.2) (.empty refusals)

/-- The writes of an evaluation stand in the order of their keys, one for each. -/
theorem Machine.writes_increasing {limits : Limits} {request : Request} {store : Store}
    {gasLimit : Nat} {traced : Bool} {output : Output}
    (h : (evaluate limits request store gasLimit traced).outcome = .ok output) :
    output.writes.Pairwise fun a b => a.1 < b.1 := by
  unfold evaluate evaluateWithin at h
  simp only at h
  split at h
  · cases h
    exact Table.sorted _
  · cases h

namespace Host

/-- A host whose store was changed through its own operations only (module doc). -/
inductive Orderly (refusals : Refusals) : Host → Prop where
  | new (config : Config) (seed : List (Slot × Word)) (traced : Bool) :
    Orderly refusals (.new config (.filled refusals seed) traced)
  | deploy {h : Host} (hh : Orderly refusals h) (bundle : Bundle) (minOutputs : List Nat) :
    Orderly refusals (h.deploy bundle minOutputs).host
  | evaluate {h : Host} (hh : Orderly refusals h) (id : ExpressionId) (entrypoint : Nat)
      (context : Context) (caller : Word) :
    Orderly refusals (h.evaluate id entrypoint context caller).host
  | evaluateInto {h : Host} (hh : Orderly refusals h) (sink : DebugSink) (id : ExpressionId)
      (entrypoint : Nat) (context : Context) (caller : Word) :
    Orderly refusals (h.evaluateInto sink id entrypoint context caller).host
  | set {h : Host} (hh : Orderly refusals h) {caller key value : Word} {store : Store}
      (hset : h.store.set caller key value = .ok store) :
    Orderly refusals { h with store := store }
  | commit {h : Host} (hh : Orderly refusals h) (caller : Word) (writes : List (Word × Word)) :
    Orderly refusals { h with store := (h.store.commit caller writes).store }

section StoreInduction

variable {P : Store → Prop} (hput : ∀ s caller key value, P s → P (s.put caller key value))
include hput

theorem filled_induction {refusals : Refusals} (hempty : P (.empty refusals))
    (seed : List (Slot × Word)) : P (.filled refusals seed) :=
  List.foldlRecOn seed _ hempty fun s hs e _ => hput s e.1.caller e.1.key e.2 hs

theorem putAll_induction {s : Store} (hs : P s) (caller : Word) (writes : List (Word × Word)) :
    P (s.putAll caller writes) := by
  induction writes generalizing s with
  | nil => exact hs
  | cons w writes ih => exact ih (hput s caller w.1 w.2 hs)

theorem commit_induction {s : Store} (hs : P s) (caller : Word) (writes : List (Word × Word)) :
    P (s.commit caller writes).store := by
  obtain ⟨applied, heq⟩ := s.commit_store caller writes
  rw [heq]
  exact putAll_induction hput hs caller applied

theorem evaluateInto_induction {h : Host} (hh : P h.store) (sink : DebugSink) (id : ExpressionId)
    (entrypoint : Nat) (context : Context) (caller : Word) :
    P (h.evaluateInto sink id entrypoint context caller).host.store := by
  rcases h.evaluateInto_cases sink id entrypoint context caller with
    ⟨_, -, heq⟩ | ⟨_, _, output, _, _, -, -, -, -, heq⟩
  · rw [heq]
    exact hh
  · rw [heq, settle_host]
    exact commit_induction hput hh caller output.writes

/-- What holds of an empty store and survives a write holds of the store of an orderly host. -/
theorem Orderly.store_induction {refusals : Refusals} {h : Host} (hh : h.Orderly refusals)
    (hempty : P (.empty refusals)) : P h.store := by
  induction hh with
  | new config seed traced => exact filled_induction hput hempty seed
  | deploy _ bundle minOutputs ih =>
    rename_i h _
    rcases h.deploy_host bundle minOutputs with heq | ⟨-, -, heq⟩
    · rw [heq]
      exact ih
    · rw [heq]
      exact ih
  | evaluate _ id entrypoint context caller ih =>
    exact evaluateInto_induction hput ih _ id entrypoint context caller
  | evaluateInto _ sink id entrypoint context caller ih =>
    exact evaluateInto_induction hput ih sink id entrypoint context caller
  | set _ hset ih =>
    rw [Store.set_eq] at hset
    split at hset
    · cases hset
      exact hput _ _ _ _ ih
    · cases hset
  | commit _ caller writes ih => exact commit_induction hput ih caller writes

end StoreInduction

variable {refusals : Refusals} {h : Host}

theorem Orderly.refusals_eq (hh : h.Orderly refusals) : h.store.refusals = refusals := by
  refine Orderly.store_induction (P := fun s => s.refusals = refusals) ?_ hh rfl
  intro s caller key value hs
  rw [Store.refusals_put, hs]

theorem Orderly.zeroless (hh : h.Orderly refusals) : h.store.Zeroless := by
  refine Orderly.store_induction (P := Store.Zeroless) ?_ hh (Store.zeroless_empty refusals)
  intro s caller key value hs
  exact hs.putAll caller [(key, value)]

/-- What an evaluation asks the store to commit: nothing if it fails before. -/
def pendingWrites (h : Host) (id : ExpressionId) (entrypoint : Nat) (context : Context)
    (caller : Word) : List (Word × Word) :=
  match h.find? id with
  | none => []
  | some d =>
    match d.minOutputs[entrypoint]? with
    | none => []
    | some min =>
      match (Machine.evaluate h.config.limits ⟨d.bundle, entrypoint, context, caller, none⟩ h.store
        h.config.gasLimit h.traced).outcome with
      | .error _ => []
      | .ok output => if min ≤ output.stack.length then output.writes else []

/-- **Evaluations are all or nothing.** No entry ever holds zero. An evaluation that fails, for
whatever reason, leaves the host as it was. One that succeeds changes the store only, which then has
what the evaluation returned as writes, and in every other slot what it had. -/
theorem evaluation_all_or_nothing (hh : h.Orderly refusals) (sink : DebugSink) (id : ExpressionId)
    (entrypoint : Nat) (context : Context) (caller : Word)
    (hundo : refusals = .none ∨ ∀ w ∈ h.pendingWrites id entrypoint context caller,
      h.store.peek caller w.1 ∉ refusals.values) :
    h.store.Zeroless ∧
    Outcome (h.evaluateInto sink id entrypoint context caller).outcome
      (fun output => output.writes.Pairwise (fun a b => a.1 < b.1) ∧
        ∃ store,
          (h.evaluateInto sink id entrypoint context caller).host = { h with store := store } ∧
          h.store.Written caller output.writes store ∧ store.Zeroless)
      (fun _ => (h.evaluateInto sink id entrypoint context caller).host = h) := by
  have hz := hh.zeroless
  refine ⟨hz, ?_⟩
  rcases h.evaluateInto_cases sink id entrypoint context caller with
    ⟨e, houtcome, hhost⟩ | ⟨d, min, output, notices, events, hfind, hmin, heval, hlen, heq⟩
  · rw [houtcome]
    exact hhost
  have hpending : h.pendingWrites id entrypoint context caller = output.writes := by
    simp only [pendingWrites, hfind, hmin, heval, hlen, ↓reduceIte]
  have hwritable : ∀ w ∈ output.writes, h.store.peek caller w.1 ∉ h.store.refusals.values := by
    rw [hh.refusals_eq]
    rcases hundo with rfl | hundo
    · exact fun _ _ => List.not_mem_nil
    · exact hpending ▸ hundo
  have hcommit := hz.commit_outcome caller hwritable
  rw [heq, settle_host, settle_outcome_eq]
  cases hres : (h.store.commit caller output.writes).outcome with
  | error cause =>
    rw [hres] at hcommit
    have hstore : (h.store.commit caller output.writes).store = h.store := hcommit
    show { h with store := _ } = h
    rw [hstore]
  | ok _ =>
    rw [hres] at hcommit
    have hstore : (h.store.commit caller output.writes).store =
      h.store.putAll caller output.writes := hcommit
    have hsorted := Machine.writes_increasing heval
    refine ⟨hsorted, _, rfl, ?_⟩
    rw [hstore]
    exact ⟨h.store.written_putAll caller hsorted, hz.putAll caller output.writes⟩

/-- Writes 7 under the key 1 and 8 under the key 2. -/
def pairBundle : Bundle :=
  ⟨[⟨[.ofRaw 0 1, .ofRaw 0 3, .ofRaw 7 0, .ofRaw 0 5, .ofRaw 0 7, .ofRaw 7 0]⟩],
    [1#256, 7#256, 2#256, 8#256]⟩

/-- A host with the bundle, over a store that takes neither the key 2 nor the value 9, and that
holds 5 for the caller 1 under the key 1. -/
def pairHost : Host :=
  ((Host.new .standard (.filled ⟨[], [2#256], [9#256]⟩ [(⟨1#256, 1#256⟩, 5#256)])
    false).deploy pairBundle [0]).host

theorem orderly_pairHost : pairHost.Orderly ⟨[], [2#256], [9#256]⟩ :=
  .deploy (.new .standard _ false) pairBundle [0]

theorem find?_pairHost : pairHost.find? pairBundle.id = some ⟨pairBundle, [0]⟩ :=
  find?_deploy (deploy_eq_ok_iff.mpr ⟨rfl, [⟨0, 0, 2⟩], rfl⟩)

-- The id is left open from here on: what follows is evaluated, and the id would be too.
section

variable {id : ExpressionId} (hfind : pairHost.find? id = some ⟨pairBundle, [0]⟩)
include hfind

theorem pairHost_undoable :
    ∀ w ∈ pairHost.pendingWrites id 0 .empty 1#256, pairHost.store.peek 1#256 w.1 ∉ [9#256] := by
  have hpending : pairHost.pendingWrites id 0 .empty 1#256 = [(1#256, 7#256), (2#256, 8#256)] := by
    unfold pendingWrites
    rw [hfind]
    rfl
  have hone : pairHost.store.peek 1#256 1#256 = 5#256 := rfl
  have htwo : pairHost.store.peek 1#256 2#256 = 0#256 := rfl
  rw [hpending]
  simp [hone, htwo]

theorem pairHost_refuses :
    (pairHost.evaluateInto .discard id 0 .empty 1#256).outcome =
      .error (.store (.writeRefused 2#256)) := by
  unfold evaluateInto
  rw [hfind]
  rfl

end

/-- The first write is taken and the second refused. What the first had replaced is back. -/
theorem pair_all_or_nothing :
    (pairHost.evaluateInto .discard pairBundle.id 0 .empty 1#256).outcome =
      .error (.store (.writeRefused 2#256)) ∧
    (pairHost.evaluateInto .discard pairBundle.id 0 .empty 1#256).host = pairHost := by
  have hfind := find?_pairHost
  generalize pairBundle.id = id at hfind ⊢
  have houtcome := pairHost_refuses hfind
  have hend := (evaluation_all_or_nothing orderly_pairHost .discard id 0 .empty 1#256
    (.inr (pairHost_undoable hfind))).2
  rw [houtcome] at hend
  exact ⟨houtcome, hend⟩

end Host

end ExprMachine
