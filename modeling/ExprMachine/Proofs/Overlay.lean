import ExprMachine.Proofs.Run.Simulation
import ExprMachine.Proofs.Store
import Mathlib.Data.List.Permutation

/-!
# The overlay refines writing in place

An evaluation keeps its writes apart and leaves it to its host to commit them. It could as well
write them into a store of its own at once: `evaluateInPlace` is that evaluation, the same run over
`InPlace`. Over a store that refuses nothing the two cannot be told apart, and what is committed in
the end is the store that the second one wrote (`overlay_refines_in_place`).

The overlay keeps one value for each key, in key order, and keeps a zero as a zero; the store in
place has been written in the order of the run, and has no entry where zero was written. They are
related by `Settles`: the store in place is what the overlay's writes make of its base. A read gives
the same in both (`Settles.get`), and so does a read after a write (`Settles.set`), since either way
a slot holds what its key was given last.
-/

namespace ExprMachine

/-! ## Writing in place -/

/-- A store that one caller reads and writes at once. -/
structure InPlace where
  store : Store
  caller : Word

namespace InPlace

/-- Writes a key. A write that the store refuses is passed over. -/
def set (d : InPlace) (key value : Word) : InPlace :=
  match d.store.set d.caller key value with
  | .ok store => { d with store := store }
  | .error _ => d

instance : Storage InPlace where
  read d key := d.store.get d.caller key
  write := set

/-- A store that refuses nothing takes every write. -/
theorem set_eq {d : InPlace} (h : d.store.refusals = .none) (key value : Word) :
    d.set key value = { d with store := d.store.put d.caller key value } := by
  have hallows : d.store.refusals.Allows (key, value) := by
    rw [h]
    exact ⟨List.not_mem_nil, List.not_mem_nil⟩
  simp only [set, Store.set_eq, hallows, ↓reduceIte]

end InPlace

namespace Machine

/-- What came of an evaluation in place: its words or its fault, and in either case the store that
it wrote, what it spent and what it left behind. -/
structure InPlaceEvaluation where
  outcome : Except Fault (List Word)
  store : Store
  gasUsed : Nat
  trail : List TrailEntry

/-- Evaluates a request that writes the store as it runs. -/
def evaluateInPlace (limits : Limits) (request : Request) (store : Store) (gasLimit : Nat)
    (traced : Bool) : InPlaceEvaluation :=
  let limits := limits.clamped
  let env : Env := ⟨request.bundle, request.context, limits, traced⟩
  let machine : Machine InPlace := ⟨.fresh gasLimit, ⟨store, request.caller⟩, #[]⟩
  match runSource env (gasLimit + 1) limits.maxCallDepth 0 request.source
    (.empty limits.maxStack) machine with
  | .ok stack m =>
    ⟨.ok (keepTop request.maxOutputs stack.words), m.storage.store, m.gas.used, m.trail.toList⟩
  | .error e m => ⟨.error e, m.storage.store, m.gas.used, m.trail.toList⟩

end Machine

/-! ## What the writes of an overlay come to -/

/-- In a table every key is written once, so its last write is its entry. -/
theorem lastWrite?_entries (t : Table Word Word) (key : Word) :
    lastWrite? key t.entries = t.get? key := by
  cases hlast : lastWrite? key t.entries with
  | some value => exact ((Table.mem_iff_lookup t.sorted _).mp (mem_of_lastWrite? hlast)).symm
  | none =>
    cases hget : t.get? key with
    | none => rfl
    | some value =>
      have hmem : (key, value) ∈ t.entries := (Table.mem_iff_lookup t.sorted (key, value)).mpr hget
      exact absurd rfl (ne_key_of_lastWrite? hlast _ hmem)

/-- A word is read back from the entry that keeps it. -/
theorem Word.getD_stored (value : Word) : value.stored.getD 0#256 = value := by
  unfold Word.stored
  split
  · rename_i hz
    exact (Word.isZero_iff.mp hz).symm
  · rfl

namespace Store

variable {s : Store}

/-- What a slot of the caller reads as after the writes of a table. -/
theorem peek_putAll_entries (s : Store) (caller : Word) (t : Table Word Word) (key : Word) :
    (s.putAll caller t.entries).peek caller key = (t.get? key).getD (s.peek caller key) := by
  have hslot := s.get?_putAll caller t.entries ⟨caller, key⟩
  rw [if_pos rfl, lastWrite?_entries] at hslot
  show ((s.putAll caller t.entries).get? ⟨caller, key⟩).getD 0#256 = _
  rw [hslot]
  cases t.get? key with
  | none => rfl
  | some value => exact value.getD_stored

/-- One more write: it does not matter that the table puts it in the place of its key. -/
theorem putAll_entries_insert (s : Store) (caller : Word) (t : Table Word Word)
    (key value : Word) :
    s.putAll caller (t.insert key value).entries =
      (s.putAll caller t.entries).put caller key value := by
  refine ext_get? (by simp) fun slot => ?_
  obtain ⟨c, k⟩ := slot
  rw [get?_put, get?_putAll, get?_putAll, lastWrite?_entries, lastWrite?_entries, Table.get?_insert]
  by_cases hc : c = caller
  · subst hc
    by_cases hk : k = key
    · simp [hk]
    · simp [hk]
  · simp [hc]

/-- A store that refuses nothing takes every commit. -/
theorem commit_of_refusals_none (h : s.refusals = .none) (caller : Word)
    (writes : List (Word × Word)) :
    s.commit caller writes = ⟨.ok (), s.putAll caller writes, []⟩ := by
  rcases s.commit_cases caller writes with
    ⟨_, w, _, -, -, hw, -⟩ | ⟨-, ⟨-, heq⟩ | ⟨_, w, _, -, -, hw, -⟩⟩
  · rw [h] at hw
    exact absurd hw List.not_mem_nil
  · exact heq
  · rw [h] at hw
    exact absurd ⟨List.not_mem_nil, List.not_mem_nil⟩ hw

end Store

/-! ## Overlays and stores in place -/

/-- The overlay stands on `base`, and its writes turn that into the store in place. -/
structure Settles (base : Store) (caller : Word) (o : Overlay) (d : InPlace) : Prop where
  stands : o.base = base
  reader : o.caller = caller
  writer : d.caller = caller
  store : d.store = base.putAll caller o.writes

namespace Settles

variable {base : Store} {caller : Word} {o : Overlay} {d : InPlace}

theorem start (base : Store) (caller : Word) :
    Settles base caller (.start base caller) ⟨base, caller⟩ := ⟨rfl, rfl, rfl, rfl⟩

theorem refusals (h : Settles base caller o d) : d.store.refusals = base.refusals := by
  rw [h.store, Store.refusals_putAll]

/-- **Reads agree.** -/
theorem get (h : Settles base caller o d) (hbase : base.refusals = .none) (key : Word) :
    o.get key = d.store.get d.caller key := by
  have hplace : d.store.get d.caller key = .ok (d.store.peek caller key) := by
    rw [Store.get, h.refusals, hbase, h.writer]
    exact if_neg List.not_mem_nil
  have hover : o.base.get o.caller key = .ok (base.peek caller key) := by
    rw [Store.get, h.stands, hbase, h.reader]
    exact if_neg List.not_mem_nil
  rw [hplace, h.store, Overlay.writes, Store.peek_putAll_entries, Overlay.get, hover]
  cases o.pending.get? key with
  | none => rfl
  | some value => rfl

/-- **Writes keep the two together.** -/
theorem set (h : Settles base caller o d) (hbase : base.refusals = .none) (key value : Word) :
    Settles base caller (o.set key value) (d.set key value) := by
  rw [InPlace.set_eq (h.refusals.trans hbase)]
  refine ⟨h.stands, h.reader, h.writer, ?_⟩
  show d.store.put d.caller key value = base.putAll caller (o.pending.insert key value).entries
  rw [Store.putAll_entries_insert, h.store, h.writer]
  rfl

end Settles

theorem alike_settles {base : Store} (hbase : base.refusals = .none) (caller : Word) :
    Alike (Settles base caller) where
  read key h := h.get hbase key
  write key value h := h.set hbase key value

namespace Machine

/-- **The overlay refines writing in place.** Over a store that refuses nothing, an evaluation and
the same evaluation in place give the same words or the same fault, spend the same gas and leave the
same trail. If they succeed, committing the writes of the one gives the store of the other. -/
theorem overlay_refines_in_place (limits : Limits) (request : Request) (store : Store)
    (hstore : store.refusals = .none) (gasLimit : Nat) (traced : Bool) :
    (evaluate limits request store gasLimit traced).outcome.map Output.stack =
      (evaluateInPlace limits request store gasLimit traced).outcome ∧
    (evaluate limits request store gasLimit traced).gasUsed =
      (evaluateInPlace limits request store gasLimit traced).gasUsed ∧
    (evaluate limits request store gasLimit traced).trail =
      (evaluateInPlace limits request store gasLimit traced).trail ∧
    ∀ output, (evaluate limits request store gasLimit traced).outcome = .ok output →
      output.gasUsed = (evaluateInPlace limits request store gasLimit traced).gasUsed ∧
      store.commit request.caller output.writes =
        ⟨.ok (), (evaluateInPlace limits request store gasLimit traced).store, []⟩ := by
  have hend := runSource_agree (alike_settles hstore request.caller)
    ⟨request.bundle, request.context, limits.clamped, traced⟩ (gasLimit + 1)
    limits.clamped.maxCallDepth 0 request.source (.empty limits.clamped.maxStack)
    ⟨.fresh gasLimit, .start store request.caller, #[]⟩
    ⟨.fresh gasLimit, ⟨store, request.caller⟩, #[]⟩ ⟨rfl, rfl, .start store request.caller⟩
  unfold evaluate evaluateWithin evaluateInPlace
  simp only
  revert hend
  generalize runSource (σ := Overlay) _ _ _ _ _ _ _ = overlaid
  generalize runSource (σ := InPlace) _ _ _ _ _ _ _ = direct
  match overlaid, direct with
  | .ok stack m, .ok stack' n =>
    rintro ⟨rfl, hgas, htrail, hsettles⟩
    have hused : m.gas.used = n.gas.used := congrArg Gas.Meter.used hgas
    refine ⟨rfl, hused, congrArg Array.toList htrail, ?_⟩
    rintro output ⟨⟩
    refine ⟨hused, (Store.commit_of_refusals_none hstore request.caller _).trans ?_⟩
    exact congrArg (Commit.mk (.ok ()) · []) hsettles.store.symm
  | .error e m, .error e' n =>
    rintro ⟨rfl, hgas, htrail, -⟩
    exact ⟨rfl, congrArg Gas.Meter.used hgas, congrArg Array.toList htrail, nofun⟩
  | .ok _ _, .error _ _ => exact False.elim
  | .error _ _, .ok _ _ => exact False.elim

/-- The first source writes 5 under the key 1 and calls the second, which writes zero there and 1
under the key 2; then the first reads both keys. -/
def rewriteBundle : Bundle :=
  ⟨[⟨[.ofRaw 0 1, .ofRaw 0 3, .ofRaw 7 0, .ofRaw 2 1, .ofRaw 0 1, .ofRaw 8 0, .ofRaw 0 7,
      .ofRaw 8 0]⟩,
    ⟨[.ofRaw 0 7, .ofRaw 0 1, .ofRaw 7 0, .ofRaw 0 1, .ofRaw 0 5, .ofRaw 7 0]⟩],
    [1#256, 5#256, 0#256, 2#256]⟩

/-- The zero that the overlay keeps removes the entry that was there before. -/
theorem rewriteBundle_in_place :
    (evaluate .standard ⟨rewriteBundle, 0, .empty, 9#256, none⟩
      ((Store.empty .none).put 9#256 1#256 7#256) 10000 false).outcome =
        .ok ⟨[0#256, 1#256], [(1#256, 0#256), (2#256, 1#256)], 8934⟩ ∧
    ((Store.empty .none).put 9#256 1#256 7#256).commit 9#256 [(1#256, 0#256), (2#256, 1#256)] =
      ⟨.ok (), (evaluateInPlace .standard ⟨rewriteBundle, 0, .empty, 9#256, none⟩
        ((Store.empty .none).put 9#256 1#256 7#256) 10000 false).store, []⟩ := by
  have houtcome : (evaluate .standard ⟨rewriteBundle, 0, .empty, 9#256, none⟩
      ((Store.empty .none).put 9#256 1#256 7#256) 10000 false).outcome =
        .ok ⟨[0#256, 1#256], [(1#256, 0#256), (2#256, 1#256)], 8934⟩ := by cbv
  obtain ⟨-, -, -, hcommit⟩ := overlay_refines_in_place .standard
    ⟨rewriteBundle, 0, .empty, 9#256, none⟩ ((Store.empty .none).put 9#256 1#256 7#256) rfl 10000
    false
  exact ⟨houtcome, (hcommit _ houtcome).2⟩

end Machine

end ExprMachine
