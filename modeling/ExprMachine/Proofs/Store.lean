import ExprMachine.Proofs.Outcome
import ExprMachine.Proofs.Table
import ExprMachine.Store

/-!
# What a commit leaves

A store is what its slots hold and what it refuses (`Store.ext_get?`). Everything that changes one
is a row of writes of one caller, so the rest is said about those:

* `Store.putAll`: writes one after the other, whatever the store refuses. A slot of the caller holds
  what its key was given last, and any other slot what it held (`Store.get?_putAll`).
* `Store.restore_eq`: undoing is writing what is not refused.
* `Store.commit_cases`: a commit stops at the first key that it may not read, or writes everything,
  or stops at the first write that is refused and undoes those before it.
* `Store.Zeroless`: no entry holds zero. With it, writing back what was read changes nothing
  (`Store.Zeroless.putAll_undo`), so a commit that fails leaves nothing behind unless the undoing is
  refused (`Store.Zeroless.commit_outcome`).
-/

namespace ExprMachine

/-- The entry that keeps a word: zero is kept by having none. -/
def Word.stored (value : Word) : Option Word := if value.isZero then none else some value

theorem Word.stored_ne_zero (value : Word) : value.stored ≠ some 0#256 := by
  unfold Word.stored
  split
  · exact nofun
  · rename_i hz
    rintro ⟨rfl⟩
    exact hz rfl

theorem Word.stored_of_ne_zero {value : Word} (h : value ≠ 0#256) : value.stored = some value :=
  if_neg fun hz => h (Word.isZero_iff.mp hz)

/-- Neither the key nor the value of a write is refused. -/
def Refusals.Allows (r : Refusals) (w : Word × Word) : Prop := w.1 ∉ r.writes ∧ w.2 ∉ r.values

instance (r : Refusals) : DecidablePred r.Allows := fun _ => inferInstanceAs (Decidable (_ ∧ _))

/-! ## The last write of a key -/

/-- The value that writes give a key last. -/
def lastWrite? (key : Word) (writes : List (Word × Word)) : Option Word :=
  writes.reverse.lookup key

theorem lastWrite?_cons (key : Word) (w : Word × Word) (writes : List (Word × Word)) :
    lastWrite? key (w :: writes) =
      (lastWrite? key writes).or (if key = w.1 then some w.2 else none) := by
  unfold lastWrite?
  rw [List.reverse_cons, List.lookup_append, List.lookup_cons]
  by_cases hk : key = w.1
  · simp only [hk, BEq.rfl, ↓reduceIte]
  · simp only [beq_eq_false_iff_ne.mpr hk, hk, List.lookup_nil, ↓reduceIte]

theorem mem_of_lastWrite? {key value : Word} {writes : List (Word × Word)}
    (h : lastWrite? key writes = some value) : (key, value) ∈ writes := by
  obtain ⟨after, before, heq, -⟩ := List.lookup_eq_some_iff.mp h
  rw [← List.mem_reverse, heq]
  exact List.mem_append_right _ List.mem_cons_self

theorem ne_key_of_lastWrite? {key : Word} {writes : List (Word × Word)}
    (h : lastWrite? key writes = none) : ∀ w ∈ writes, w.1 ≠ key := by
  intro w hw heq
  have := List.lookup_eq_none_iff.mp h w (List.mem_reverse.mpr hw)
  simp [heq] at this

namespace Store

variable {s t : Store}

/-- The entry of a slot. -/
abbrev get? (s : Store) (slot : Slot) : Option Word := s.entries.get? slot

/-- **A store is what its slots hold and what it refuses.** -/
theorem ext_get? (hr : s.refusals = t.refusals) (h : ∀ slot, s.get? slot = t.get? slot) :
    s = t := by
  obtain ⟨entries, refusals⟩ := s
  obtain ⟨entries', refusals'⟩ := t
  cases hr
  cases Table.ext_get? h
  rfl

/-! ## Writing -/

@[simp] theorem refusals_put (s : Store) (caller key value : Word) :
    (s.put caller key value).refusals = s.refusals := by
  unfold put
  split <;> rfl

theorem get?_put (s : Store) (caller key value : Word) (slot : Slot) :
    (s.put caller key value).get? slot =
      if slot = ⟨caller, key⟩ then value.stored else s.get? slot := by
  unfold put Word.stored
  split
  · exact Table.get?_erase s.entries ⟨caller, key⟩ slot
  · exact Table.get?_insert s.entries ⟨caller, key⟩ value slot

theorem set_eq (s : Store) (caller key value : Word) :
    s.set caller key value =
      if s.refusals.Allows (key, value) then .ok (s.put caller key value)
      else .error (.writeRefused key) := by
  have hiff : s.refusals.Allows (key, value) ↔
      ¬ (key ∈ s.refusals.writes ∨ value ∈ s.refusals.values) := not_or.symm
  unfold set
  by_cases h : key ∈ s.refusals.writes ∨ value ∈ s.refusals.values
  · rw [if_pos h, if_neg fun ha => hiff.mp ha h]
  · rw [if_neg h, if_pos (hiff.mpr h)]

/-- Writes one value after the other, whatever the store refuses. -/
def putAll (s : Store) (caller : Word) (writes : List (Word × Word)) : Store :=
  writes.foldl (fun s w => s.put caller w.1 w.2) s

@[simp] theorem putAll_nil (s : Store) (caller : Word) : s.putAll caller [] = s := rfl

@[simp] theorem putAll_cons (s : Store) (caller : Word) (w : Word × Word)
    (writes : List (Word × Word)) :
    s.putAll caller (w :: writes) = (s.put caller w.1 w.2).putAll caller writes := rfl

@[simp] theorem refusals_putAll (s : Store) (caller : Word) (writes : List (Word × Word)) :
    (s.putAll caller writes).refusals = s.refusals := by
  induction writes generalizing s with
  | nil => rfl
  | cons w writes ih => rw [putAll_cons, ih, refusals_put]

/-- **Every slot after some writes.** -/
theorem get?_putAll (s : Store) (caller : Word) (writes : List (Word × Word)) (slot : Slot) :
    (s.putAll caller writes).get? slot =
      if slot.caller = caller then
        ((lastWrite? slot.key writes).map Word.stored).getD (s.get? slot)
      else s.get? slot := by
  induction writes generalizing s with
  | nil => exact (ite_self _).symm
  | cons w writes ih =>
    rw [putAll_cons, ih, get?_put, lastWrite?_cons]
    obtain ⟨c, k⟩ := slot
    by_cases hc : c = caller
    · subst hc
      cases lastWrite? k writes with
      | some value => simp
      | none =>
        by_cases hk : k = w.1
        · simp [hk]
        · simp [hk]
    · simp [hc]

theorem get?_putAll_of_caller_ne {caller : Word} (writes : List (Word × Word)) {slot : Slot}
    (h : slot.caller ≠ caller) : (s.putAll caller writes).get? slot = s.get? slot := by
  rw [get?_putAll, if_neg h]

theorem get?_putAll_of_key_ne {caller key : Word} {writes : List (Word × Word)}
    (h : ∀ w ∈ writes, w.1 ≠ key) :
    (s.putAll caller writes).get? ⟨caller, key⟩ = s.get? ⟨caller, key⟩ := by
  rw [get?_putAll, if_pos rfl]
  cases hlast : lastWrite? key writes with
  | none => rfl
  | some value => exact absurd rfl (h _ (mem_of_lastWrite? hlast))

/-- A key that is given one value, however often, holds it. -/
theorem get?_putAll_of_agree {caller key value : Word} {writes : List (Word × Word)}
    (hmem : ∃ w ∈ writes, w.1 = key) (hall : ∀ w ∈ writes, w.1 = key → w.2 = value) :
    (s.putAll caller writes).get? ⟨caller, key⟩ = value.stored := by
  rw [get?_putAll, if_pos rfl]
  cases hlast : lastWrite? key writes with
  | none =>
    obtain ⟨w, hw, hk⟩ := hmem
    exact absurd hk (ne_key_of_lastWrite? hlast w hw)
  | some value' => rw [← hall _ (mem_of_lastWrite? hlast) rfl]; rfl

/-! ## Reading, undoing and committing -/

/-- What the key of a write holds. -/
def prior (s : Store) (caller : Word) (w : Word × Word) : Word × Word := (w.1, s.peek caller w.1)

/-- The keys are read in order, up to the first that may not be read. -/
theorem priors_cases (s : Store) (caller : Word) (writes : List (Word × Word)) :
    (∃ before w after, writes = before ++ w :: after ∧
      (∀ v ∈ before, v.1 ∉ s.refusals.reads) ∧ w.1 ∈ s.refusals.reads ∧
      s.priors caller writes = .error (.readRefused w.1)) ∨
    (∀ w ∈ writes, w.1 ∉ s.refusals.reads) ∧
      s.priors caller writes = .ok (writes.map (s.prior caller)) := by
  induction writes with
  | nil => exact .inr ⟨nofun, rfl⟩
  | cons w writes ih =>
    have hstep : s.priors caller (w :: writes) =
        (s.get caller w.1).bind fun value =>
          (s.priors caller writes).bind fun rest => .ok ((w.1, value) :: rest) := by
      unfold priors
      rw [List.mapM_cons]
      unfold get
      split <;> rfl
    by_cases hw : w.1 ∈ s.refusals.reads
    · refine .inl ⟨[], w, writes, rfl, nofun, hw, ?_⟩
      rw [hstep, get, if_pos hw]
      rfl
    · rw [get, if_neg hw] at hstep
      rcases ih with ⟨before, v, after, rfl, hbefore, hv, heq⟩ | ⟨hall, heq⟩
      · refine .inl ⟨w :: before, v, after, rfl, ?_, hv, ?_⟩
        · exact List.forall_mem_cons.mpr ⟨hw, hbefore⟩
        · rw [hstep, heq]
          rfl
      · refine .inr ⟨List.forall_mem_cons.mpr ⟨hw, hall⟩, ?_⟩
        rw [hstep, heq]
        rfl

/-- Undoing writes what is not refused and reports the rest. -/
theorem restore_eq (s : Store) (caller : Word) (undos : List (Word × Word)) :
    s.restore caller undos =
      (s.putAll caller (undos.filter fun w => s.refusals.Allows w),
        (undos.filter fun w => ¬ s.refusals.Allows w).map fun w => .writeRefused w.1) := by
  induction undos generalizing s with
  | nil => rfl
  | cons w undos ih =>
    obtain ⟨key, value⟩ := w
    unfold restore
    rw [set_eq]
    by_cases ha : s.refusals.Allows (key, value)
    · simp [ha, ih]
    · simp [ha, ih]

/-- The writes are applied in order, up to the first that is refused. -/
theorem applyAll_cases (s : Store) (caller : Word) (priorOf : Word × Word → Word × Word)
    (done writes : List (Word × Word)) :
    ((∀ w ∈ writes, s.refusals.Allows w) ∧
      s.applyAll caller done writes (writes.map priorOf) = ⟨.ok (), s.putAll caller writes, []⟩) ∨
    ∃ before w after, writes = before ++ w :: after ∧ (∀ v ∈ before, s.refusals.Allows v) ∧
      ¬ s.refusals.Allows w ∧
      s.applyAll caller done writes (writes.map priorOf) =
        ⟨.error (.writeRefused w.1),
          ((s.putAll caller before).restore caller ((before.map priorOf).reverse ++ done)).1,
          ((s.putAll caller before).restore caller ((before.map priorOf).reverse ++ done)).2⟩ := by
  induction writes generalizing s done with
  | nil => exact .inl ⟨nofun, rfl⟩
  | cons w writes ih =>
    obtain ⟨key, value⟩ := w
    rw [List.map_cons, applyAll, set_eq]
    by_cases ha : s.refusals.Allows (key, value)
    · simp only [ha, ↓reduceIte]
      rcases ih (s.put caller key value) (priorOf (key, value) :: done) with
        ⟨hall, heq⟩ | ⟨before, w, after, rfl, hbefore, hw, heq⟩
      · rw [refusals_put] at hall
        exact .inl ⟨List.forall_mem_cons.mpr ⟨ha, hall⟩, heq⟩
      · rw [refusals_put] at hbefore hw
        refine .inr ⟨(key, value) :: before, w, after, rfl,
          List.forall_mem_cons.mpr ⟨ha, hbefore⟩, hw, ?_⟩
        rw [heq, List.map_cons, List.reverse_cons, List.append_assoc]
        rfl
    · simp only [ha, ↓reduceIte]
      exact .inr ⟨[], (key, value), writes, rfl, nofun, ha, rfl⟩

/-- **All that a commit can do** (module doc). -/
theorem commit_cases (s : Store) (caller : Word) (writes : List (Word × Word)) :
    (∃ before w after, writes = before ++ w :: after ∧
      (∀ v ∈ before, v.1 ∉ s.refusals.reads) ∧ w.1 ∈ s.refusals.reads ∧
      s.commit caller writes = ⟨.error (.readRefused w.1), s, []⟩) ∨
    (∀ w ∈ writes, w.1 ∉ s.refusals.reads) ∧
      ((∀ w ∈ writes, s.refusals.Allows w) ∧
        s.commit caller writes = ⟨.ok (), s.putAll caller writes, []⟩ ∨
      ∃ before w after, writes = before ++ w :: after ∧ (∀ v ∈ before, s.refusals.Allows v) ∧
        ¬ s.refusals.Allows w ∧
        s.commit caller writes =
          ⟨.error (.writeRefused w.1),
            (s.putAll caller before).putAll caller
              ((before.map (s.prior caller)).reverse.filter fun v => s.refusals.Allows v),
            ((before.map (s.prior caller)).reverse.filter fun v => ¬ s.refusals.Allows v).map
              fun v => .writeRefused v.1⟩) := by
  unfold commit
  rcases s.priors_cases caller writes with ⟨before, w, after, heq, hbefore, hw, hp⟩ | ⟨hall, hp⟩
  · rw [hp]
    exact .inl ⟨before, w, after, heq, hbefore, hw, rfl⟩
  · rw [hp]
    refine .inr ⟨hall, ?_⟩
    rcases s.applyAll_cases caller (s.prior caller) [] writes with
      hdone | ⟨before, w, after, heq, hbefore, hw, hstop⟩
    · exact .inl hdone
    · refine .inr ⟨before, w, after, heq, hbefore, hw, ?_⟩
      rw [List.append_nil, restore_eq, refusals_putAll] at hstop
      exact hstop

/-- A commit writes slots of its caller, and nothing else. -/
theorem commit_store (s : Store) (caller : Word) (writes : List (Word × Word)) :
    ∃ applied, (s.commit caller writes).store = s.putAll caller applied := by
  rcases s.commit_cases caller writes with
    ⟨_, _, _, -, -, -, heq⟩ | ⟨-, ⟨-, heq⟩ | ⟨before, _, _, -, -, -, heq⟩⟩
  · exact ⟨[], by rw [heq, putAll_nil]⟩
  · exact ⟨writes, by rw [heq]⟩
  · exact ⟨before ++ _, by rw [heq]; exact List.foldl_append.symm⟩

/-! ## Stores without zeros -/

/-- No entry holds zero. -/
def Zeroless (s : Store) : Prop := ∀ slot, s.get? slot ≠ some 0#256

theorem zeroless_empty (refusals : Refusals) : (empty refusals).Zeroless := by
  intro slot
  rw [show (empty refusals).get? slot = none from Table.get?_empty slot]
  exact nofun

theorem Zeroless.putAll (h : s.Zeroless) (caller : Word) (writes : List (Word × Word)) :
    (s.putAll caller writes).Zeroless := by
  intro slot
  rw [get?_putAll]
  split
  · cases lastWrite? slot.key writes with
    | none => exact h slot
    | some value => exact value.stored_ne_zero
  · exact h slot

/-- What a slot reads as is kept by the entry that it has. -/
theorem Zeroless.stored_peek (h : s.Zeroless) (caller key : Word) :
    (s.peek caller key).stored = s.get? ⟨caller, key⟩ := by
  show ((s.get? ⟨caller, key⟩).getD 0#256).stored = s.get? ⟨caller, key⟩
  cases hget : s.get? ⟨caller, key⟩ with
  | none => rfl
  | some value =>
    refine Word.stored_of_ne_zero ?_
    rintro rfl
    exact h _ hget

/-- **Writing back what was read before.** The store is as it was, whatever was written in between
under the keys that were read, and however often. -/
theorem Zeroless.putAll_undo (h : s.Zeroless) (caller : Word) (writes : List (Word × Word)) :
    (s.putAll caller writes).putAll caller (writes.map (s.prior caller)).reverse = s := by
  refine ext_get? (by simp) fun slot => ?_
  obtain ⟨c, key⟩ := slot
  by_cases hc : c = caller
  · subst hc
    -- A key may be read and written several times, but what was read is always the same: all reads
    -- came before the first write.
    have hundo : ∀ u ∈ (writes.map (s.prior c)).reverse, u.1 = key → u.2 = s.peek c key := by
      intro u hu hk
      obtain ⟨w, -, rfl⟩ := List.mem_map.mp (List.mem_reverse.mp hu)
      rw [← hk]
      rfl
    by_cases hmem : ∃ w ∈ writes, w.1 = key
    · obtain ⟨w, hw, hk⟩ := hmem
      have hu : s.prior c w ∈ (writes.map (s.prior c)).reverse :=
        List.mem_reverse.mpr (List.mem_map_of_mem hw)
      rw [get?_putAll_of_agree ⟨_, hu, hk⟩ hundo]
      exact h.stored_peek c key
    · have hne : ∀ w ∈ writes, w.1 ≠ key := fun w hw hk => hmem ⟨w, hw, hk⟩
      have hne' : ∀ u ∈ (writes.map (s.prior c)).reverse, u.1 ≠ key := by
        intro u hu
        obtain ⟨w, hw, rfl⟩ := List.mem_map.mp (List.mem_reverse.mp hu)
        exact hne w hw
      rw [get?_putAll_of_key_ne hne', get?_putAll_of_key_ne hne]
  · rw [get?_putAll_of_caller_ne _ hc, get?_putAll_of_caller_ne _ hc]

/-! ## All or nothing -/

/-- The store `s'` is `s` with each of the caller's writes in its slot. -/
structure Written (s : Store) (caller : Word) (writes : List (Word × Word)) (s' : Store) :
    Prop where
  refusals : s'.refusals = s.refusals
  written : ∀ key value, (key, value) ∈ writes → s'.get? ⟨caller, key⟩ = value.stored
  others : ∀ slot, (slot.caller = caller → ∀ value, (slot.key, value) ∉ writes) →
    s'.get? slot = s.get? slot

/-- With one write for each key, the order does not matter. -/
theorem written_putAll (s : Store) (caller : Word) {writes : List (Word × Word)}
    (hsorted : writes.Pairwise fun a b => a.1 < b.1) :
    s.Written caller writes (s.putAll caller writes) where
  refusals := s.refusals_putAll caller writes
  written key value hmem := by
    refine get?_putAll_of_agree ⟨_, hmem, rfl⟩ ?_
    rintro ⟨_, value'⟩ hmem' rfl
    have hlookup := (Table.mem_iff_lookup hsorted _).mp hmem
    rw [(Table.mem_iff_lookup hsorted _).mp hmem'] at hlookup
    exact Option.some.inj hlookup
  others slot h := by
    obtain ⟨c, key⟩ := slot
    by_cases hc : c = caller
    · subst hc
      refine get?_putAll_of_key_ne ?_
      rintro ⟨_, value⟩ hmem rfl
      exact h rfl value hmem
    · exact get?_putAll_of_caller_ne writes hc

/-- **A commit is all or nothing** if what the keys held before may be written back. -/
theorem Zeroless.commit_outcome (h : s.Zeroless) (caller : Word) {writes : List (Word × Word)}
    (hundo : ∀ w ∈ writes, s.peek caller w.1 ∉ s.refusals.values) :
    Outcome (s.commit caller writes).outcome
      (fun _ => (s.commit caller writes).store = s.putAll caller writes)
      (fun _ => (s.commit caller writes).store = s) := by
  rcases s.commit_cases caller writes with
    ⟨_, _, _, -, -, -, heq⟩ | ⟨-, ⟨-, heq⟩ | ⟨before, w, after, hsplit, hbefore, -, heq⟩⟩
  · rw [heq]
    exact rfl
  · rw [heq]
    exact rfl
  · -- The key of an undo was written just before, so only its value could be refused.
    have hallowed : ∀ u ∈ (before.map (s.prior caller)).reverse, s.refusals.Allows u := by
      intro u hu
      obtain ⟨v, hv, rfl⟩ := List.mem_map.mp (List.mem_reverse.mp hu)
      exact ⟨(hbefore v hv).1, hundo v (hsplit ▸ List.mem_append_left _ hv)⟩
    rw [heq]
    show (s.putAll caller before).putAll caller _ = s
    rw [List.filter_eq_self.mpr fun u hu => decide_eq_true (hallowed u hu)]
    exact h.putAll_undo caller before

end Store

end ExprMachine
