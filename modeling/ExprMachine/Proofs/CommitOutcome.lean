import ExprMachine.Proofs.Store

/-!
# What becomes of a commit

A commit comes to one of three ends, and which one is decided by the writes in their order: by the
first key that may not be read, or else by the first write that is refused, or else by neither. The
undoing starts at a write that is refused, and an undo is refused only for its value: its key was
written before. So a slot is as it was before the commit, unless what it held may not be written
back; then it keeps what it was given last.

* `Store.commit_readRefused`, `Store.commit_ok`, `Store.commit_writeRefused`: the three ends.
* `Store.Zeroless.get?_undone`: a slot after the undoing.
* `Store.Zeroless.commit_exact`: all of it.
-/

namespace ExprMachine

/-- The first element of a list that does not satisfy `P` is one element, at one place. -/
theorem first_unique {α : Type} {P : α → Prop} {before before' after after' : List α} {w w' : α}
    (h : before ++ w :: after = before' ++ w' :: after') (hbefore : ∀ v ∈ before, P v)
    (hw : ¬ P w) (hbefore' : ∀ v ∈ before', P v) (hw' : ¬ P w') : before = before' ∧ w = w' := by
  rcases List.append_eq_append_iff.mp h with ⟨more, rfl, hrest⟩ | ⟨more, rfl, hrest⟩
  · cases more with
    | nil =>
      rw [List.append_nil]
      exact ⟨rfl, (List.cons.inj hrest).1⟩
    | cons v vs =>
      cases (List.cons.inj hrest).1
      exact absurd (hbefore' w (by simp)) hw
  · cases more with
    | nil =>
      rw [List.append_nil]
      exact ⟨rfl, (List.cons.inj hrest).1.symm⟩
    | cons v vs =>
      cases (List.cons.inj hrest).1
      exact absurd (hbefore w' (by simp)) hw'

namespace Store

variable {s : Store}

/-! ## The three ends -/

section Ends

variable (s) (caller : Word) {writes before after : List (Word × Word)} {w : Word × Word}

/-- The first key that may not be read. -/
theorem commit_readRefused (hsplit : writes = before ++ w :: after)
    (hbefore : ∀ v ∈ before, v.1 ∉ s.refusals.reads) (hw : w.1 ∈ s.refusals.reads) :
    s.commit caller writes = ⟨.error (.readRefused w.1), s, []⟩ := by
  rcases s.commit_cases caller writes with
    ⟨before', w', after', hsplit', hbefore', hw', heq⟩ | ⟨hall, -⟩
  · obtain ⟨-, rfl⟩ := first_unique (hsplit.symm.trans hsplit') hbefore (not_not_intro hw) hbefore'
      (not_not_intro hw')
    exact heq
  · exact absurd hw (hall w (by simp [hsplit]))

/-- No key that may not be read, and no write that is refused. -/
theorem commit_ok (hreads : ∀ v ∈ writes, v.1 ∉ s.refusals.reads)
    (hall : ∀ v ∈ writes, s.refusals.Allows v) :
    s.commit caller writes = ⟨.ok (), s.putAll caller writes, []⟩ := by
  rcases s.commit_cases caller writes with
    ⟨_, w, _, rfl, -, hw, -⟩ | ⟨-, ⟨-, heq⟩ | ⟨_, w, _, rfl, -, hw, -⟩⟩
  · exact absurd hw (hreads w (by simp))
  · exact heq
  · exact absurd (hall w (by simp)) hw

/-- What is written back after the writes `before`: what their keys held, last first, as far as it
is not refused. -/
def undos (before : List (Word × Word)) : List (Word × Word) :=
  (before.map (s.prior caller)).reverse.filter fun v => s.refusals.Allows v

theorem mem_undos {u : Word × Word} :
    u ∈ s.undos caller before ↔
      (∃ v ∈ before, v.1 = u.1) ∧ u.2 = s.peek caller u.1 ∧ s.refusals.Allows u := by
  simp only [undos, List.mem_filter, List.mem_reverse, List.mem_map, decide_eq_true_eq]
  constructor
  · rintro ⟨⟨v, hv, rfl⟩, hallows⟩
    exact ⟨⟨v, hv, rfl⟩, rfl, hallows⟩
  · rintro ⟨⟨v, hv, hkey⟩, hvalue, hallows⟩
    refine ⟨⟨v, hv, Prod.ext hkey ?_⟩, hallows⟩
    rw [hvalue, ← hkey]
    rfl

/-- The first write that is refused, where every key may be read. -/
theorem commit_writeRefused (hreads : ∀ v ∈ writes, v.1 ∉ s.refusals.reads)
    (hsplit : writes = before ++ w :: after) (hbefore : ∀ v ∈ before, s.refusals.Allows v)
    (hw : ¬ s.refusals.Allows w) :
    (s.commit caller writes).outcome = .error (.writeRefused w.1) ∧
    (s.commit caller writes).store =
      (s.putAll caller before).putAll caller (s.undos caller before) := by
  rcases s.commit_cases caller writes with
    ⟨_, w', _, rfl, -, hw', -⟩ | ⟨-, ⟨hall, -⟩ | ⟨before', w', after', hsplit', hbefore', hw', heq⟩⟩
  · exact absurd hw' (hreads w' (by simp))
  · exact absurd (hall w (by simp [hsplit])) hw
  · obtain ⟨rfl, rfl⟩ := first_unique (hsplit.symm.trans hsplit') hbefore hw hbefore' hw'
    rw [heq]
    exact ⟨rfl, rfl⟩

end Ends

/-! ## Slots -/

theorem get?_putAll_of_ne {caller : Word} {writes : List (Word × Word)} {slot : Slot}
    (hne : slot.caller ≠ caller ∨ ∀ v ∈ writes, v.1 ≠ slot.key) :
    (s.putAll caller writes).get? slot = s.get? slot := by
  by_cases hcaller : slot.caller = caller
  · obtain ⟨c, key⟩ := slot
    subst hcaller
    exact get?_putAll_of_key_ne (hne.resolve_left fun h => h rfl)
  · exact get?_putAll_of_caller_ne writes hcaller

/-- A commit writes nothing but its caller's slots for its keys. -/
theorem get?_commit_of_ne {caller : Word} {writes : List (Word × Word)} {slot : Slot}
    (hne : slot.caller ≠ caller ∨ ∀ v ∈ writes, v.1 ≠ slot.key) :
    (s.commit caller writes).store.get? slot = s.get? slot := by
  rcases s.commit_cases caller writes with
    ⟨_, _, _, -, -, -, heq⟩ | ⟨-, ⟨-, heq⟩ | ⟨before, w, after, rfl, -, -, heq⟩⟩
  · rw [heq]
  · rw [heq]
    exact get?_putAll_of_ne hne
  · have hbefore : slot.caller ≠ caller ∨ ∀ v ∈ before, v.1 ≠ slot.key :=
      hne.imp_right fun hkeys v hv => hkeys v (List.mem_append_left _ hv)
    have hundos : slot.caller ≠ caller ∨ ∀ u ∈ s.undos caller before, u.1 ≠ slot.key := by
      refine hbefore.imp_right fun hkeys u hu => ?_
      obtain ⟨⟨v, hv, hkey⟩, -⟩ := (s.mem_undos caller).mp hu
      exact hkey ▸ hkeys v hv
    rw [heq]
    exact (get?_putAll_of_ne hundos).trans (get?_putAll_of_ne hbefore)

/-- **A slot after the undoing.** It is as it was before the writes, unless what it held may not be
written back. -/
theorem Zeroless.get?_undone (h : s.Zeroless) (caller key : Word) {before : List (Word × Word)}
    (hbefore : ∀ v ∈ before, s.refusals.Allows v) :
    ((s.putAll caller before).putAll caller (s.undos caller before)).get? ⟨caller, key⟩ =
      if s.peek caller key ∈ s.refusals.values then (s.putAll caller before).get? ⟨caller, key⟩
      else s.get? ⟨caller, key⟩ := by
  by_cases hvalue : s.peek caller key ∈ s.refusals.values
  · rw [if_pos hvalue]
    refine get?_putAll_of_key_ne fun u hu hkey => ?_
    obtain ⟨-, hprior, hallows⟩ := (s.mem_undos caller).mp hu
    rw [hkey] at hprior
    exact hallows.2 (hprior ▸ hvalue)
  · rw [if_neg hvalue]
    by_cases hmem : ∃ v ∈ before, v.1 = key
    · obtain ⟨v, hv, hkey⟩ := hmem
      -- The key was written, so that the undo is not refused for it.
      have hallows : s.refusals.Allows (key, s.peek caller key) :=
        ⟨hkey ▸ (hbefore v hv).1, hvalue⟩
      have hu : (key, s.peek caller key) ∈ s.undos caller before :=
        (s.mem_undos caller).mpr ⟨⟨v, hv, hkey⟩, rfl, hallows⟩
      rw [get?_putAll_of_agree ⟨_, hu, rfl⟩, h.stored_peek]
      intro u hu hkey
      rw [((s.mem_undos caller).mp hu).2.1, hkey]
    · have hkeys : ∀ v ∈ before, v.1 ≠ key := fun v hv hkey => hmem ⟨v, hv, hkey⟩
      rw [get?_putAll_of_key_ne, get?_putAll_of_key_ne hkeys]
      intro u hu
      obtain ⟨⟨v, hv, hkey⟩, -⟩ := (s.mem_undos caller).mp hu
      exact hkey ▸ hkeys v hv

/-! ## Commits -/

/-- **What becomes of a commit.** If a key may not be read, the first such key is the fault, and the
store is as it was. Otherwise, if no write is refused, the writes are applied in order, and a slot
holds what its key was given last. Otherwise the first write that is refused is the fault; a slot
written before it is as it was, unless what it held may not be written back, and then holds what its
key was given last. Slots of other callers and other keys never change, and after a fault none has
changed if all that the keys held may be written back. -/
theorem Zeroless.commit_exact (h : s.Zeroless) (caller : Word) (writes : List (Word × Word)) :
    (∀ before w after, writes = before ++ w :: after →
      (∀ v ∈ before, v.1 ∉ s.refusals.reads) → w.1 ∈ s.refusals.reads →
      (s.commit caller writes).outcome = .error (.readRefused w.1) ∧
      (s.commit caller writes).store = s) ∧
    ((∀ v ∈ writes, v.1 ∉ s.refusals.reads) →
      ((∀ v ∈ writes, s.refusals.Allows v) →
        (s.commit caller writes).outcome = .ok () ∧
        (s.commit caller writes).store = s.putAll caller writes ∧
        ∀ key value, lastWrite? key writes = some value →
          (s.commit caller writes).store.get? ⟨caller, key⟩ = value.stored) ∧
      ∀ before w after, writes = before ++ w :: after →
        (∀ v ∈ before, s.refusals.Allows v) → ¬ s.refusals.Allows w →
        (s.commit caller writes).outcome = .error (.writeRefused w.1) ∧
        ∀ key, (s.commit caller writes).store.get? ⟨caller, key⟩ =
          match lastWrite? key before with
          | some value =>
            if s.peek caller key ∈ s.refusals.values then value.stored else s.get? ⟨caller, key⟩
          | none => s.get? ⟨caller, key⟩) ∧
    (∀ slot : Slot, (slot.caller ≠ caller ∨ ∀ v ∈ writes, v.1 ≠ slot.key) →
      (s.commit caller writes).store.get? slot = s.get? slot) ∧
    ((∀ v ∈ writes, s.peek caller v.1 ∉ s.refusals.values) →
      ∀ fault, (s.commit caller writes).outcome = .error fault →
        (s.commit caller writes).store = s) := by
  refine ⟨fun before w after hsplit hbefore hw => ?_, fun hreads => ⟨fun hall => ?_,
    fun before w after hsplit hbefore hw => ?_⟩, fun slot => get?_commit_of_ne,
    fun hundo fault hfault => ?_⟩
  · rw [s.commit_readRefused caller hsplit hbefore hw]
    exact ⟨rfl, rfl⟩
  · rw [s.commit_ok caller hreads hall]
    refine ⟨rfl, rfl, fun key value hlast => ?_⟩
    rw [get?_putAll, if_pos rfl, hlast]
    rfl
  · obtain ⟨houtcome, hstore⟩ := s.commit_writeRefused caller hreads hsplit hbefore hw
    refine ⟨houtcome, fun key => ?_⟩
    rw [hstore, h.get?_undone caller key hbefore, get?_putAll, if_pos rfl]
    cases lastWrite? key before with
    | some value => rfl
    | none => exact ite_self _
  · have hend := h.commit_outcome caller hundo
    rw [hfault] at hend
    exact hend

/-- A store that writes neither the key 13 nor the value 5, which it holds under the key 1. -/
def stubborn : Store := (empty ⟨[], [13#256], [5#256]⟩).putAll 7#256 [(1#256, 5#256)]

/-- Writes of which the fourth is refused. -/
def refusedWrites : List (Word × Word) :=
  [(1#256, 10#256), (1#256, 11#256), (2#256, 20#256), (13#256, 30#256), (4#256, 40#256)]

/-- The key 1 keeps what it was given last, for the 5 that it held may not be written back. The key
2 is without an entry again. -/
theorem stubborn_commit_exact :
    (stubborn.commit 7#256 refusedWrites).outcome = .error (.writeRefused 13#256) ∧
    (stubborn.commit 7#256 refusedWrites).store.get? ⟨7#256, 1#256⟩ = some 11#256 ∧
    (stubborn.commit 7#256 refusedWrites).store.get? ⟨7#256, 2#256⟩ = none := by
  have hzeroless : stubborn.Zeroless := (zeroless_empty _).putAll _ _
  have hreads : ∀ v ∈ refusedWrites, v.1 ∉ stubborn.refusals.reads := by simp [stubborn, empty]
  have hbefore : ∀ v ∈ [(1#256, 10#256), (1#256, 11#256), (2#256, 20#256)],
      stubborn.refusals.Allows v := by simp [stubborn, empty, Refusals.Allows]
  obtain ⟨-, hreadable, -⟩ := hzeroless.commit_exact 7#256 refusedWrites
  obtain ⟨houtcome, hslots⟩ := (hreadable hreads).2 _ (13#256, 30#256) [(4#256, 40#256)] rfl hbefore
    (by decide)
  exact ⟨houtcome, (hslots 1#256).trans (by decide), (hslots 2#256).trans (by decide)⟩

end Store

end ExprMachine
