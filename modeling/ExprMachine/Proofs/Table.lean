import ExprMachine.Table

/-!
# Looking things up

A table is what its keys look up (`Table.ext_get?`), and inserting and erasing a key change what
that key looks up and nothing else (`Table.get?_insert`, `Table.get?_erase`). Nothing outside this
module looks at the entries of a table that was changed.
-/

namespace ExprMachine

namespace Table

variable {κ ν : Type} [Ranked κ]

theorem rank_eq_iff {a b : κ} : Ranked.rank a = Ranked.rank b ↔ a = b :=
  ⟨Ranked.rank_inj, congrArg Ranked.rank⟩

section Lookup

variable [DecidableEq κ]

theorem lookup_cons (key : κ) (e : κ × ν) (es : List (κ × ν)) :
    lookup key (e :: es) = if key = e.1 then some e.2 else lookup key es := by
  simp only [lookup, rank_eq_iff]

theorem lookup_insertInto (key : κ) (value : ν) (es : List (κ × ν)) (k : κ) :
    lookup k (insertInto key value es) = if k = key then some value else lookup k es := by
  induction es with
  | nil => rw [insertInto, lookup_cons]
  | cons e es ih =>
    unfold insertInto
    split
    · rw [lookup_cons]
    · rename_i hge
      split
      · rename_i hlt
        have hne : key ≠ e.1 := fun heq => absurd (congrArg Ranked.rank heq) (by omega)
        rw [lookup_cons, ih, lookup_cons]
        by_cases hk : k = key
        · rw [if_neg (hk ▸ hne), if_pos hk, if_pos hk]
        · rw [if_neg hk, if_neg hk]
      · have heq : key = e.1 := Ranked.rank_inj (by omega)
        rw [lookup_cons, lookup_cons, ← heq]
        by_cases hk : k = key
        · simp only [hk, ↓reduceIte]
        · simp only [hk, ↓reduceIte]

theorem removeFrom_cons (key : κ) (e : κ × ν) (es : List (κ × ν)) :
    removeFrom key (e :: es) =
      if e.1 = key then removeFrom key es else e :: removeFrom key es := by
  unfold removeFrom
  by_cases he : e.1 = key
  · simp [he]
  · have hne : Ranked.rank e.1 ≠ Ranked.rank key := fun heq => he (Ranked.rank_inj heq)
    simp [he, hne]

theorem lookup_removeFrom (key : κ) (es : List (κ × ν)) (k : κ) :
    lookup k (removeFrom key es) = if k = key then none else lookup k es := by
  induction es with
  | nil => simp [removeFrom, lookup]
  | cons e es ih =>
    rw [removeFrom_cons, lookup_cons]
    by_cases hk : k = key
    · by_cases he : e.1 = key
      · rw [if_pos he, ih, if_pos hk, if_pos hk]
      · have hne : k ≠ e.1 := fun heq => he (heq.symm.trans hk)
        rw [if_neg he, lookup_cons, if_neg hne, ih, if_pos hk, if_pos hk]
    · by_cases he : e.1 = key
      · have hne : k ≠ e.1 := fun heq => hk (heq.trans he)
        rw [if_pos he, ih, if_neg hk, if_neg hk, if_neg hne]
      · rw [if_neg he, lookup_cons, ih, if_neg hk, if_neg hk]

/-- A key with an entry looks it up, since no other entry has the key. -/
theorem mem_iff_lookup {es : List (κ × ν)}
    (hs : es.Pairwise fun a b => Ranked.rank a.1 < Ranked.rank b.1) (e : κ × ν) :
    e ∈ es ↔ lookup e.1 es = some e.2 := by
  induction es with
  | nil => simp [lookup]
  | cons d ds ih =>
    obtain ⟨hd, hds⟩ := List.pairwise_cons.mp hs
    rw [List.mem_cons, lookup_cons, ih hds]
    by_cases heq : e.1 = d.1
    · rw [if_pos heq]
      constructor
      · rintro (rfl | hmem)
        · rfl
        · have := hd e ((ih hds).mpr hmem)
          rw [heq] at this
          omega
      · intro hval
        exact .inl (Prod.ext heq (Option.some.inj hval).symm)
    · rw [if_neg heq]
      constructor
      · rintro (rfl | hmem)
        · exact absurd rfl heq
        · exact hmem
      · exact .inr

end Lookup

/-! ## Tables -/

@[simp] theorem get?_empty (k : κ) : (empty : Table κ ν).get? k = none := rfl

theorem nodup_entries (t : Table κ ν) : t.entries.Nodup :=
  t.sorted.imp fun hlt heq => by
    rw [heq] at hlt
    omega

variable [DecidableEq κ]

theorem get?_insert (t : Table κ ν) (key : κ) (value : ν) (k : κ) :
    (t.insert key value).get? k = if k = key then some value else t.get? k :=
  lookup_insertInto key value t.entries k

theorem get?_erase (t : Table κ ν) (key k : κ) :
    (t.erase key).get? k = if k = key then none else t.get? k :=
  lookup_removeFrom key t.entries k

/-- **A table is what it looks up.** The entries are the same, and there is one order for them. -/
theorem ext_get? {t u : Table κ ν} (h : ∀ k, t.get? k = u.get? k) : t = u := by
  obtain ⟨es, hes⟩ := t
  obtain ⟨fs, hfs⟩ := u
  have hmem : ∀ e, e ∈ es ↔ e ∈ fs := by
    intro e
    rw [mem_iff_lookup hes, mem_iff_lookup hfs, show lookup e.1 es = lookup e.1 fs from h e.1]
  have hperm : es.Perm fs :=
    (List.perm_ext_iff_of_nodup (nodup_entries ⟨es, hes⟩) (nodup_entries ⟨fs, hfs⟩)).mpr hmem
  have heq : es = fs := by
    refine List.Perm.eq_of_pairwise (fun a b _ _ hab hba => ?_) hes hfs hperm
    omega
  subst heq
  rfl

end Table

end ExprMachine
