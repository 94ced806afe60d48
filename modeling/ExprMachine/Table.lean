/-!
# Sorted tables

A finite table from keys to values, held as its entries in the order of the keys: two tables with
the same entries are equal, and reading the entries out is reading them in key order. Keys are put
in order by a number (`Ranked.rank`) that no two of them share.
-/

namespace ExprMachine

/-- Keys in a line: each has a number, and no two have the same. -/
class Ranked (κ : Type) where
  rank : κ → Nat
  rank_inj : ∀ {a b : κ}, rank a = rank b → a = b

/-- Entries in strictly increasing order of their keys. -/
structure Table (κ ν : Type) [Ranked κ] where
  entries : List (κ × ν)
  sorted : entries.Pairwise fun a b => Ranked.rank a.1 < Ranked.rank b.1

namespace Table

variable {κ ν : Type} [Ranked κ]

/-- The value of a key among entries. -/
def lookup (key : κ) : List (κ × ν) → Option ν
  | [] => none
  | e :: es => if Ranked.rank key = Ranked.rank e.1 then some e.2 else lookup key es

/-- Puts an entry in its place, over an entry with the same key. -/
def insertInto (key : κ) (value : ν) : List (κ × ν) → List (κ × ν)
  | [] => [(key, value)]
  | e :: es =>
    if Ranked.rank key < Ranked.rank e.1 then (key, value) :: e :: es
    else if Ranked.rank e.1 < Ranked.rank key then e :: insertInto key value es
    else (key, value) :: es

/-- Entries without those of a key. -/
def removeFrom (key : κ) (es : List (κ × ν)) : List (κ × ν) :=
  es.filter fun e => Ranked.rank e.1 ≠ Ranked.rank key

theorem rank_of_mem_insertInto {key : κ} {value : ν} {es : List (κ × ν)} {e : κ × ν}
    (h : e ∈ insertInto key value es) : e = (key, value) ∨ e ∈ es := by
  induction es with
  | nil => simpa [insertInto] using h
  | cons d ds ih =>
    unfold insertInto at h
    split at h
    · simpa using h
    · split at h
      · rcases List.mem_cons.mp h with h | h
        · exact .inr (by simp [h])
        · rcases ih h with h | h
          · exact .inl h
          · exact .inr (List.mem_cons_of_mem _ h)
      · rcases List.mem_cons.mp h with h | h
        · exact .inl h
        · exact .inr (List.mem_cons_of_mem _ h)

theorem sorted_insertInto (key : κ) (value : ν) {es : List (κ × ν)}
    (h : es.Pairwise fun a b => Ranked.rank a.1 < Ranked.rank b.1) :
    (insertInto key value es).Pairwise fun a b => Ranked.rank a.1 < Ranked.rank b.1 := by
  induction es with
  | nil => simp [insertInto]
  | cons d ds ih =>
    obtain ⟨hd, hds⟩ := List.pairwise_cons.mp h
    unfold insertInto
    split
    · rename_i hlt
      refine List.pairwise_cons.mpr ⟨fun e he => ?_, h⟩
      rcases List.mem_cons.mp he with rfl | he
      · exact hlt
      · exact Nat.lt_trans hlt (hd e he)
    · split
      · rename_i hlt
        refine List.pairwise_cons.mpr ⟨fun e he => ?_, ih hds⟩
        rcases rank_of_mem_insertInto he with rfl | he
        · exact hlt
        · exact hd e he
      · refine List.pairwise_cons.mpr ⟨fun e he => ?_, hds⟩
        have := hd e he
        simp only
        omega

/-- The table without entries. -/
def empty : Table κ ν := ⟨[], List.Pairwise.nil⟩

/-- The value of a key. -/
def get? (t : Table κ ν) (key : κ) : Option ν := lookup key t.entries

/-- The table with a key's value replaced or added. -/
def insert (t : Table κ ν) (key : κ) (value : ν) : Table κ ν :=
  ⟨insertInto key value t.entries, sorted_insertInto key value t.sorted⟩

/-- The table without a key. -/
def erase (t : Table κ ν) (key : κ) : Table κ ν :=
  ⟨removeFrom key t.entries, t.sorted.filter _⟩

/-- The number of entries. -/
def size (t : Table κ ν) : Nat := t.entries.length

end Table

end ExprMachine
