import ExprMachine.Proofs.Text
import ExprMachine.Word.Literal
import Mathlib.Data.List.Forall2
import Mathlib.Data.Nat.Digits.Defs

/-!
# Rows of digits

A row of digits may have underscores anywhere, which count for nothing (`Row`). There are rows of
characters (`Spells`), in which literals are described, and rows of bytes (`Reads`), in which they
are read. A text is the one exactly if its bytes are the other (`reads_encode_iff`).

The two radices are read in opposite directions, and neither reader looks at the whole number before
it is there. Each still refuses exactly the numbers that are too large:

* `readHex_eq_ok_iff`: from the last digit. Sixty-four places hold any word, so a digit beyond makes
  the number too large unless it is 0. What the induction carries is that the value of the digits
  read so far fits their places.
* `readDecimal_eq_ok_iff`: from the first digit. The value is looked at after each group only, but
  it never falls from one digit to the next, so what is too large at one group is so at the end.
-/

namespace ExprMachine

namespace Literal

/-! ## Rows -/

section Row

variable {α : Type} [DecidableEq α]

/-- The items stand for the given digits, one each, with separators anywhere. -/
def Row (separator : α) (stands : α → Nat → Prop) (xs : List α) (ds : List Nat) : Prop :=
  List.Forall₂ stands (xs.filter (· ≠ separator)) ds

variable {separator x : α} {stands : α → Nat → Prop} {xs : List α} {ds : List Nat}

theorem row_nil_iff : Row separator stands [] ds ↔ ds = [] := by
  simp [Row]

theorem row_separator_iff :
    Row separator stands (separator :: xs) ds ↔ Row separator stands xs ds := by
  unfold Row
  rw [List.filter_cons_of_neg (by simp)]

theorem row_cons_iff (hx : x ≠ separator) : Row separator stands (x :: xs) ds ↔
    ∃ d rest, stands x d ∧ Row separator stands xs rest ∧ ds = d :: rest := by
  unfold Row
  rw [List.filter_cons_of_pos (by simp [hx]), List.forall₂_cons_left_iff]

theorem row_reverse_iff :
    Row separator stands xs.reverse ds ↔ Row separator stands xs ds.reverse := by
  unfold Row
  rw [List.filter_reverse, ← List.forall₂_reverse_iff, List.reverse_reverse]

/-- Whatever is in a row is a separator or a digit. -/
theorem Row.mem (h : Row separator stands xs ds) (hx : x ∈ xs) :
    x = separator ∨ ∃ d, stands x d := by
  induction xs generalizing ds with
  | nil => exact absurd hx List.not_mem_nil
  | cons y xs ih =>
    by_cases hy : y = separator
    · subst hy
      rcases List.mem_cons.mp hx with rfl | hx
      · exact .inl rfl
      · exact ih (row_separator_iff.mp h) hx
    · obtain ⟨d, rest, hd, hrest, -⟩ := (row_cons_iff hy).mp h
      rcases List.mem_cons.mp hx with rfl | hx
      · exact .inr ⟨d, hd⟩
      · exact ih hrest hx

end Row

/-- The character stands for the number as one digit: it is printed so, in either case. -/
def IsDigit (radix : Nat) (c : Char) (d : Nat) : Prop :=
  d < radix ∧ (c = d.digitChar ∨ c = d.digitChar.toUpper)

/-- The characters are the given digits, with underscores anywhere. -/
abbrev Spells (radix : Nat) : List Char → List Nat → Prop := Row '_' (IsDigit radix)

/-- The bytes are the given digits, with underscores anywhere. -/
abbrev Reads (radix : Nat) : Bytes → List Nat → Prop :=
  Row underscore fun b d => digit? radix b = some d

variable {radix d : Nat} {b : UInt8} {bs : Bytes} {c : Char} {cs : List Char} {ds : List Nat}

theorem digit?_lt (h : digit? radix b = some d) : d < radix := by
  simp only [digit?, Option.ite_none_right_eq_some, Option.some.injEq] at h
  omega

/-- A byte that is a digit is the first digit of the row. -/
theorem exists_reads_cons (hb : b ≠ underscore) (hd : digit? radix b = some d)
    {P : List Nat → Prop} :
    (∃ ds, Reads radix (b :: bs) ds ∧ P ds) ↔ ∃ rest, Reads radix bs rest ∧ P (d :: rest) := by
  simp only [row_cons_iff hb, hd]
  constructor
  · rintro ⟨_, ⟨_, rest, ⟨⟩, hrest, rfl⟩, hP⟩
    exact ⟨rest, hrest, hP⟩
  · rintro ⟨rest, hrest, hP⟩
    exact ⟨_, ⟨d, rest, rfl, hrest, rfl⟩, hP⟩

/-- A byte that is no digit is in no row. -/
theorem not_reads_cons (hb : b ≠ underscore) (hd : digit? radix b = none) :
    ¬ Reads radix (b :: bs) ds := by
  intro h
  obtain ⟨d, rest, hd', -⟩ := (row_cons_iff hb).mp h
  rw [hd] at hd'
  cases hd'

/-! ## Hexadecimal, from the last digit -/

/-- A digit that is not beyond the last place keeps the value within its places. -/
theorem value_lt_of_digit {place value : Nat} (h : value < 16 ^ min place 64) (hd : d < 16)
    (hsmall : ¬ (64 ≤ place ∧ d ≠ 0)) : value + d * 16 ^ place < 16 ^ min (place + 1) 64 := by
  rcases Nat.lt_or_ge place 64 with hplace | hplace
  · rw [Nat.min_eq_left hplace.le] at h
    rw [Nat.min_eq_left hplace]
    calc value + d * 16 ^ place < 16 ^ place + d * 16 ^ place := Nat.add_lt_add_right h _
      _ = (d + 1) * 16 ^ place := by rw [Nat.add_mul, Nat.one_mul, Nat.add_comm]
      _ ≤ 16 * 16 ^ place := Nat.mul_le_mul_right _ hd
      _ = 16 ^ (place + 1) := by rw [Nat.pow_succ, Nat.mul_comm]
  · have hzero : d = 0 := by omega
    rw [Nat.min_eq_right hplace] at h
    rwa [Nat.min_eq_right (Nat.le_succ_of_le hplace), hzero, Nat.zero_mul, Nat.add_zero]

theorem readHex_eq_ok_iff {place value n : Nat} (h : value < 16 ^ min place 64) :
    readHex place value bs = .ok n ↔
      ∃ ds, Reads 16 bs ds ∧ n = value + 16 ^ place * Nat.ofDigits 16 ds ∧ n < 16 ^ 64 := by
  induction bs generalizing place value with
  | nil =>
    have hlt : value < 16 ^ 64 :=
      Nat.lt_of_lt_of_le h (Nat.pow_le_pow_right (by decide) (Nat.min_le_right _ _))
    simp only [readHex, Except.ok.injEq, row_nil_iff, exists_eq_left, Nat.ofDigits_nil,
      Nat.mul_zero, Nat.add_zero]
    constructor
    · rintro rfl
      exact ⟨rfl, hlt⟩
    · rintro ⟨rfl, -⟩
      rfl
  | cons b bs ih =>
    unfold readHex
    by_cases hb : b = underscore
    · simp only [hb, ↓reduceIte, row_separator_iff]
      exact ih h
    simp only [hb, ↓reduceIte]
    cases hd : digit? 16 b with
    | none => simp [not_reads_cons hb hd]
    | some d =>
      have htotal (ds : List Nat) : value + 16 ^ place * Nat.ofDigits 16 (d :: ds) =
          value + d * 16 ^ place + 16 ^ (place + 1) * Nat.ofDigits 16 ds := by
        rw [Nat.ofDigits_cons]
        ring
      simp only [exists_reads_cons hb hd, htotal]
      split
      · rename_i hlarge
        obtain ⟨hplace, hne⟩ := hlarge
        simp only [reduceCtorEq, false_iff]
        rintro ⟨ds, -, rfl, hlt⟩
        have hplaces : 16 ^ 64 ≤ 16 ^ place := Nat.pow_le_pow_right (by decide) hplace
        have hdigit : 16 ^ place ≤ d * 16 ^ place :=
          Nat.le_mul_of_pos_left _ (Nat.pos_of_ne_zero hne)
        omega
      · rename_i hsmall
        exact ih (value_lt_of_digit h (digit?_lt hd) hsmall)

/-! ## Decimal, from the first digit -/

theorem joinGroup_eq_ok_iff {value group size n : Nat} :
    joinGroup value group size = .ok n ↔ n = value * 10 ^ size + group ∧ n < Word.bound := by
  simp only [joinGroup, Nat.pow_eq]
  split
  · rename_i hlt
    rw [Except.ok.injEq]
    constructor
    · rintro rfl
      exact ⟨rfl, hlt⟩
    · rintro ⟨rfl, -⟩
      rfl
  · rename_i hge
    simp only [reduceCtorEq, false_iff, not_and]
    rintro rfl
    exact hge

theorem le_foldl_digits (ds : List Nat) (n : Nat) : n ≤ ds.foldl (fun n d => n * 10 + d) n := by
  induction ds generalizing n with
  | nil => exact Nat.le_refl n
  | cons d ds ih =>
    have hstep : n ≤ n * 10 + d := by omega
    exact Nat.le_trans hstep (ih _)

theorem foldl_eq_ofDigits (ds : List Nat) :
    ds.foldl (fun n d => n * 10 + d) 0 = Nat.ofDigits 10 ds.reverse := by
  rw [Nat.ofDigits_eq_foldr, List.foldr_reverse]
  congr 1
  funext n d
  rw [Nat.cast_id]
  omega

theorem readDecimal_eq_ok_iff {value group size n : Nat} :
    readDecimal value group size bs = .ok n ↔
      ∃ ds, Reads 10 bs ds ∧ n = ds.foldl (fun n d => n * 10 + d) (value * 10 ^ size + group) ∧
        n < Word.bound := by
  induction bs generalizing value group size with
  | nil =>
    simp only [readDecimal, joinGroup_eq_ok_iff, row_nil_iff, exists_eq_left, List.foldl_nil]
  | cons b bs ih =>
    unfold readDecimal
    by_cases hb : b = underscore
    · simp only [hb, ↓reduceIte, row_separator_iff]
      exact ih
    simp only [hb, ↓reduceIte]
    cases hd : digit? 10 b with
    | none => simp [not_reads_cons hb hd]
    | some d =>
      have hstep : (value * 10 ^ size + group) * 10 + d =
          value * 10 ^ (size + 1) + (group * 10 + d) := by
        ring
      simp only [exists_reads_cons hb hd, List.foldl_cons, hstep]
      split
      · cases hjoin : joinGroup value (group * 10 + d) (size + 1) with
        | ok joined =>
          obtain ⟨rfl, -⟩ := joinGroup_eq_ok_iff.mp hjoin
          have hrest := @ih (value * 10 ^ (size + 1) + (group * 10 + d)) 0 0
          rwa [Nat.pow_zero, Nat.mul_one, Nat.add_zero] at hrest
        | error e =>
          simp only [reduceCtorEq, false_iff]
          rintro ⟨ds, -, rfl, hlt⟩
          have hok := joinGroup_eq_ok_iff.mpr
            ⟨rfl, Nat.lt_of_le_of_lt (le_foldl_digits ds _) hlt⟩
          rw [hok] at hjoin
          cases hjoin
      · exact ih

/-! ## Characters and their bytes -/

theorem digit?_eq_some_iff (hradix : radix ≤ 16) :
    digit? radix b = some d ↔ d < radix ∧ digit? 16 b = some d := by
  simp only [digit?, Option.ite_none_right_eq_some, Option.some.injEq]
  split_ifs <;> omega

/-- The bytes that are digits are the codes of the characters that digits are printed with. -/
theorem digit?_ofNat_iff (hradix : radix ≤ 16) (hc : c.toNat < 128) :
    digit? radix (UInt8.ofNat c.toNat) = some d ↔ IsDigit radix c d := by
  have hall : ∀ n < 128, ∀ d < 16, digit? 16 (UInt8.ofNat n) = some d ↔
      Char.ofNat n = d.digitChar ∨ Char.ofNat n = d.digitChar.toUpper := by
    decide +kernel
  rw [digit?_eq_some_iff hradix, IsDigit]
  refine and_congr_right fun hd => ?_
  rw [hall c.toNat hc d (Nat.lt_of_lt_of_le hd hradix), Char.ofNat_toNat]

theorem digit?_of_not_ascii (h : 128 ≤ b.toNat) : digit? radix b = none := by
  simp only [digit?, ite_eq_right_iff, reduceCtorEq, imp_false, Nat.not_lt]
  split_ifs <;> omega

/-- What holds of the characters that the first sixteen numbers are printed with, in either case,
holds of every digit. -/
theorem IsDigit.elim {P : Char → Prop} (hP : ∀ d < 16, P d.digitChar ∧ P d.digitChar.toUpper)
    (hradix : radix ≤ 16) (h : IsDigit radix c d) : P c := by
  obtain ⟨hlower, hupper⟩ := hP d (Nat.lt_of_lt_of_le h.1 hradix)
  rcases h.2 with rfl | rfl
  · exact hlower
  · exact hupper

theorem IsDigit.ascii (hradix : radix ≤ 16) (h : IsDigit radix c d) : c.toNat < 128 :=
  IsDigit.elim (P := fun c => c.toNat < 128) (by decide) hradix h

/-- A text is a row of digits exactly if its bytes are. By induction on the characters: one that is
not ASCII is no digit, and neither is its first byte. -/
theorem reads_encode_iff (hradix : radix ≤ 16) :
    Reads radix (cs.flatMap String.utf8EncodeChar) ds ↔ Spells radix cs ds := by
  unfold Reads Spells
  induction cs generalizing ds with
  | nil => rw [List.flatMap_nil, row_nil_iff, row_nil_iff]
  | cons c cs ih =>
    rw [List.flatMap_cons]
    by_cases hc : c = '_'
    · subst hc
      rw [row_separator_iff, ← ih]
      exact row_separator_iff
    · rw [row_cons_iff hc]
      rcases Nat.lt_or_ge c.toNat 128 with hascii | hascii
      · have hb : UInt8.ofNat c.toNat ≠ underscore := by
          intro h
          have hcode : c.toNat % 256 = 95 := congrArg UInt8.toNat h
          rw [Nat.mod_eq_of_lt (Nat.lt_trans hascii (by decide))] at hcode
          exact hc (by rw [← Char.ofNat_toNat c, hcode])
        rw [Bytes.encode_ascii hascii, List.singleton_append, row_cons_iff hb]
        simp only [digit?_ofNat_iff hradix hascii, ih]
      · obtain ⟨b, bs, hbytes, hb⟩ := Bytes.encode_not_ascii hascii
        have hne : b ≠ underscore := by
          rintro rfl
          exact absurd hb (by decide)
        rw [hbytes, List.cons_append]
        refine iff_of_false (not_reads_cons hne (digit?_of_not_ascii hb)) ?_
        rintro ⟨d, rest, hd, -⟩
        exact absurd (hd.ascii hradix) (Nat.not_lt.mpr hascii)

end Literal

end ExprMachine
