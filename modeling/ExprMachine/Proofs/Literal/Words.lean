import ExprMachine.Proofs.Literal.Digits

/-!
# Literals of words

`Denotes` is the grammar of literals together with the number that each stands for. Nothing in it is
about bytes, the order of reading or the size of a word.

* `read_eq_ok_iff`: a literal is read as a word exactly if it is one of the word's number.
* `Word.parse_exact`: so is a text, once the white space around it is gone; and what a word is
  printed as is read back, also when it is dressed up (`Dressed`).
-/

namespace ExprMachine

namespace Literal

/-! ## The grammar -/

/-- The characters begin with 0x or 0X. -/
def HexMarked (cs : List Char) : Prop :=
  ∃ x rest, (x = 'x' ∨ x = 'X') ∧ cs = '0' :: x :: rest

/-- The characters are a literal of the number. -/
inductive Denotes : List Char → Nat → Prop where
  | hex {x : Char} {cs : List Char} {ds : List Nat} : x = 'x' ∨ x = 'X' → Spells 16 cs ds →
      Denotes ('0' :: x :: cs) (Nat.ofDigits 16 ds.reverse)
  | decimal {cs : List Char} {ds : List Nat} : ¬ HexMarked cs → Spells 10 cs ds →
      Denotes cs (Nat.ofDigits 10 ds.reverse)

/-! ## Reading literals -/

variable {radix n : Nat} {c : Char} {cs : List Char} {ds : List Nat} {w : Word}

theorem readHex_text_iff : readHex 0 0 (Bytes.ofText (String.ofList cs)).reverse = .ok n ↔
    ∃ ds, Spells 16 cs ds ∧ n = Nat.ofDigits 16 ds.reverse ∧ n < Word.bound := by
  rw [readHex_eq_ok_iff (by decide), Bytes.ofText_ofList]
  simp only [row_reverse_iff, reads_encode_iff (Nat.le_refl 16), Nat.zero_add, Nat.pow_zero,
    Nat.one_mul]
  constructor
  · rintro ⟨ds, hds, hn, hlt⟩
    refine ⟨ds.reverse, hds, ?_, hlt⟩
    rwa [List.reverse_reverse]
  · rintro ⟨ds, hds, hn, hlt⟩
    refine ⟨ds.reverse, ?_, hn, hlt⟩
    rwa [List.reverse_reverse]

theorem readDecimal_text_iff : readDecimal 0 0 0 (Bytes.ofText (String.ofList cs)) = .ok n ↔
    ∃ ds, Spells 10 cs ds ∧ n = Nat.ofDigits 10 ds.reverse ∧ n < Word.bound := by
  rw [readDecimal_eq_ok_iff, Bytes.ofText_ofList]
  simp only [reads_encode_iff (show 10 ≤ 16 by decide), Nat.zero_mul, Nat.zero_add,
    foldl_eq_ofDigits]

/-- A number that is read only if it is one of a word is kept as a word without loss. -/
theorem word_eq_ok_iff {number : Except Fault Nat} (h : ∀ n, number = .ok n ↔
      ∃ ds, Spells radix cs ds ∧ n = Nat.ofDigits radix ds.reverse ∧ n < Word.bound) :
    (match number with
      | .ok n => (.ok (BitVec.ofNat 256 n) : Except Fault Word)
      | .error e => .error e) = .ok w ↔
    ∃ ds, Spells radix cs ds ∧ w.toNat = Nat.ofDigits radix ds.reverse := by
  have hword : number = .ok w.toNat ↔
      ∃ ds, Spells radix cs ds ∧ w.toNat = Nat.ofDigits radix ds.reverse := by
    have hlt : w.toNat < Word.bound := w.isLt
    simp only [h w.toNat, hlt, and_true]
  rw [← hword]
  cases number with
  | error e => simp
  | ok n =>
    obtain ⟨_, -, -, hlt⟩ := (h n).mp rfl
    simp only [Except.ok.injEq]
    constructor
    · rintro rfl
      rw [BitVec.toNat_ofNat]
      exact (Nat.mod_eq_of_lt hlt).symm
    · rintro rfl
      rw [BitVec.ofNat_toNat, BitVec.setWidth_eq]

theorem read_hex_iff {x : Char} (hx : x = 'x' ∨ x = 'X') : read ('0' :: x :: cs) = .ok w ↔
    ∃ ds, Spells 16 cs ds ∧ w.toNat = Nat.ofDigits 16 ds.reverse := by
  rcases hx with rfl | rfl
  · exact word_eq_ok_iff fun _ => readHex_text_iff
  · exact word_eq_ok_iff fun _ => readHex_text_iff

theorem read_decimal_iff (h : ¬ HexMarked cs) : read cs = .ok w ↔
    ∃ ds, Spells 10 cs ds ∧ w.toNat = Nat.ofDigits 10 ds.reverse := by
  unfold read
  split
  · exact absurd ⟨'x', _, .inl rfl, rfl⟩ h
  · exact absurd ⟨'X', _, .inr rfl, rfl⟩ h
  · exact word_eq_ok_iff fun _ => readDecimal_text_iff

/-- **A literal is read exactly if it is one of the word.** -/
theorem read_eq_ok_iff : read cs = .ok w ↔ Denotes cs w.toNat := by
  constructor
  · intro h
    by_cases hmark : HexMarked cs
    · obtain ⟨x, rest, hx, rfl⟩ := hmark
      obtain ⟨ds, hds, hw⟩ := (read_hex_iff hx).mp h
      exact hw ▸ .hex hx hds
    · obtain ⟨ds, hds, hw⟩ := (read_decimal_iff hmark).mp h
      exact hw ▸ .decimal hmark hds
  · generalize hn : w.toNat = n
    rintro (⟨hx, hds⟩ | ⟨hmark, hds⟩)
    · exact (read_hex_iff hx).mpr ⟨_, hds, hn⟩
    · exact (read_decimal_iff hmark).mpr ⟨_, hds, hn⟩

/-! ## What is printed is a literal -/

/-- The digits that a number is printed with are its digits. -/
theorem toDigits_isDigit (hradix : 1 < radix) (n : Nat) :
    ∃ ds, List.Forall₂ (IsDigit radix) (Nat.toDigits radix n) ds ∧
      Nat.ofDigits radix ds.reverse = n := by
  induction n using Nat.strongRecOn with
  | ind n ih =>
    rcases Nat.lt_or_ge n radix with hlt | hge
    · refine ⟨[n], ?_, Nat.ofDigits_singleton⟩
      rw [Nat.toDigits_of_lt_base hlt]
      exact .cons ⟨hlt, .inl rfl⟩ .nil
    · obtain ⟨ds, hds, hn⟩ := ih (n / radix) (Nat.div_lt_self (by omega) hradix)
      have hlast : IsDigit radix (n % radix).digitChar (n % radix) :=
        ⟨Nat.mod_lt n (by omega), .inl rfl⟩
      refine ⟨ds ++ [n % radix], ?_, ?_⟩
      · rw [Nat.toDigits_of_base_le hradix hge]
        exact List.rel_append hds (.cons hlast .nil)
      · rw [List.reverse_append, List.reverse_singleton, List.singleton_append, Nat.ofDigits_cons,
          hn]
        exact Nat.mod_add_div n radix

/-- The characters are the given ones with zeros before them and underscores anywhere. -/
def Dressed (digits cs : List Char) : Prop :=
  ∃ zeros, cs.filter (· ≠ '_') = List.replicate zeros '0' ++ digits

theorem Dressed.spells (hradix : 1 < radix) (h : Dressed (Nat.toDigits radix n) cs) :
    ∃ ds, Spells radix cs ds ∧ Nat.ofDigits radix ds.reverse = n := by
  obtain ⟨zeros, hcs⟩ := h
  unfold Spells Row
  rw [hcs]
  clear hcs
  induction zeros with
  | zero => exact toDigits_isDigit hradix n
  | succ zeros ih =>
    obtain ⟨ds, hds, hn⟩ := ih
    refine ⟨0 :: ds, .cons ⟨by omega, .inl rfl⟩ hds, ?_⟩
    rw [Nat.ofDigits_reverse_zero_cons, hn]

/-- No digit is an underscore. -/
theorem filter_of_digits (hradix : radix ≤ 16) (h : List.Forall₂ (IsDigit radix) cs ds) :
    cs.filter (· ≠ '_') = cs := by
  induction h with
  | nil => rfl
  | cons hd _ ih =>
    have hne := IsDigit.elim (P := (· ≠ '_')) (by decide) hradix hd
    rw [List.filter_cons_of_pos (by simp [hne]), ih]

theorem dressed_toDigits (hradix : 1 < radix) (hle : radix ≤ 16) (n : Nat) :
    Dressed (Nat.toDigits radix n) (Nat.toDigits radix n) := by
  obtain ⟨ds, hds, -⟩ := toDigits_isDigit hradix n
  exact ⟨0, filter_of_digits hle hds⟩

theorem Spells.not_blank (hradix : radix ≤ 16) (h : Spells radix cs ds) (hc : c ∈ cs) :
    Text.isBlank c = false := by
  rcases Row.mem h hc with rfl | ⟨d, hd⟩
  · rfl
  · exact IsDigit.elim (P := fun c => Text.isBlank c = false) (by decide) hradix hd

/-- The letter of the mark is no digit. -/
theorem Spells.not_hexMarked (h : Spells 10 cs ds) : ¬ HexMarked cs := by
  rintro ⟨x, rest, hx, rfl⟩
  rcases Row.mem h (List.mem_cons_of_mem '0' List.mem_cons_self) with rfl | ⟨d, hd⟩
  · exact absurd hx (by decide)
  · obtain ⟨hlower, hupper⟩ :=
      IsDigit.elim (P := fun c => c ≠ 'x' ∧ c ≠ 'X') (by decide) (by decide) hd
    exact hx.elim hlower hupper

end Literal

namespace Word

open Literal

variable {w : Word} {before cs after : List Char}

theorem parse_eq_ok_iff {text : String} :
    parse text = .ok w ↔ Denotes (Text.trim text.toList) w.toNat := by
  rw [← read_eq_ok_iff]
  simp only [parse]
  cases Literal.read (Text.trim text.toList) <;> simp

/-- A literal with white space around it is read like the literal. -/
theorem parse_of_margins (hbefore : ∀ c ∈ before, Text.isBlank c = true)
    (hafter : ∀ c ∈ after, Text.isBlank c = true) (hcs : ∀ c ∈ cs, Text.isBlank c = false)
    (h : Denotes cs w.toNat) : parse (String.ofList (before ++ cs ++ after)) = .ok w := by
  rw [parse_eq_ok_iff, String.toList_ofList, Text.trim_margins hbefore hcs hafter]
  exact h

theorem parse_dressed_hex (hbefore : ∀ c ∈ before, Text.isBlank c = true)
    (hafter : ∀ c ∈ after, Text.isBlank c = true) (h : Dressed (Nat.toDigits 16 w.toNat) cs) :
    parse (String.ofList (before ++ '0' :: 'x' :: cs ++ after)) = .ok w := by
  obtain ⟨ds, hds, hn⟩ := h.spells (by decide)
  have hliteral : Denotes ('0' :: 'x' :: cs) w.toNat := hn ▸ .hex (.inl rfl) hds
  refine parse_of_margins hbefore hafter (fun c hc => ?_) hliteral
  simp only [List.mem_cons] at hc
  rcases hc with rfl | rfl | hc
  · rfl
  · rfl
  · exact hds.not_blank (Nat.le_refl 16) hc

theorem parse_dressed_decimal (hbefore : ∀ c ∈ before, Text.isBlank c = true)
    (hafter : ∀ c ∈ after, Text.isBlank c = true) (h : Dressed (Nat.toDigits 10 w.toNat) cs) :
    parse (String.ofList (before ++ cs ++ after)) = .ok w := by
  obtain ⟨ds, hds, hn⟩ := h.spells (by decide)
  have hliteral : Denotes cs w.toNat := hn ▸ .decimal hds.not_hexMarked hds
  exact parse_of_margins hbefore hafter (fun c hc => hds.not_blank (by decide) hc) hliteral

theorem toHex_eq (w : Word) : w.toHex = String.ofList ('0' :: 'x' :: Nat.toDigits 16 w.toNat) := by
  unfold toHex
  rw [show "0x" = String.ofList ['0', 'x'] from rfl, ← String.ofList_append]
  rfl

/-- **Literals of words.** A text is read as a word exactly if, without the white space around it,
it is a literal of a number below 2 to the power of 256, which the word then is. In particular, what
a word is printed as is read back, in hexadecimal and in decimal, also with white space around it,
zeros before its digits and underscores between them. -/
theorem parse_exact (text : String) (w : Word) :
    (parse text = .ok w ↔
      ∃ n < 2 ^ 256, Denotes (Text.trim text.toList) n ∧ w.toNat = n) ∧
    (parse w.toHex = .ok w ∧ parse w.toDecimal = .ok w) ∧
    ∀ digits cs before after : List Char, Dressed digits cs →
      (∀ c ∈ before, Text.isBlank c = true) → (∀ c ∈ after, Text.isBlank c = true) →
      (w.toHex = String.ofList ('0' :: 'x' :: digits) →
        parse (String.ofList (before ++ '0' :: 'x' :: cs ++ after)) = .ok w) ∧
      (w.toDecimal = String.ofList digits →
        parse (String.ofList (before ++ cs ++ after)) = .ok w) := by
  have hnone : ∀ c ∈ ([] : List Char), Text.isBlank c = true :=
    fun c hc => absurd hc List.not_mem_nil
  refine ⟨?_, ⟨?_, ?_⟩, fun digits cs before after hcs hbefore hafter => ⟨fun hhex => ?_,
    fun hdecimal => ?_⟩⟩
  · rw [parse_eq_ok_iff]
    constructor
    · exact fun h => ⟨w.toNat, w.isLt, h, rfl⟩
    · rintro ⟨_, -, h, rfl⟩
      exact h
  · have hplain := parse_dressed_hex hnone hnone (dressed_toDigits (by decide) (by decide) w.toNat)
    rw [List.nil_append, List.append_nil] at hplain
    rw [toHex_eq]
    exact hplain
  · have hplain := parse_dressed_decimal hnone hnone
      (dressed_toDigits (by decide) (by decide) w.toNat)
    rw [List.nil_append, List.append_nil] at hplain
    exact hplain
  · rw [toHex_eq, String.ofList_inj] at hhex
    cases hhex
    exact parse_dressed_hex hbefore hafter hcs
  · rw [toDecimal, String.ofList_inj] at hdecimal
    cases hdecimal
    exact parse_dressed_decimal hbefore hafter hcs

/-- Zeros, an underscore and white space of several kinds around the two ways that 42 is printed. -/
theorem parse_dressed_forty_two :
    parse "\u3000 0x00_2a\n" = .ok 42#256 ∧ parse "\t_042_\u00a0" = .ok 42#256 := by
  have hdressed := (parse_exact "" 42#256).2.2
  constructor
  · exact (hdressed ['2', 'a'] ['0', '0', '_', '2', 'a'] ['\u3000', ' '] ['\n'] ⟨2, rfl⟩
      (by simp [Text.isBlank]) (by simp [Text.isBlank])).1 rfl
  · exact (hdressed ['4', '2'] ['_', '0', '4', '2', '_'] ['\t'] ['\u00a0'] ⟨1, rfl⟩
      (by simp [Text.isBlank]) (by simp [Text.isBlank])).2 rfl

end Word

end ExprMachine
