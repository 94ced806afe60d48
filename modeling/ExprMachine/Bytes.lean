/-!
# Byte strings

Numbers written as big-endian byte strings of a fixed width, and read back.

* `Bytes.ofNat width n`: the last `width` base-256 digits of `n`, most significant first.
* `Bytes.toNat bs`: the number whose base-256 digits are `bs`.

`toNat_ofNat` and `ofNat_toNat` say that each undoes the other, on numbers that fit the width and on
strings of that width.
-/

namespace ExprMachine

/-- A byte string. -/
abbrev Bytes := List UInt8

namespace Bytes

/-- The last `width` base-256 digits of `n`, most significant first. -/
def ofNat : (width n : Nat) → Bytes
  | 0, _ => []
  | width + 1, n => ofNat width (n / 256) ++ [UInt8.ofNat n]

/-- The number whose base-256 digits are `bs`, most significant first. -/
def toNat (bs : Bytes) : Nat :=
  bs.foldl (fun acc b => acc * 256 + b.toNat) 0

/-- The UTF-8 bytes of a text. -/
def ofText (text : String) : Bytes :=
  text.toUTF8.toList

/-- The text whose UTF-8 bytes are `bs`; none if they are not well-formed UTF-8. -/
def toText? (bs : Bytes) : Option String :=
  String.fromUTF8? ⟨bs.toArray⟩

@[simp] theorem length_ofNat (width n : Nat) : (ofNat width n).length = width := by
  induction width generalizing n with
  | zero => rfl
  | succ width ih => simp [ofNat, ih]

@[simp] theorem toNat_concat (bs : Bytes) (b : UInt8) :
    toNat (bs ++ [b]) = toNat bs * 256 + b.toNat := by
  simp [toNat]

theorem toNat_ofNat (width n : Nat) : toNat (ofNat width n) = n % Nat.pow 256 width := by
  induction width generalizing n with
  | zero => simp [ofNat, toNat, Nat.mod_one]
  | succ width ih =>
    have hmul : Nat.pow 256 (width + 1) = 256 * Nat.pow 256 width := Nat.mul_comm _ _
    rw [ofNat, toNat_concat, ih, hmul, Nat.mod_mul]
    simp
    omega

theorem ofNat_toNat (bs : Bytes) : ofNat bs.length (toNat bs) = bs := by
  induction h : bs.length generalizing bs with
  | zero => simp_all [ofNat]
  | succ n ih =>
    have hne : bs ≠ [] := by intro h0; simp [h0] at h
    obtain ⟨init, last, rfl⟩ : ∃ init last, bs = init ++ [last] :=
      ⟨bs.dropLast, bs.getLast hne, (List.dropLast_concat_getLast hne).symm⟩
    have hlen : init.length = n := by simpa using h
    have hlt := last.toNat_lt
    rw [ofNat, toNat_concat, show (toNat init * 256 + last.toNat) / 256 = toNat init by omega,
      ih init hlen]
    congr 1
    simp only [List.cons.injEq, and_true]
    apply UInt8.toNat_inj.mp
    simp

end Bytes

end ExprMachine
