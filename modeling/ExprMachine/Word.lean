import ExprMachine.Bytes

/-!
# Words

Every value on a stack, in a constant table, in a context grid and in a store is a 256-bit unsigned
word. A truth value is consumed as zero or non-zero and produced as 0 or 1. A caller is named by 32
bytes, which are the big-endian bytes of a word; the library keeps the word.
-/

namespace ExprMachine

/-- A 256-bit unsigned word. -/
abbrev Word := BitVec 256

namespace Word

/-- One more than the greatest word: 2 to the power of 256. -/
def bound : Nat := 0x10000000000000000000000000000000000000000000000000000000000000000

/-- The greatest word. -/
def greatest : Word := BitVec.allOnes 256

/-- The word of a truth value: 1 or 0. -/
def ofBool (b : Bool) : Word := if b then 1#256 else 0#256

/-- A word counts as false when it is zero. -/
def isZero (w : Word) : Bool := w.toNat == 0

theorem isZero_iff {w : Word} : w.isZero = true ↔ w = 0#256 := by
  unfold isZero
  rw [beq_iff_eq]
  exact ⟨fun h => BitVec.eq_of_toNat_eq h, fun h => h ▸ rfl⟩

/-- The 32 big-endian bytes of a word. -/
def toBytes (w : Word) : Bytes := Bytes.ofNat 32 w.toNat

/-- The word with the given big-endian bytes. -/
def ofBytes (bs : Bytes) : Word := BitVec.ofNat 256 (Bytes.toNat bs)

/-- Lower-case hexadecimal after 0x, without leading zeros; zero is 0x0. -/
def toHex (w : Word) : String := "0x" ++ String.ofList (Nat.toDigits 16 w.toNat)

/-- Decimal digits without leading zeros. -/
def toDecimal (w : Word) : String := String.ofList (Nat.toDigits 10 w.toNat)

end Word

/-- Hexadecimal after 0x, filled up with zeros to four digits. -/
def hex16 (n : UInt16) : String :=
  let digits := Nat.toDigits 16 n.toNat
  "0x" ++ String.ofList (List.replicate (4 - digits.length) '0' ++ digits)

end ExprMachine
