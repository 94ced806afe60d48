/-!
# Texts

What is used of texts, as lists of their characters.

* `Text.inRanges`: a class of characters as the ranges of their code points, each by its first and
  last, in increasing order.
* `Text.isBlank`, `Text.trim`: the characters with the Unicode property White_Space, and a text
  without those at its ends.
* `Text.hexDigit?`, `Text.charOf?`: hexadecimal digits, and the character whose code they are.
* `Text.slice`: a text cut at places that are counted in bytes of its UTF-8 form. It can be cut only
  between two characters: a place inside of a character, or behind the end, is no place to cut.
-/

namespace ExprMachine

namespace Text

/-! ## Classes of characters -/

/-- Whether a code point lies in one of the ranges, which are in increasing order. -/
def inRanges (n : Nat) : List (Nat × Nat) → Bool
  | [] => false
  | (first, last) :: rest => if n < first then false else n ≤ last || inRanges n rest

/-- Whether a character is white space. -/
def isBlank (c : Char) : Bool :=
  let n := c.toNat
  (9 ≤ n && n ≤ 13) || n == 0x20 || n == 0x85 || n == 0xa0 || n == 0x1680
    || (0x2000 ≤ n && n ≤ 0x200a) || n == 0x2028 || n == 0x2029 || n == 0x202f || n == 0x205f
    || n == 0x3000

/-- The characters between the white space at both ends. -/
def trim (cs : List Char) : List Char :=
  ((cs.dropWhile isBlank).reverse.dropWhile isBlank).reverse

/-! ## Hexadecimal digits -/

/-- The value of a hexadecimal digit, of either case. -/
def hexDigit? (c : Char) : Option Nat :=
  let n := c.toNat
  if 48 ≤ n ∧ n ≤ 57 then some (n - 48)
  else if 97 ≤ n ∧ n ≤ 102 then some (n - 87)
  else if 65 ≤ n ∧ n ≤ 70 then some (n - 55)
  else none

/-- The character whose code the hexadecimal digits are. -/
def charOf? (digits : List Char) : Option Char := do
  let n ← digits.foldlM (fun n d => do return n * 16 + (← hexDigit? d)) 0
  if n < 0xd800 || (0xe000 ≤ n && n < 0x110000) then some (Char.ofNat n) else none

/-! ## Places in a text -/

/-- The characters from a place on. -/
def dropBytes : List Char → (place : Nat) → Option (List Char)
  | cs, 0 => some cs
  | [], _ + 1 => none
  | c :: cs, n + 1 => if c.utf8Size ≤ n + 1 then dropBytes cs (n + 1 - c.utf8Size) else none

/-- The characters up to a place. -/
def takeBytes : List Char → (place : Nat) → Option (List Char)
  | _, 0 => some []
  | [], _ + 1 => none
  | c :: cs, n + 1 =>
    if c.utf8Size ≤ n + 1 then (c :: ·) <$> takeBytes cs (n + 1 - c.utf8Size) else none

/-- The characters between two places. -/
def slice (cs : List Char) (first last : Nat) : Option (List Char) := do
  takeBytes (← dropBytes cs first) (last - first)

end Text

end ExprMachine
