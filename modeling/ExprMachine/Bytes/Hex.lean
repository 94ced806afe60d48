import ExprMachine.Bytes

/-!
# Hexadecimal byte strings

Two digits a byte. `Hex.encode` writes lower case; `Hex.decode` reads either case and says what is
wrong with a text that holds no bytes: first that its length is odd, then its first character that
is no digit. Both the length and the position count bytes of the text, and a byte that is no digit
is shown as the character of that code.
-/

namespace ExprMachine

namespace Hex

/-- The lower-case digit of a number below 16. -/
def digitChar (n : Nat) : Char :=
  if n < 10 then Char.ofNat (48 + n) else Char.ofNat (87 + n)

/-- The two digits of a byte. -/
def byteChars (b : UInt8) : List Char :=
  [digitChar (b.toNat / 16), digitChar (b.toNat % 16)]

/-- Two lower-case digits a byte. -/
def encode (bs : Bytes) : String :=
  String.ofList (bs.flatMap byteChars)

/-- The value of a digit, of either case. -/
def digit? (b : UInt8) : Option Nat :=
  let n := b.toNat
  if 48 ≤ n ∧ n ≤ 57 then some (n - 48)
  else if 97 ≤ n ∧ n ≤ 102 then some (n - 87)
  else if 65 ≤ n ∧ n ≤ 70 then some (n - 55)
  else none

/-- Why a text holds no bytes. -/
inductive Fault where
  /-- An odd number of digits. -/
  | oddLength
  /-- A byte that is no digit, and where it stands. -/
  | badDigit (byte : UInt8) (position : Nat)
  deriving DecidableEq

/-- The value of the digit at `position`. -/
def digitAt (b : UInt8) (position : Nat) : Except Fault Nat :=
  match digit? b with
  | some d => .ok d
  | none => .error (.badDigit b position)

/-- The bytes of a string of digits whose first stands at `position`. -/
def pairs : (position : Nat) → Bytes → Except Fault Bytes
  | _, [] => .ok []
  | _, [_] => .error .oddLength
  | position, a :: b :: rest => do
    let high ← digitAt a position
    let low ← digitAt b (position + 1)
    let bytes ← pairs (position + 2) rest
    return UInt8.ofNat (high * 16 + low) :: bytes

/-- The bytes that a text of hexadecimal digits stands for. -/
def decode (text : String) : Except Fault Bytes :=
  let digits := Bytes.ofText text
  if digits.length % 2 = 1 then .error .oddLength else pairs 0 digits

end Hex

end ExprMachine
