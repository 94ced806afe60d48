import ExprMachine.Text
import ExprMachine.Text.Quoted
import ExprMachine.Word

/-!
# Word literals

A word is written in decimal, or in hexadecimal after 0x or 0X. Underscores between, before and
after the digits count for nothing, no digits at all stand for zero, and white space around the
literal is dropped.

Digits are bytes of the UTF-8 text. A literal can be wrong in two ways at once, a byte that is no
digit and a value that is no word, and which of them is reported depends on the order of reading:

* hexadecimal is read from the last byte to the first, and the value is too large at the first
  digit other than 0 with 64 digits behind it;
* decimal is read from the first byte to the last, and the value is looked at each time that 19 more
  digits have been read, and at the end.
-/

namespace ExprMachine

namespace Literal

/-- What is wrong with a literal. -/
inductive Fault where
  | badDigit (byte : UInt8)
  | tooLarge
  deriving DecidableEq

/-- The wording of a fault; a byte is shown as the character of that code. -/
def Fault.message : Fault → String
  | .badDigit byte => "invalid digit: " ++ String.singleton (Char.ofNat byte.toNat)
  | .tooLarge => "the value is too large to fit the target type"

/-- The underscore. -/
def underscore : UInt8 := 95

/-- The value of a digit below `radix`; letters of either case follow the ten digits. -/
def digit? (radix : Nat) (b : UInt8) : Option Nat :=
  let n := b.toNat
  let value :=
    if 48 ≤ n ∧ n ≤ 57 then n - 48
    else if 97 ≤ n ∧ n ≤ 122 then n - 87
    else if 65 ≤ n ∧ n ≤ 90 then n - 55
    else radix
  if value < radix then some value else none

/-- Reads hexadecimal digits, last first; `place` digits were read before, of value `value`. -/
def readHex : (place value : Nat) → Bytes → Except Fault Nat
  | _, value, [] => .ok value
  | place, value, b :: bs =>
    if b = underscore then readHex place value bs
    else match digit? 16 b with
      | none => .error (.badDigit b)
      | some d =>
        if 64 ≤ place ∧ d ≠ 0 then .error .tooLarge
        else readHex (place + 1) (value + d * Nat.pow 16 place) bs

/-- The value of a group of `size` digits after the digits of `value`, if it is one of a word. -/
def joinGroup (value group size : Nat) : Except Fault Nat :=
  let joined := value * Nat.pow 10 size + group
  if joined < Word.bound then .ok joined else .error .tooLarge

/-- How many decimal digits are read before the value is looked at. -/
def groupSize : Nat := 19

/-- Reads decimal digits; `value` is that of the groups before, and `group` that of the `size`
digits since. -/
def readDecimal : (value group size : Nat) → Bytes → Except Fault Nat
  | value, group, size, [] => joinGroup value group size
  | value, group, size, b :: bs =>
    if b = underscore then readDecimal value group size bs
    else match digit? 10 b with
      | none => .error (.badDigit b)
      | some d =>
        if size + 1 = groupSize then
          match joinGroup value (group * 10 + d) (size + 1) with
          | .ok value => readDecimal value 0 0 bs
          | .error e => .error e
        else readDecimal value (group * 10 + d) (size + 1) bs

/-- Reads a literal without white space around it. -/
def read (cs : List Char) : Except Fault Word :=
  let number :=
    match cs with
    | '0' :: 'x' :: digits | '0' :: 'X' :: digits =>
      readHex 0 0 (Bytes.ofText (String.ofList digits)).reverse
    | _ => readDecimal 0 0 0 (Bytes.ofText (String.ofList cs))
  match number with
  | .ok n => .ok (BitVec.ofNat 256 n)
  | .error e => .error e

end Literal

/-- Reads a word from a text; an error is a message that quotes the text. -/
def Word.parse (text : String) : Except String Word :=
  let cs := Text.trim text.toList
  match Literal.read cs with
  | .ok w => .ok w
  | .error e => .error ("invalid word " ++ Text.quoted cs ++ ": " ++ e.message)

end ExprMachine
