import ExprMachine.Json
import ExprMachine.Text

/-!
# Reading JSON

A strict reader: no comments, no commas too many, no control characters inside of string literals,
and nothing but blanks after the value. Each function takes a text's characters and gives what it
read and the characters that follow.

A reader of values takes a number that is at least that of the characters; each value, element and
member takes at least one, so it is never used up.
-/

namespace ExprMachine

namespace Json

open Text (hexDigit?)

/-- Whether a character may stand between tokens. -/
def isBlank (c : Char) : Bool := c == ' ' || c == '\n' || c == '\t' || c == '\r'

/-- The characters from the first that is no blank. -/
def skip (cs : List Char) : List Char := cs.dropWhile isBlank

/-! ## String literals -/

/-- A part of a string literal: a character, or a 16-bit unit given by its code. -/
inductive Piece where
  | char (c : Char)
  | unit (code : Nat)

/-- The character of an escape of one letter. -/
def escaped? (c : Char) : Option Char :=
  match c with
  | '"' => some '"'
  | '\\' => some '\\'
  | '/' => some '/'
  | 'b' => some (Char.ofNat 8)
  | 'f' => some (Char.ofNat 12)
  | 'n' => some '\n'
  | 'r' => some '\r'
  | 't' => some '\t'
  | _ => none

/-- The parts of a string literal, from the first character after its opening quote. -/
def pieces : List Char → Option (List Piece × List Char)
  | [] => none
  | '"' :: cs => some ([], cs)
  | '\\' :: 'u' :: a :: b :: c :: d :: cs => do
    let code := (((← hexDigit? a) * 16 + (← hexDigit? b)) * 16 + (← hexDigit? c)) * 16
      + (← hexDigit? d)
    let (ps, rest) ← pieces cs
    return (.unit code :: ps, rest)
  | '\\' :: e :: cs => do
    let c ← escaped? e
    let (ps, rest) ← pieces cs
    return (.char c :: ps, rest)
  | c :: cs => do
    if c.toNat < 32 || c == '\\' then none
    else
      let (ps, rest) ← pieces cs
      return (.char c :: ps, rest)

/-- Whether a unit is the first half of a pair. -/
def isHigh (code : Nat) : Bool := 0xd800 ≤ code && code ≤ 0xdbff

/-- Whether a unit is the second half of a pair. -/
def isLow (code : Nat) : Bool := 0xdc00 ≤ code && code ≤ 0xdfff

/-- The characters of a literal's parts; none if half of a pair stands alone. -/
def assemble : List Piece → Option (List Char)
  | [] => some []
  | .char c :: ps => (c :: ·) <$> assemble ps
  | .unit high :: .unit low :: ps =>
    if isHigh high && isLow low then
      (Char.ofNat (0x10000 + (high - 0xd800) * 1024 + (low - 0xdc00)) :: ·) <$> assemble ps
    else if isHigh high || isLow high then none
    else (Char.ofNat high :: ·) <$> assemble (.unit low :: ps)
  | .unit code :: ps =>
    if isHigh code || isLow code then none else (Char.ofNat code :: ·) <$> assemble ps

/-- A string literal, from the first character after its opening quote. -/
def stringLiteral (cs : List Char) : Option (Option String × List Char) := do
  let (ps, rest) ← pieces cs
  return ((assemble ps).map String.ofList, rest)

/-! ## Numbers -/

/-- One or more decimal digits. -/
def digits (cs : List Char) : Option (List Char × List Char) :=
  match cs.takeWhile Char.isDigit with
  | [] => none
  | ds => some (ds, cs.dropWhile Char.isDigit)

/-- Digits without a leading zero, unless zero is the only one. -/
def integerPart (cs : List Char) : Option (List Char × List Char) := do
  let (ds, rest) ← digits cs
  match ds with
  | '0' :: _ :: _ => none
  | _ => return (ds, rest)

/-- A fraction, if there is one. -/
def fractionPart : List Char → Option (List Char × List Char)
  | '.' :: cs => do
    let (ds, rest) ← digits cs
    return ('.' :: ds, rest)
  | cs => some ([], cs)

/-- The digits of an exponent, with their sign if there is one. -/
def signedDigits : List Char → Option (List Char × List Char)
  | '+' :: cs => do
    let (ds, rest) ← digits cs
    return ('+' :: ds, rest)
  | '-' :: cs => do
    let (ds, rest) ← digits cs
    return ('-' :: ds, rest)
  | cs => digits cs

/-- An exponent, if there is one. -/
def exponentPart : List Char → Option (List Char × List Char)
  | e :: cs =>
    if e == 'e' || e == 'E' then do
      let (ds, rest) ← signedDigits cs
      return (e :: ds, rest)
    else some ([], e :: cs)
  | [] => some ([], [])

/-- The value of decimal digits. -/
def valueOf (ds : List Char) : Nat := ds.foldl (fun n d => n * 10 + (d.toNat - 48)) 0

/-- A number without its sign. -/
def unsigned (negative : Bool) (cs : List Char) : Option (Json × List Char) := do
  let (whole, cs) ← integerPart cs
  let (fraction, cs) ← fractionPart cs
  let (exponent, cs) ← exponentPart cs
  let value := valueOf whole
  if fraction.isEmpty && exponent.isEmpty && !(negative && value == 0) then
    return (.int (if negative then -(value : Int) else value), cs)
  else
    let sign := if negative then ['-'] else []
    return (.decimal (String.ofList (sign ++ whole ++ fraction ++ exponent)), cs)

/-- A number. -/
def number : List Char → Option (Json × List Char)
  | '-' :: cs => unsigned true cs
  | cs => unsigned false cs

/-! ## Values -/

mutual

/-- A value, with the blanks before it. -/
def value : (bound : Nat) → List Char → Option (Json × List Char)
  | 0, _ => none
  | bound + 1, cs =>
    match skip cs with
    | '[' :: cs =>
      match skip cs with
      | ']' :: cs => some (.arr [], cs)
      | cs => do
        let (elements, rest) ← elements bound cs
        return (.arr elements, rest)
    | '\x7b' :: cs =>
      match skip cs with
      | '\x7d' :: cs => some (.obj [], cs)
      | cs => do
        let (members, rest) ← members bound cs
        return (.obj members, rest)
    | '"' :: cs => do
      let (text, rest) ← stringLiteral cs
      return (.str text, rest)
    | 'n' :: 'u' :: 'l' :: 'l' :: cs => some (.null, cs)
    | 't' :: 'r' :: 'u' :: 'e' :: cs => some (.bool true, cs)
    | 'f' :: 'a' :: 'l' :: 's' :: 'e' :: cs => some (.bool false, cs)
    | cs => number cs

/-- One or more elements and the bracket that closes them. -/
def elements : (bound : Nat) → List Char → Option (List Json × List Char)
  | 0, _ => none
  | bound + 1, cs => do
    let (j, cs) ← value bound cs
    match skip cs with
    | ',' :: cs =>
      let (js, rest) ← elements bound cs
      return (j :: js, rest)
    | ']' :: cs => return ([j], cs)
    | _ => none

/-- One or more members and the brace that closes them. -/
def members : (bound : Nat) → List Char → Option (List (Option String × Json) × List Char)
  | 0, _ => none
  | bound + 1, cs => do
    match skip cs with
    | '"' :: cs =>
      let (key, cs) ← stringLiteral cs
      match skip cs with
      | ':' :: cs =>
        let (j, cs) ← value bound cs
        match skip cs with
        | ',' :: cs =>
          let (ms, rest) ← members bound cs
          return ((key, j) :: ms, rest)
        | '\x7d' :: cs => return ([(key, j)], cs)
        | _ => none
      | _ => none
    | _ => none

end

/-- Reads a text that holds one value. -/
def parse? (text : String) : Option Json := do
  let cs := text.toList
  let (j, rest) ← value (2 * cs.length + 2) cs
  if (skip rest).isEmpty then return j else none

end Json

end ExprMachine
