import ExprMachine.Text
import ExprMachine.Toml

/-!
# TOML scalars

Strings, numbers, dates and times. Each function takes a text's characters and gives what it read
and the characters that follow; none if the text does not start that way.
-/

namespace ExprMachine

namespace Toml

open Text (hexDigit? charOf?)

/-- A blank is a space or a tab. -/
def isBlank (c : Char) : Bool := c == ' ' || c == '\t'

/-- The characters from the first that is no blank. -/
def skipBlanks (cs : List Char) : List Char := cs.dropWhile isBlank

/-- Whether a character may stand in a comment and in strings: no control but the tab. -/
def isPlain (c : Char) : Bool := c == '\t' || (0x20 ≤ c.toNat && c.toNat != 0x7f)

/-- What follows an end of line: a line feed, also after a carriage return. -/
def newline? : List Char → Option (List Char)
  | '\n' :: cs => some cs
  | '\r' :: '\n' :: cs => some cs
  | _ => none

/-- The characters without an end of line in front. -/
def dropNewline (cs : List Char) : List Char := (newline? cs).getD cs

/-! ## Strings -/

/-- The character of an escape, from the first character after the backslash. -/
def escape? : List Char → Option (Char × List Char)
  | 'b' :: cs => some (Char.ofNat 8, cs)
  | 'f' :: cs => some (Char.ofNat 12, cs)
  | 'n' :: cs => some ('\n', cs)
  | 'r' :: cs => some ('\r', cs)
  | 't' :: cs => some ('\t', cs)
  | '"' :: cs => some ('"', cs)
  | '\\' :: cs => some ('\\', cs)
  | 'u' :: cs =>
    if 4 ≤ cs.length then do return (← charOf? (cs.take 4), cs.drop 4) else none
  | 'U' :: cs =>
    if 8 ≤ cs.length then do return (← charOf? (cs.take 8), cs.drop 8) else none
  | _ => none

/-- The blanks and line ends at the start of the characters, of which a line end has been passed
over. -/
def skipLines : List Char → List Char
  | ' ' :: cs => skipLines cs
  | '\t' :: cs => skipLines cs
  | '\n' :: cs => skipLines cs
  | '\r' :: '\n' :: cs => skipLines cs
  | cs => cs

/-- The rest of a string on one line, from after its opening quote; `bound` is at least the number
of characters. -/
def basicString : (bound : Nat) → List Char → Option (List Char × List Char)
  | 0, _ => none
  | _ + 1, [] => none
  | _ + 1, '"' :: cs => some ([], cs)
  | bound + 1, '\\' :: cs => do
    let (c, cs) ← escape? cs
    let (text, rest) ← basicString bound cs
    return (c :: text, rest)
  | bound + 1, c :: cs =>
    if isPlain c then do
      let (text, rest) ← basicString bound cs
      return (c :: text, rest)
    else none

/-- The single quote. -/
def apostrophe : Char := Char.ofNat 39

/-- The rest of a string on one line without escapes, from after its opening quote. -/
def literalString : List Char → Option (List Char × List Char)
  | [] => none
  | c :: cs =>
    if c == apostrophe then some ([], cs)
    else if isPlain c then do
      let (text, rest) ← literalString cs
      return (c :: text, rest)
    else none

/-- What a run of quotes means inside of a string over several lines: fewer than three are part of
the text; three end the string, and of up to five the first two can be part of it. -/
inductive Quotes where
  | inside (count : Nat)
  | ending (count : Nat)

/-- The meaning of a run of quotes. -/
def quotesOf? (count : Nat) : Option Quotes :=
  if count < 3 then some (.inside count)
  else if count ≤ 5 then some (.ending (count - 3))
  else none

/-- The rest of a string over several lines, from after the line end that may follow its opening
quotes. Without `escapes`, a backslash stands for itself. -/
def longString (quote : Char) (escapes : Bool) : (bound : Nat) → List Char → Option (List Char × List Char)
  | 0, _ => none
  | _ + 1, [] => none
  | bound + 1, c :: cs =>
    if c == quote then do
      let count := 1 + (cs.takeWhile (· == quote)).length
      let rest := cs.dropWhile (· == quote)
      match ← quotesOf? count with
      | .ending n => return (List.replicate n quote, rest)
      | .inside n =>
        let (text, rest) ← longString quote escapes bound rest
        return (List.replicate n quote ++ text, rest)
    else if c == '\\' && escapes then
      match newline? (skipBlanks cs) with
      | some cs => longString quote escapes bound (skipLines cs)
      | none => do
        let (e, cs) ← escape? cs
        let (text, rest) ← longString quote escapes bound cs
        return (e :: text, rest)
    else
      match newline? (c :: cs) with
      | some cs => do
        let (text, rest) ← longString quote escapes bound cs
        return ('\n' :: text, rest)
      | none =>
        if isPlain c then do
          let (text, rest) ← longString quote escapes bound cs
          return (c :: text, rest)
        else none

/-- A string on one line, as keys may be written. -/
def shortString : List Char → Option (List Char × List Char)
  | '"' :: cs => basicString (cs.length + 1) cs
  | c :: cs => if c == apostrophe then literalString cs else none
  | [] => none

/-- A string of any kind. -/
def string : List Char → Option (List Char × List Char)
  | a :: b :: c :: cs =>
    if a == '"' && b == '"' && c == '"' then
      let cs := dropNewline cs
      longString '"' true (cs.length + 1) cs
    else if a == apostrophe && b == apostrophe && c == apostrophe then
      let cs := dropNewline cs
      longString apostrophe false (cs.length + 1) cs
    else shortString (a :: b :: c :: cs)
  | cs => shortString cs

/-! ## Numbers -/

/-- Digits of a kind, each of them after at most one underscore but the first. -/
def digitsAfter (isDigit : Char → Bool) : List Char → List Char × List Char
  | [] => ([], [])
  | [c] => if isDigit c then ([c], []) else ([], [c])
  | c :: d :: cs =>
    if isDigit c then
      let (ds, rest) := digitsAfter isDigit (d :: cs)
      (c :: ds, rest)
    else if c == '_' && isDigit d then
      let (ds, rest) := digitsAfter isDigit cs
      (d :: ds, rest)
    else ([], c :: d :: cs)

/-- One or more digits of a kind, with single underscores between them. -/
def digits (isDigit : Char → Bool) : List Char → Option (List Char × List Char)
  | c :: cs =>
    if isDigit c then
      let (ds, rest) := digitsAfter isDigit cs
      some (c :: ds, rest)
    else none
  | [] => none

/-- The value of digits. -/
def valueOf (radix : Nat) (ds : List Char) : Nat :=
  ds.foldl (fun n d => n * radix + (hexDigit? d).getD 0) 0

/-- An integer of 64 bits with a sign. -/
def bounded? (n : Int) : Option Node :=
  if -0x8000000000000000 ≤ n ∧ n < 0x8000000000000000 then some (.int n) else none

/-- Decimal digits: a zero alone, or digits of which the first is not zero. -/
def wholePart (cs : List Char) : Option (List Char × List Char) :=
  match cs with
  | '0' :: rest => some (['0'], rest)
  | _ => digits Char.isDigit cs

/-- A fraction, if there is one. -/
def fractionPart : List Char → List Char × List Char
  | '.' :: cs =>
    match digits Char.isDigit cs with
    | some (ds, rest) => (ds, rest)
    | none => ([], '.' :: cs)
  | cs => ([], cs)

/-- The sign in front of digits, true for a minus. -/
def signPart : List Char → Bool × List Char
  | '+' :: cs => (false, cs)
  | '-' :: cs => (true, cs)
  | cs => (false, cs)

/-- An exponent, if there is one. -/
def exponentPart (cs : List Char) : Option Int × List Char :=
  match cs with
  | e :: rest =>
    if e == 'e' || e == 'E' then
      let (negative, rest) := signPart rest
      match digits Char.isDigit rest with
      | some (ds, rest) =>
        let n : Int := valueOf 10 ds
        (some (if negative then -n else n), rest)
      | none => (none, cs)
    else (none, cs)
  | [] => (none, [])

/-- Whether the number with the given decimal mantissa and exponent is nearer to 2 to the power of
1024 than to any smaller number of 53 binary digits, and so none in double precision. -/
def exceedsDouble (mantissa : Nat) (exponent : Int) : Bool :=
  let magnitude : Int := (Nat.toDigits 10 mantissa).length + exponent
  let bound := Nat.pow 2 1024 - Nat.pow 2 970
  if mantissa = 0 ∨ magnitude < 300 then false
  else if 400 < magnitude then true
  else if 0 ≤ exponent then bound ≤ mantissa * Nat.pow 10 exponent.toNat
  else bound * Nat.pow 10 (-exponent).toNat ≤ mantissa

/-- A decimal number. A float above all numbers in double precision is refused. -/
def decimal (negative : Bool) (cs : List Char) : Option (Node × List Char) := do
  let (whole, cs) ← wholePart cs
  let (fraction, cs) := fractionPart cs
  let (exponent, cs) := exponentPart cs
  match fraction, exponent with
  | [], none =>
    let n : Int := valueOf 10 whole
    return (← bounded? (if negative then -n else n), cs)
  | _, _ =>
    if !negative
        && exceedsDouble (valueOf 10 (whole ++ fraction)) (exponent.getD 0 - fraction.length)
    then none
    else return (.float, cs)

/-- An integer of another radix, from after its first two characters. -/
def radixInteger (radix : Nat) (isDigit : Char → Bool) (cs : List Char) : Option (Node × List Char) := do
  let (ds, rest) ← digits isDigit cs
  return (← bounded? (valueOf radix ds), rest)

/-- A number. -/
def number (cs : List Char) : Option (Node × List Char) :=
  match cs with
  | '0' :: 'x' :: cs => radixInteger 16 (fun c => (hexDigit? c).isSome) cs
  | '0' :: 'o' :: cs => radixInteger 8 (fun c => '0' ≤ c && c ≤ '7') cs
  | '0' :: 'b' :: cs => radixInteger 2 (fun c => c == '0' || c == '1') cs
  | _ =>
    let (negative, cs) := signPart cs
    match cs with
    | 'i' :: 'n' :: 'f' :: cs => some (.float, cs)
    | 'n' :: 'a' :: 'n' :: cs => some (.float, cs)
    | cs => decimal negative cs

/-! ## Dates and times -/

/-- The number of exactly `count` decimal digits, and what follows them. -/
def fixedDigits (count : Nat) (cs : List Char) : Option (Nat × List Char) :=
  let ds := cs.take count
  if ds.length = count ∧ ds.all Char.isDigit then some (valueOf 10 ds, cs.drop count) else none

/-- A number of two digits within bounds. -/
def twoDigits (least greatest : Nat) (cs : List Char) : Option (Nat × List Char) := do
  let (n, cs) ← fixedDigits 2 cs
  if least ≤ n ∧ n ≤ greatest then return (n, cs) else none

/-- What follows a given character. -/
def expect? (c : Char) : List Char → Option (List Char)
  | d :: cs => if c == d then some cs else none
  | [] => none

/-- The number of days of a month. -/
def daysIn (year month : Nat) : Nat :=
  if month = 2 then
    if year % 4 = 0 ∧ (year % 100 ≠ 0 ∨ year % 400 = 0) then 29 else 28
  else if month = 4 ∨ month = 6 ∨ month = 9 ∨ month = 11 then 30
  else 31

/-- What follows a date. -/
def date? (cs : List Char) : Option (List Char) := do
  let (year, cs) ← fixedDigits 4 cs
  let (month, cs) ← twoDigits 1 12 (← expect? '-' cs)
  let (_, cs) ← twoDigits 1 (daysIn year month) (← expect? '-' cs)
  return cs

/-- What follows a time of day. -/
def clock? (cs : List Char) : Option (List Char) := do
  let (_, cs) ← twoDigits 0 23 cs
  let (_, cs) ← twoDigits 0 59 (← expect? ':' cs)
  let (_, cs) ← twoDigits 0 60 (← expect? ':' cs)
  match cs with
  | '.' :: d :: rest => return if d.isDigit then rest.dropWhile Char.isDigit else cs
  | _ => return cs

/-- What follows an offset from universal time, if there is one. -/
def dropOffset (cs : List Char) : List Char :=
  match cs with
  | 'Z' :: rest => rest
  | 'z' :: rest => rest
  | sign :: rest =>
    let offset : Option (List Char) := do
      if sign == '+' || sign == '-' then
        let (_, rest) ← twoDigits 0 23 rest
        let (_, rest) ← twoDigits 0 59 (← expect? ':' rest)
        return rest
      else none
    offset.getD cs
  | [] => []

/-- A date, a time, or both. -/
def time (cs : List Char) : Option (Node × List Char) :=
  match date? cs with
  | some (c :: rest) =>
    if c == 'T' || c == 't' || c == ' ' then
      match clock? rest with
      | some rest => some (.time, dropOffset rest)
      | none => some (.time, c :: rest)
    else some (.time, c :: rest)
  | some [] => some (.time, [])
  | none => (clock? cs).map fun rest => (.time, rest)

end Toml

end ExprMachine
