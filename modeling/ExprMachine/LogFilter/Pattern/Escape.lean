import ExprMachine.LogFilter.Pattern.Flags
import ExprMachine.Text

/-!
# Escapes in patterns

A backslash gives a character without a meaning of its own one, or takes the meaning from one that
has it. The classes of digits, blanks and word characters, and the borders of words, are known for
bytes only: those of Unicode need tables. The complement of such a class would hold bytes that are
no characters, so it is never a pattern.
-/

namespace ExprMachine

namespace LogFilter

/-- What an escape stands for. -/
inductive Escape where
  | char (c : Char)
  /-- A class of characters of ASCII. -/
  | kind
  /-- A place: the start or the end of the text, or the border of a word. -/
  | place

/-- The next `width` characters. Between them stands only what is passed over. -/
def takeDigits (flags : Flags) : (width : Nat) → List Char → Option (List Char × List Char)
  | 0, cs => some ([], cs)
  | width + 1, cs =>
    match flags.skip cs with
    | [] => none
    | d :: cs => do
      let (ds, rest) ← takeDigits flags width cs
      return (d :: ds, rest)

/-- The character whose code are the next `width` digits. -/
def coded (flags : Flags) (width : Nat) (cs : List Char) : Option (Char × List Char) := do
  let (ds, rest) ← takeDigits flags width cs
  return (← Text.charOf? ds, rest)

/-- Whether a backslash may stand in front of a character that then stands for itself. -/
def isEscapable (c : Char) : Bool :=
  c.toNat < 0x80 && !c.isAlphanum && c != '<' && c != '>'

/-- What an escape of one character stands for. -/
def shortEscape (flags : Flags) (c : Char) : Option Escape :=
  match c with
  | 'a' => some (.char (Char.ofNat 7))
  | 'f' => some (.char (Char.ofNat 12))
  | 't' => some (.char '\t')
  | 'n' => some (.char '\n')
  | 'r' => some (.char '\r')
  | 'v' => some (.char (Char.ofNat 11))
  | 'A' => some .place
  | 'z' => some .place
  | _ =>
    if ['d', 's', 'w'].contains c then if flags.unicode then none else some .kind
    else if ['b', 'B', '<', '>'].contains c then if flags.unicode then none else some .place
    else if isEscapable c then some (.char c)
    else none

/-- An escape, from the character after the backslash. Two digits are the code of a byte where bytes
are matched, and must then be one of ASCII. -/
def escape (flags : Flags) : List Char → Option (Escape × List Char)
  | [] => none
  | 'x' :: cs => do
    let (c, rest) ← coded flags 2 cs
    if flags.unicode || c.toNat < 0x80 then some (.char c, rest) else none
  | 'u' :: cs => do
    let (c, rest) ← coded flags 4 cs
    return (.char c, rest)
  | 'U' :: cs => do
    let (c, rest) ← coded flags 8 cs
    return (.char c, rest)
  | c :: cs => do return (← shortEscape flags c, cs)

end LogFilter

end ExprMachine
