import ExprMachine.Text.Escaped

/-!
# Quoted texts

A text or a character between quotes, for messages. The quote itself and the backslash are written
after a backslash; tab, line feed, carriage return and the null character by a letter; any other
character that cannot be seen by its code in hexadecimal, between braces.
-/

namespace ExprMachine

namespace Text

/-- A character as it is written between the given quotes. -/
def escape (quote : Char) (c : Char) : List Char :=
  if c = quote ∨ c = '\\' then ['\\', c]
  else if c = '\t' then ['\\', 't']
  else if c = '\n' then ['\\', 'n']
  else if c = '\r' then ['\\', 'r']
  else if c.toNat = 0 then ['\\', '0']
  else if isEscaped c then ['\\', 'u', '\x7b'] ++ Nat.toDigits 16 c.toNat ++ ['\x7d']
  else [c]

/-- A text between double quotes. -/
def quoted (cs : List Char) : String :=
  String.ofList ('"' :: (cs.flatMap (escape '"') ++ ['"']))

/-- The single quote. -/
def apostrophe : Char := Char.ofNat 39

/-- A character between single quotes. -/
def quotedChar (c : Char) : String :=
  String.ofList (apostrophe :: (escape apostrophe c ++ [apostrophe]))

end Text

end ExprMachine
