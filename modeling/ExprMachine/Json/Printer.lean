import ExprMachine.Json

/-!
# Printing JSON

`Json.compact` prints on one line without blanks; `Json.pretty` puts each element and member on a
line of its own, two blanks deeper than what holds it.
-/

namespace ExprMachine

namespace Json

/-- A character as it is written in a string literal. -/
def escape (c : Char) : List Char :=
  if c = '"' then ['\\', '"']
  else if c = '\\' then ['\\', '\\']
  else if c = '\n' then ['\\', 'n']
  else if c = '\t' then ['\\', 't']
  else if c = '\r' then ['\\', 'r']
  else if c.toNat = 8 then ['\\', 'b']
  else if c.toNat = 12 then ['\\', 'f']
  else if c.toNat < 32 then
    let digits := Nat.toDigits 16 c.toNat
    ['\\', 'u'] ++ List.replicate (4 - digits.length) '0' ++ digits
  else [c]

/-- A string literal. -/
def literal (text : Option String) : String :=
  String.ofList ('"' :: (((text.getD "").toList.flatMap escape) ++ ['"']))

mutual

/-- Prints on one line. -/
def compact : Json → String
  | .null => "null"
  | .bool b => if b then "true" else "false"
  | .int n => toString n
  | .decimal written => written
  | .str text => literal text
  | .arr elements => "[" ++ compactElements elements ++ "]"
  | .obj members => "\x7b" ++ compactMembers members ++ "\x7d"

/-- Prints elements on one line, with commas between them. -/
def compactElements : List Json → String
  | [] => ""
  | [j] => j.compact
  | j :: js => j.compact ++ "," ++ compactElements js

/-- Prints members on one line, with commas between them. -/
def compactMembers : List (Option String × Json) → String
  | [] => ""
  | [(key, j)] => literal key ++ ":" ++ j.compact
  | (key, j) :: ms => literal key ++ ":" ++ j.compact ++ "," ++ compactMembers ms

end

/-- A line feed and the blanks that a line starts with. -/
def newLine (depth : Nat) : String := "\n" ++ String.ofList (List.replicate (2 * depth) ' ')

mutual

/-- Prints over several lines, of which the first is already begun at the given depth. -/
def prettyAt (depth : Nat) : Json → String
  | .arr (j :: js) => "[" ++ prettyElements depth (j :: js) ++ newLine depth ++ "]"
  | .obj (m :: ms) => "\x7b" ++ prettyMembers depth (m :: ms) ++ newLine depth ++ "\x7d"
  | .arr [] => "[]"
  | .obj [] => "\x7b\x7d"
  | .null => "null"
  | .bool b => if b then "true" else "false"
  | .int n => toString n
  | .decimal written => written
  | .str text => literal text

/-- Prints elements, each on lines of its own. -/
def prettyElements (depth : Nat) : List Json → String
  | [] => ""
  | [j] => newLine (depth + 1) ++ j.prettyAt (depth + 1)
  | j :: js => newLine (depth + 1) ++ j.prettyAt (depth + 1) ++ "," ++ prettyElements depth js

/-- Prints members, each on lines of its own. -/
def prettyMembers (depth : Nat) : List (Option String × Json) → String
  | [] => ""
  | [(key, j)] => newLine (depth + 1) ++ literal key ++ ": " ++ j.prettyAt (depth + 1)
  | (key, j) :: ms =>
    newLine (depth + 1) ++ literal key ++ ": " ++ j.prettyAt (depth + 1) ++ ","
      ++ prettyMembers depth ms

end

/-- Prints over several lines. -/
def pretty (j : Json) : String := j.prettyAt 0

end Json

end ExprMachine
