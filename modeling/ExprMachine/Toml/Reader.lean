import ExprMachine.Toml.Scalar

/-!
# Reading TOML

Values, keys and the lines of a document. Arrays and tables in braces nest less than `depthLimit`
deep, and a dotted key has fewer parts than that.

A reader of values takes a number that is at least twice that of the characters; each value and each
element takes at least one character, so it is never used up.
-/

namespace ExprMachine

namespace Toml

/-- The depth that nesting does not reach. -/
def depthLimit : Nat := 80

/-- Whether a character may stand in a key without quotes. -/
def isBare (c : Char) : Bool := c.isAlphanum || c == '_' || c == '-'

/-- One part of a key. -/
def keyPart (cs : List Char) : Option (String × List Char) :=
  match cs.takeWhile isBare with
  | [] => do
    let (text, rest) ← shortString cs
    return (String.ofList text, rest)
  | bare => some (String.ofList bare, cs.dropWhile isBare)

/-- The parts of a key with dots and blanks between them; `bound` is above the number of parts. -/
def keyParts : (bound : Nat) → List Char → Option (List String × List Char)
  | 0, _ => none
  | bound + 1, cs => do
    let (part, cs) ← keyPart (skipBlanks cs)
    match skipBlanks cs with
    | '.' :: cs =>
      let (parts, rest) ← keyParts bound cs
      return (part :: parts, rest)
    | cs => return ([part], cs)

/-- A key: the path of all parts but the last, and the last. -/
def key (cs : List Char) : Option ((List String × String) × List Char) := do
  let (parts, rest) ← keyParts (depthLimit - 1) cs
  return ((parts.dropLast, ← parts.getLast?), rest)

/-- What follows a comment and the end of its line. -/
def comment? : List Char → Option (List Char)
  | '#' :: cs => newline? (cs.dropWhile isPlain)
  | _ => none

/-- The characters without the blanks, line ends and comments in front, of which there are fewer
than `bound`. -/
def skipSpace : (bound : Nat) → List Char → Option (List Char)
  | 0, _ => none
  | bound + 1, cs =>
    match skipBlanks cs with
    | '#' :: cs => do skipSpace bound (← comment? ('#' :: cs))
    | '\n' :: cs => skipSpace bound cs
    | '\r' :: cs => do skipSpace bound (← newline? ('\r' :: cs))
    | cs => some cs

mutual

/-- A value inside of `depth` arrays and tables in braces. -/
def value : (bound depth : Nat) → List Char → Option (Node × List Char)
  | 0, _, _ => none
  | bound + 1, depth, cs =>
    match cs with
    | '[' :: rest =>
      if depthLimit ≤ depth + 1 then none
      else do
        let (elements, rest) ← elements bound (depth + 1) rest
        return (.list elements, rest)
    | '\x7b' :: rest =>
      if depthLimit ≤ depth + 1 then none
      else match skipBlanks rest with
        | '\x7d' :: rest => some (.table .braces [], rest)
        | rest => do
          let (members, rest) ← members bound (depth + 1) [] rest
          return (.table .braces members, rest)
    | 't' :: 'r' :: 'u' :: 'e' :: rest => some (.bool true, rest)
    | 'f' :: 'a' :: 'l' :: 's' :: 'e' :: rest => some (.bool false, rest)
    | c :: _ =>
      if c == '"' || c == apostrophe then do
        let (text, rest) ← string cs
        return (.text (String.ofList text), rest)
      else
        match time cs with
        | some result => some result
        | none => number cs
    | [] => none

/-- The elements of an array and the bracket that closes it. -/
def elements : (bound depth : Nat) → List Char → Option (List Node × List Char)
  | 0, _, _ => none
  | bound + 1, depth, cs => do
    match ← skipSpace (cs.length + 1) cs with
    | ']' :: rest => return ([], rest)
    | cs =>
      let (node, cs) ← value bound depth cs
      match ← skipSpace (cs.length + 1) cs with
      | ',' :: cs =>
        let (nodes, rest) ← elements bound depth cs
        return (node :: nodes, rest)
      | ']' :: rest => return ([node], rest)
      | _ => none

/-- One or more members of a table in braces, after those in `known`, and the brace that closes
it. -/
def members : (bound depth : Nat) → (known : Members) → List Char → Option (Members × List Char)
  | 0, _, _, _ => none
  | bound + 1, depth, known, cs => do
    let ((path, last), cs) ← key cs
    let (node, cs) ← value bound depth (skipBlanks (← expect? '=' cs))
    let known ← define path last node known
    match skipBlanks cs with
    | ',' :: cs => members bound depth known cs
    | '\x7d' :: rest => return (known, rest)
    | _ => none

end

/-- What follows the rest of a line on which only blanks and a comment may stand. -/
def lineEnd? (cs : List Char) : Option (List Char) :=
  let cs := match skipBlanks cs with
    | '#' :: cs => cs.dropWhile isPlain
    | cs => cs
  match cs with
  | [] => some []
  | cs => newline? cs

/-- One line. -/
def line (d : Draft) (cs : List Char) : Option (Draft × List Char) :=
  match skipBlanks cs with
  | '[' :: '[' :: cs => do
    let ((path, last), cs) ← key cs
    match cs with
    | ']' :: ']' :: cs => return (← d.openElement (path ++ [last]), ← lineEnd? cs)
    | _ => none
  | '[' :: cs => do
    let ((path, last), cs) ← key cs
    match cs with
    | ']' :: cs => return (← d.openTable (path ++ [last]), ← lineEnd? cs)
    | _ => none
  | c :: cs =>
    if c == '#' || c == '\n' || c == '\r' then do return (d, ← lineEnd? (c :: cs))
    else do
      let ((path, last), cs) ← key (c :: cs)
      let cs ← expect? '=' cs
      let (node, cs) ← value (2 * cs.length + 2) 0 (skipBlanks cs)
      return (← d.define path last node, ← lineEnd? cs)
  | [] => some (d, [])

/-- All lines, of which there are fewer than `bound`. -/
def lines : (bound : Nat) → Draft → List Char → Option Members
  | 0, _, _ => none
  | _ + 1, d, [] => d.close
  | bound + 1, d, cs => do
    let (d, rest) ← line d cs
    lines bound d rest

/-- The characters without a byte order mark in front. -/
def dropMark (cs : List Char) : List Char :=
  match cs with
  | c :: rest => if c.toNat = 0xfeff then rest else cs
  | [] => []

/-- The table of a document. -/
def parse? (text : String) : Option Members :=
  let cs := dropMark text.toList
  lines (cs.length + 2) .blank cs

end Toml

end ExprMachine
