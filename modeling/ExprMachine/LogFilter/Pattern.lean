import ExprMachine.LogFilter.Pattern.CharClass
import ExprMachine.Text.Alphanumeric

/-!
# Patterns

A field of a log filter may be compared with a regular expression. Nothing is ever matched here: all
that counts is whether a text is a regular expression (`isPattern`). Those that need tables of
Unicode classes are none: the classes of digits, blanks and word characters, properties, borders of
words, and characters whose case is ignored. Those that match bytes are, if all that they match is
text.

A pattern is read from the left (`Reading.run`). Of what was read only that is kept which decides
whether the rest makes sense: the flags, the names of the groups, and how deep the parts are.
-/

namespace ExprMachine

namespace LogFilter

/-- How deep a pattern may be. -/
def maxDepth : Nat := 250

/-! ## Groups -/

/-- Whether a text names a group. -/
def isGroupName : List Char → Bool
  | [] => false
  | c :: cs =>
    (c == '_' || Text.isAlphabetic c)
      && cs.all fun c => c == '_' || c == '.' || c == '[' || c == ']' || Text.isAlphanumeric c

/-- What an opening parenthesis starts. -/
inductive Opening where
  | group (flags : Flags)
  | named (name : List Char)
  /-- Flags for what follows, and no group. -/
  | flags (flags : Flags)

/-- A named group, from the first character of its name. -/
def namedGroup (cs : List Char) : Option (Opening × List Char) :=
  let name := cs.takeWhile (· != '>')
  match cs.dropWhile (· != '>') with
  | _ :: rest => if isGroupName name then some (.named name, rest) else none
  | [] => none

/-- Flags, from the first letter, and the group that they hold in. -/
def flagged (flags : Flags) (cs : List Char) : Option (Opening × List Char) :=
  let letters := cs.takeWhile fun c => c != ':' && c != ')'
  if Flags.areLetters letters then
    match cs.dropWhile fun c => c != ':' && c != ')' with
    | ':' :: rest => some (.group (flags.change letters), rest)
    | ')' :: rest => if letters.isEmpty then none else some (.flags (flags.change letters), rest)
    | _ => none
  else none

/-- What stands after an opening parenthesis. -/
def opening (flags : Flags) (cs : List Char) : Option (Opening × List Char) :=
  match flags.skip cs with
  | '?' :: '<' :: cs => namedGroup cs
  | '?' :: 'P' :: '<' :: cs => namedGroup cs
  | '?' :: cs => flagged flags cs
  | cs => some (.group flags, cs)

/-! ## What was read -/

/-- A group, or the whole pattern, as far as it was read, by how deep its parts are. -/
structure Level where
  /-- The flags for what follows. -/
  flags : Flags
  /-- The branches that a bar follows, the last first. -/
  branches : List Nat := []
  /-- The items of the branch that is being read, the last first. -/
  items : List Nat := []
  /-- Whether the last item can be repeated. -/
  repeatable : Bool := false

namespace Level

/-- How deep the level is. -/
def depth (level : Level) : Nat := joinDepths (joinDepths level.items :: level.branches)

/-- One more item. -/
def add (level : Level) (depth : Nat) : Level :=
  { level with items := depth :: level.items, repeatable := true }

/-- Flags count as an item that cannot be repeated. -/
def setFlags (level : Level) (flags : Flags) : Level :=
  { level with flags := flags, items := 0 :: level.items, repeatable := false }

/-- A bar: the next branch starts. -/
def branch (level : Level) : Level :=
  { flags := level.flags, branches := joinDepths level.items :: level.branches }

/-- The last item repeated. -/
def repeatLast (level : Level) : Option Level :=
  match level.repeatable, level.items with
  | true, depth :: items => some { level with items := (depth + 1) :: items }
  | _, _ => none

end Level

/-- A pattern as far as it was read. -/
structure Reading where
  /-- The innermost group that is open. -/
  level : Level
  /-- What stands around it, the innermost first. -/
  outer : List Level := []
  /-- The names of the groups. -/
  names : List (List Char) := []

namespace Reading

/-- One more item. -/
def add (reading : Reading) (depth : Nat) : Reading :=
  { reading with level := reading.level.add depth }

/-- A group starts. -/
def enter (reading : Reading) (flags : Flags) : Reading :=
  { reading with level := { flags := flags }, outer := reading.level :: reading.outer }

/-- What an opening parenthesis starts. No two groups have the same name. -/
def start (reading : Reading) : Opening → Option Reading
  | .group flags => some (reading.enter flags)
  | .named name =>
    if reading.names.contains name then none
    else some { reading.enter reading.level.flags with names := name :: reading.names }
  | .flags flags => some { reading with level := reading.level.setFlags flags }

/-- The innermost group ends, and with it the flags that were set in it. -/
def leave (reading : Reading) : Option Reading :=
  match reading.outer with
  | [] => none
  | level :: outer =>
    some { reading with level := level.add (reading.level.depth + 1), outer := outer }

/-! ## Reading on -/

/-- Characters without a question mark in front. -/
def dropLazy : List Char → List Char
  | '?' :: cs => cs
  | cs => cs

/-- Reads what starts with a character, and gives the characters that follow it. -/
def step (reading : Reading) (c : Char) (cs : List Char) : Option (Reading × List Char) :=
  let flags := reading.level.flags
  match c with
  | '(' => do
    let (opened, rest) ← opening flags cs
    return (← reading.start opened, rest)
  | ')' => do return (← reading.leave, cs)
  | '|' => some ({ reading with level := reading.level.branch }, cs)
  | '[' => do
    let (depth, rest) ← charClass flags cs
    return (reading.add depth, rest)
  | '\\' =>
    match escape flags cs with
    | some (.char _, rest) => if flags.refusesChars then none else some (reading.add 0, rest)
    | some (_, rest) => some (reading.add 0, rest)
    | none => none
  | '^' => some (reading.add 0, cs)
  | '$' => some (reading.add 0, cs)
  | '.' => if flags.unicode then some (reading.add 0, cs) else none
  | '\x7b' => none
  | _ =>
    if c = '*' || c = '+' || c = '?' then do
      return ({ reading with level := ← reading.level.repeatLast }, dropLazy cs)
    else if flags.refusesChars then none
    else some (reading.add 0, cs)

/-- Reads all characters. -/
def run : (bound : Nat) → Reading → List Char → Option Reading
  | 0, _, _ => none
  | bound + 1, reading, cs =>
    match reading.level.flags.skip cs with
    | [] => some reading
    | c :: cs => do
      let (reading, rest) ← reading.step c cs
      run bound reading rest

end Reading

/-- Whether a text is a regular expression. -/
def isPattern (cs : List Char) : Bool :=
  match Reading.run (cs.length + 1) { level := { flags := {} } } cs with
  | some reading => reading.outer.isEmpty && reading.level.depth ≤ maxDepth
  | none => false

end LogFilter

end ExprMachine
