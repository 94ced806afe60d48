import ExprMachine.LogFilter.Pattern.Escape

/-!
# Classes in brackets

A class holds characters, ranges of them, classes by name and further classes, with operators of
sets between them. Where bytes are matched it holds characters of ASCII only, and cannot be a
complement.

Each function takes the characters of a text and gives those that follow what it read; none if the
text is no class.
-/

namespace ExprMachine

namespace LogFilter

/-- How deep something is whose parts are as deep as given: one part alone adds nothing. -/
def joinDepths : List Nat → Nat
  | [] => 0
  | [depth] => depth
  | depths => depths.foldl max 0 + 1

/-- A class as far as it was read, by how deep its parts are. -/
structure ClassSoFar where
  /-- What stands in front of the last operator. -/
  left : Option Nat := none
  /-- What follows it, the last first. -/
  items : List Nat := []

namespace ClassSoFar

/-- One more item. -/
def add (soFar : ClassSoFar) (depth : Nat) : ClassSoFar :=
  { soFar with items := depth :: soFar.items }

/-- How deep the class is without its brackets. -/
def depth (soFar : ClassSoFar) : Nat :=
  match soFar.left with
  | none => joinDepths soFar.items
  | some depth => max depth (joinDepths soFar.items) + 1

/-- An operator follows. -/
def operate (soFar : ClassSoFar) : ClassSoFar := { left := some soFar.depth }

end ClassSoFar

/-! ## Classes by name -/

/-- The names that stand between colons in a class. -/
def classNames : List String :=
  ["alnum", "alpha", "ascii", "blank", "cntrl", "digit", "graph", "lower", "print", "punct",
   "space", "upper", "word", "xdigit"]

/-- A class by its name, from the character after its bracket, and whether it is a complement. -/
def namedClass : List Char → Option (Bool × List Char)
  | ':' :: cs =>
    let (negated, cs) := match cs with
      | '^' :: rest => (true, rest)
      | _ => (false, cs)
    match cs.dropWhile (· != ':') with
    | ':' :: ']' :: rest =>
      if classNames.contains (String.ofList (cs.takeWhile (· != ':'))) then some (negated, rest)
      else none
    | _ => none
  | _ => none

/-! ## Items -/

/-- Whether a class may hold a character. -/
def Flags.admitsMember (flags : Flags) (c : Char) : Bool :=
  !flags.refusesChars && (flags.unicode || c.toNat < 0x80)

/-- Whether a class may hold a class by name. -/
def Flags.admitsNamed (flags : Flags) (negated : Bool) : Bool :=
  if flags.unicode then !flags.insensitive else !negated

/-- A member of a class. -/
inductive Member where
  | char (c : Char)
  | kind

/-- The next member of a class. -/
def member (flags : Flags) : List Char → Option (Member × List Char)
  | [] => none
  | '\\' :: cs =>
    match escape flags cs with
    | some (.char c, rest) => if flags.admitsMember c then some (.char c, rest) else none
    | some (.kind, rest) => some (.kind, rest)
    | _ => none
  | c :: cs => if flags.admitsMember c then some (.char c, cs) else none

/-- A member of a class, or a range. A dash in front of the closing bracket or of another dash makes
no range. -/
def rangeOrMember (flags : Flags) (cs : List Char) : Option (List Char) := do
  let (first, rest) ← member flags cs
  match flags.skip rest with
  | '-' :: rest =>
    let next := flags.peek rest
    if next = some ']' || next = some '-' then some ('-' :: rest)
    else
      match first, ← member flags (flags.skip rest) with
      | .char first, (.char last, rest) => if first.toNat ≤ last.toNat then some rest else none
      | _, _ => none
  | rest => some rest

/-! ## Whole classes -/

/-- The dashes that a class starts with, which stand for themselves. -/
def leadingDashes (flags : Flags) (soFar : ClassSoFar) : (bound : Nat) → List Char →
    ClassSoFar × List Char
  | bound + 1, '-' :: cs => leadingDashes flags (soFar.add 0) bound (flags.skip cs)
  | _, cs => (soFar, cs)

/-- The start of a class, from the character after its bracket: a caret, then either dashes or a
bracket that stand for themselves. -/
def classStart (flags : Flags) (cs : List Char) : Option (ClassSoFar × List Char) := do
  let (negated, cs) := match flags.skip cs with
    | '^' :: rest => (true, flags.skip rest)
    | cs => (false, cs)
  let (soFar, rest) := match cs with
    | ']' :: rest => (({} : ClassSoFar).add 0, rest)
    | _ => leadingDashes flags {} cs.length cs
  if negated && !flags.unicode then none
  else if flags.refusesChars && !soFar.items.isEmpty then none
  else some (soFar, rest)

/-- The items of a class up to the bracket that closes it, and how deep the class is. Around the
class stand those of `outer`, the innermost first. -/
def classItems (flags : Flags) : (bound : Nat) → (soFar : ClassSoFar) →
    (outer : List ClassSoFar) → List Char → Option (Nat × List Char)
  | 0, _, _, _ => none
  | bound + 1, soFar, outer, cs =>
    match flags.skip cs with
    | [] => none
    | ']' :: cs =>
      match outer with
      | [] => some (soFar.depth + 1, cs)
      | around :: outer => classItems flags bound (around.add (soFar.depth + 1)) outer cs
    | '[' :: cs =>
      match namedClass cs with
      | some (negated, rest) =>
        if flags.admitsNamed negated then classItems flags bound (soFar.add 0) outer rest
        else none
      | none => do
        let (inner, rest) ← classStart flags cs
        classItems flags bound inner (soFar :: outer) rest
    | '&' :: '&' :: cs => classItems flags bound soFar.operate outer cs
    | '-' :: '-' :: cs => classItems flags bound soFar.operate outer cs
    | '~' :: '~' :: cs => classItems flags bound soFar.operate outer cs
    | cs => do classItems flags bound (soFar.add 0) outer (← rangeOrMember flags cs)

/-- A class, from the character after its bracket, and how deep it is. -/
def charClass (flags : Flags) (cs : List Char) : Option (Nat × List Char) := do
  let (soFar, rest) ← classStart flags cs
  classItems flags (rest.length + 1) soFar [] rest

end LogFilter

end ExprMachine
