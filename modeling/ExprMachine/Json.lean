/-!
# JSON values

A JSON value as it is written: an object keeps its members in order and may hold a key twice, and a
number without fraction and exponent is kept apart from any other. A string literal can stand for no
text, if it holds half of a surrogate pair; its text is then none.

Printing is in `Json/Printer.lean`, reading in `Json/Reader.lean`.
-/

namespace ExprMachine

/-- A JSON value. -/
inductive Json where
  | null
  | bool (b : Bool)
  /-- A number without fraction and exponent, other than -0. -/
  | int (n : Int)
  /-- Any other number, as written. -/
  | decimal (written : String)
  | str (text : Option String)
  | arr (elements : List Json)
  | obj (members : List (Option String × Json))

namespace Json

/-- A string value. -/
def text (s : String) : Json := .str (some s)

/-- An integer value. -/
def nat (n : Nat) : Json := .int n

/-- An object with the given members. -/
def record (members : List (String × Json)) : Json :=
  .obj (members.map fun m => (some m.1, m.2))

/-- The value of the last member with the given key. -/
def get? (j : Json) (key : String) : Option Json :=
  match j with
  | .obj members => (members.reverse.find? fun m => m.1 == some key).map Prod.snd
  | _ => none

/-- The natural number of an integer value. -/
def toNat? : Json → Option Nat
  | .int (.ofNat n) => some n
  | _ => none

/-- The text of a string value. -/
def toText? : Json → Option String
  | .str s => s
  | _ => none

/-- The elements of an array. -/
def toList? : Json → Option (List Json)
  | .arr elements => some elements
  | _ => none

/-- The values of the members with the given key, in order. -/
def membersOf (key : String) (members : List (Option String × Json)) : List Json :=
  (members.filter fun m => m.1 == some key).map Prod.snd

/-- The value of a field that may be missing but not be given twice; the outer option fails. -/
def single : List Json → Option (Option Json)
  | [] => some none
  | [j] => some (some j)
  | _ => none

/-- The fields of a record, in the order of `names`. A record is an object, whose other members
count for nothing, or an array of the fields in order, of which the last ones may be missing. -/
def fields? (names : List String) : Json → Option (List (Option Json))
  | .obj members =>
    if members.any fun m => m.1.isNone then none
    else names.mapM fun name => single (membersOf name members)
  | .arr elements =>
    if names.length < elements.length then none
    else some (elements.map some ++ List.replicate (names.length - elements.length) none)
  | _ => none

end Json

end ExprMachine
