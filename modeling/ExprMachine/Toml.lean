/-!
# TOML documents

A document is a table. How a table came about decides what may still be added to it (`Origin`), so
the nodes of a document keep that while it is read.

* `descend`: goes down a path of keys, making the tables that are missing, and changes the table at
  its end.
* `define`: adds a key under a path of dotted keys.
* `openTable`, `openElement`, `close`: a table header takes a table out of the document, and what
  follows the header is added to it before it is put back.
-/

namespace ExprMachine

namespace Toml

/-- How a table came about. -/
inductive Origin where
  /-- A header of its own, or the document itself. -/
  | header
  /-- A longer header that goes through it. -/
  | passage
  /-- A dotted key. -/
  | dotted
  /-- Braces. -/
  | braces
  deriving DecidableEq

/-- A value of a document. -/
inductive Node where
  | text (s : String)
  | int (n : Int)
  | float
  | bool (b : Bool)
  | time
  | list (elements : List Node)
  | table (origin : Origin) (members : List (String × Node))
  /-- The tables of headers in double brackets. -/
  | tables (elements : List (List (String × Node)))

/-- The members of a table. -/
abbrev Members := List (String × Node)

/-- The value of a key. -/
def find? (key : String) (ms : Members) : Option Node := (ms.find? fun m => m.1 == key).map Prod.snd

/-- Members without a key. -/
def without (key : String) (ms : Members) : Members := ms.filter fun m => m.1 != key

/-- Members with a key's value replaced or added. -/
def put (key : String) (node : Node) (ms : Members) : Members := without key ms ++ [(key, node)]

/-- Goes down a path of keys to a table, whose origin and members `f` sees and whose members it
changes. A table that is missing is made, and in a list of tables the last one is entered. Dotted
keys do not enter a table that has a header of its own. -/
def descend {α : Type} (dotted : Bool) (f : Origin → Members → Option (α × Members)) :
    (path : List String) → Origin → Members → Option (α × Members)
  | [], origin, ms => f origin ms
  | key :: path, _, ms =>
    match find? key ms with
    | none => do
      let origin : Origin := if dotted then .dotted else .passage
      let (a, child) ← descend dotted f path origin []
      return (a, put key (.table origin child) ms)
    | some (.table origin child) =>
      if origin = .braces ∨ (dotted ∧ origin = .header) then none
      else do
        let (a, child) ← descend dotted f path origin child
        return (a, put key (.table origin child) ms)
    | some (.tables elements) => do
      let last ← elements.getLast?
      let (a, last) ← descend dotted f path .header last
      return (a, put key (.tables (elements.dropLast ++ [last])) ms)
    | some _ => none

/-- Adds a key under a path of dotted keys. The key must be new, and the table at the end of a path
must be one that only dotted keys have made. -/
def define (path : List String) (key : String) (node : Node) (ms : Members) : Option Members := do
  let add (origin : Origin) (ms : Members) : Option (Unit × Members) :=
    if (path ≠ [] ∧ origin ≠ .dotted) ∨ (find? key ms).isSome then none
    else some ((), ms ++ [(key, node)])
  return (← descend true add path .header ms).2

/-- A document while it is read: all but the table of the last header, and that table. -/
structure Draft where
  document : Members
  /-- The keys of the last header; none before the first one. -/
  path : List String
  /-- Whether the last header has double brackets. -/
  isElement : Bool
  /-- The members of the last header's table. -/
  current : Members

namespace Draft

/-- Nothing has been read. -/
def blank : Draft := ⟨[], [], false, []⟩

/-- Puts the last header's table back into the document. -/
def close (d : Draft) : Option Members :=
  match d.path.getLast? with
  | none => some d.current
  | some key => do
    let add (_ : Origin) (ms : Members) : Option (Unit × Members) :=
      match find? key ms with
      | none =>
        some ((), put key (if d.isElement then .tables [d.current] else .table .header d.current) ms)
      | some (.tables elements) =>
        if d.isElement then some ((), put key (.tables (elements ++ [d.current])) ms) else none
      | some _ => none
    return (← descend false add d.path.dropLast .header d.document).2

/-- Starts the table of a header. A table that longer headers have gone through keeps what they
added. -/
def openTable (d : Draft) (path : List String) : Option Draft := do
  let document ← d.close
  let key ← path.getLast?
  let take (_ : Origin) (ms : Members) : Option (Members × Members) :=
    match find? key ms with
    | none => some ([], ms)
    | some (.table .passage child) => some (child, without key ms)
    | some _ => none
  let (current, document) ← descend false take path.dropLast .header document
  return ⟨document, path, false, current⟩

/-- Starts a further table of a list. -/
def openElement (d : Draft) (path : List String) : Option Draft := do
  let document ← d.close
  let key ← path.getLast?
  let look (_ : Origin) (ms : Members) : Option (Unit × Members) :=
    match find? key ms with
    | none => some ((), put key (.tables []) ms)
    | some (.tables _) => some ((), ms)
    | some _ => none
  let (_, document) ← descend false look path.dropLast .header document
  return ⟨document, path, true, []⟩

/-- Adds a key to the last header's table. -/
def define (d : Draft) (path : List String) (key : String) (node : Node) : Option Draft := do
  return { d with current := ← Toml.define path key node d.current }

end Draft

end Toml

end ExprMachine
