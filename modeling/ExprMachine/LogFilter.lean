import ExprMachine.LogFilter.Value
import ExprMachine.Text

/-!
# Log filters

What goes into the log is chosen by a filter: directives with commas between them. A directive is a
level, or a target, a span in brackets with a field in braces, an equals sign and a level, of which
most may be missing. A directive that makes no sense is passed over.

A directive is read without the white space around it, but its parts are cut out of the text as it
was written, at the places where they were read. White space in front moves the cuts, and a cut can
then fall inside of a character. Such a filter cannot be used at all (`isUsable`).
-/

namespace ExprMachine

namespace LogFilter

/-- What is being read, and where it starts. -/
inductive State where
  | start
  /-- A level or a target. -/
  | name
  | span (first : Nat)
  | field (first : Nat)
  /-- A field was closed. -/
  | fields
  /-- A span was closed. -/
  | target
  | level (first : Nat)

/-- Why a directive counts for nothing. -/
inductive Trouble where
  /-- It makes no sense. -/
  | passedOver
  /-- A part of it cannot be cut out. -/
  | badCut
  deriving DecidableEq

/-- A part of a directive as it was written. -/
def part (written : List Char) (first last : Nat) : Except Trouble (List Char) :=
  match Text.slice written first last with
  | some cs => .ok cs
  | none => .error .badCut

/-- Whether a directive that names a level or a target may start with a character. -/
def startsName (c : Char) : Bool := c == '-' || c == ':' || c == '_' || Text.isAlphanumeric c

/-- Whether a text is a field: a name, or a name and a value after an equals sign. -/
def isField (cs : List Char) : Bool :=
  match cs.dropWhile (· != '=') with
  | _ :: value => !cs.isEmpty && isValue (value.takeWhile (· != '='))
  | [] => !cs.isEmpty

/-- Reads one character, which stands at the given place. -/
def step (written : List Char) (state : State) (place : Nat) (c : Char) : Except Trouble State :=
  match state with
  | .start =>
    if c = '[' then .ok (.span (place + 1))
    else if startsName c then .ok .name
    else .error .passedOver
  | .name =>
    if c = '=' then (fun _ => .level (place + 1)) <$> part written 0 place
    else if c = '[' then (fun _ => .span (place + 1)) <$> part written 0 place
    else .ok .name
  | .span first =>
    if c = ']' then (fun _ => .target) <$> part written first place
    else if c = '\x7b' then (fun _ => .field (place + 1)) <$> part written first place
    else .ok state
  | .field first =>
    if c = '\x7d' then
      match part written first place with
      | .ok cs => if isField cs then .ok .fields else .error .passedOver
      | .error e => .error e
    else .ok state
  | .fields => if c = ']' then .ok .target else .error .passedOver
  | .target => if c = '=' then .ok (.level (place + 1)) else .error .passedOver
  | .level _ => .ok state

/-- Reads characters, of which the first stands at the given place. -/
def readFrom (written : List Char) : (state : State) → (place : Nat) → List Char →
    Except Trouble State
  | state, _, [] => .ok state
  | state, place, c :: cs => do
    let state ← step written state place c
    readFrom written state (place + c.utf8Size) cs

/-- What is wrong with a directive, as far as it matters here: whether its level is one does not. -/
def trouble? (written : List Char) : Option Trouble :=
  match readFrom written .start 0 (Text.trim written) with
  | .error e => some e
  | .ok (.level first) => if (Text.dropBytes written first).isSome then none else some .badCut
  | .ok .name => none
  | .ok .target => none
  | .ok _ => some .passedOver

/-- Whether all parts of a filter's directives can be cut out. -/
def isUsable (filter : String) : Bool :=
  (filter.splitOn ",").all fun written => trouble? written.toList != some .badCut

end LogFilter

end ExprMachine
