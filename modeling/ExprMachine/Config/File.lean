import ExprMachine.Config
import ExprMachine.Files
import ExprMachine.Notice
import ExprMachine.Toml.Reader

/-!
# Configuration files

A configuration file is a TOML document with the sections `limits`, `gas` and `observability`. What
is missing has its standard value, and what is unknown counts for nothing.

A section is a table, or an array of its fields in order. A date holds none of a section's fields,
and is taken for an empty section.
-/

namespace ExprMachine

namespace Config

open Toml (Node Members)

/-- The fields of a section, in the order of `names`; none if the value is no section. -/
def sectionFields? (names : List String) : Node → Option (List (Option Node))
  | .table _ members => some (names.map fun name => Toml.find? name members)
  | .list elements => some ((List.range names.length).map fun i => elements[i]?)
  | .tables elements =>
    some ((List.range names.length).map fun i => elements[i]?.map (Node.table .header))
  | .time => some (names.map fun _ => none)
  | _ => none

/-- The fields of a document's section. -/
def fieldsOf? (document : Members) (name : String) (names : List String) :
    Option (List (Option Node)) :=
  match Toml.find? name document with
  | some node => sectionFields? names node
  | none => some (names.map fun _ => none)

/-- A number that is not negative. -/
def nat? : Node → Option Nat
  | .int (.ofNat n) => some n
  | _ => none

/-- A string. -/
def text? : Node → Option String
  | .text s => some s
  | _ => none

/-- The sink with the given name. -/
def sinkNamed? (name : String) : Option DebugSink :=
  if name == DebugSink.log.name then some .log
  else if name == DebugSink.discard.name then some .discard
  else none

/-- A value that holds nothing. -/
def isEmpty : Node → Bool
  | .list elements => elements.isEmpty
  | .table _ members => members.isEmpty
  | .tables elements => elements.isEmpty
  | _ => false

/-- A sink: its name, or a table whose only key is its name and whose only value is empty. -/
def sink? : Node → Option DebugSink
  | .text name => sinkNamed? name
  | .table _ [(name, node)] => if isEmpty node then sinkNamed? name else none
  | _ => none

/-- A field's value, or the given one if the field is missing. -/
def valueOr {α : Type} (read : Node → Option α) (standard : α) : Option Node → Option α
  | some node => read node
  | none => some standard

/-- The configuration of a document. -/
def ofDocument? (document : Members) : Option Config := do
  match ← fieldsOf? document "limits" ["max_stack", "max_call_depth"],
      ← fieldsOf? document "gas" ["limit"],
      ← fieldsOf? document "observability" ["log_level", "debug_sink"] with
  | [maxStack, maxCallDepth], [gasLimit], [logLevel, debugSink] =>
    return ⟨← valueOr nat? standard.maxStack maxStack,
      ← valueOr nat? standard.maxCallDepth maxCallDepth,
      ← valueOr nat? standard.gasLimit gasLimit,
      ← valueOr text? standard.logLevel logLevel,
      ← valueOr sink? standard.debugSink debugSink⟩
  | _, _, _ => none

/-- Why no configuration can be loaded. -/
inductive LoadFault where
  | unreadable (fault : ReadFault)
  /-- Not TOML, or a value of the wrong kind. -/
  | malformed
  deriving DecidableEq

/-- The configuration of a file. There is none where no file can be found, and the standard one
holds. -/
def load (file : Except ReadFault Bytes) : Except LoadFault Config :=
  match readText file with
  | .ok text =>
    match (Toml.parse? text).bind ofDocument? with
    | some config => .ok config
    | none => .error .malformed
  | .error .isDirectory => .error (.unreadable .isDirectory)
  | .error .notText => .error (.unreadable .notText)
  | .error _ => .ok standard

/-- What loading a configuration reports. -/
def notices (c : Config) : List Notice :=
  if Limits.depthCap < c.maxCallDepth then [.depthClamped c.maxCallDepth] else []

/-- A file with the standard configuration. -/
def exampleFile : String :=
  "# IONA expression interpreter configuration\n" ++
  "# All values shown are defaults.\n" ++
  "\n" ++
  "[limits]\n" ++
  "max_stack      = 1024   # words per stack frame\n" ++
  "max_call_depth = 32     # nested call / loop-n / do-while frames (max 128)\n" ++
  "\n" ++
  "[gas]\n" ++
  "limit = 10000000        # per top-level evaluation; the only bound on do-while\n" ++
  "\n" ++
  "[observability]\n" ++
  "log_level  = \"info\"     # trace | debug | info | warn | error\n" ++
  "debug_sink = \"tracing\"  # tracing | none\n"

end Config

end ExprMachine
