import ExprMachine.Fault
import ExprMachine.Limits
import ExprMachine.Trail

/-!
# Notices

The lines that a host writes to its log, and how severe each is.
-/

namespace ExprMachine

/-- How severe a notice is, most severe first. -/
inductive Severity where
  | error
  | warn
  | info
  | debug
  | trace
  deriving DecidableEq

namespace Severity

/-- The place of a severity, most severe first. -/
def rank : Severity → Nat
  | .error => 0
  | .warn => 1
  | .info => 2
  | .debug => 3
  | .trace => 4

/-- The name at the head of a line. -/
def name : Severity → String
  | .error => "ERROR"
  | .warn => "WARN"
  | .info => "INFO"
  | .debug => "DEBUG"
  | .trace => "TRACE"

/-- The severity with the given lower-case name. -/
def ofName? (name : String) : Option Severity :=
  match name with
  | "error" => some .error
  | "warn" => some .warn
  | "info" => some .info
  | "debug" => some .debug
  | "trace" => some .trace
  | _ => none

end Severity

/-- What a host reports. -/
inductive Notice where
  /-- An op ran or took a snapshot. -/
  | trail (entry : TrailEntry)
  /-- A new bundle was deployed. -/
  | deployed (id : ExpressionId) (sources constants entrypoints : Nat)
  /-- A bundle was deployed again. -/
  | redeployed (id : ExpressionId)
  /-- An evaluation succeeded and was committed. -/
  | evaluated (id : ExpressionId) (entrypoint outputs writes gasUsed : Nat)
  /-- An evaluation failed. -/
  | failed (id : ExpressionId) (entrypoint gasUsed : Nat) (fault : Fault)
  /-- A write could not be undone. -/
  | undoFailed (fault : StoreFault)
  /-- The configured depth is above the cap. -/
  | depthClamped (configured : Nat)

namespace Notice

/-- How severe a notice is. -/
def severity : Notice → Severity
  | .trail (.exec ..) => .trace
  | .trail (.debug _) => .debug
  | .deployed .. => .info
  | .redeployed _ => .debug
  | .evaluated .. => .debug
  | .failed .. => .warn
  | .undoFailed _ => .error
  | .depthClamped _ => .warn

/-- The place of an op, as fields of a line. -/
def siteFields (site : Site) : String :=
  s!"source={site.source} ip={site.ip} depth={site.depth}"

/-- What a notice reports, without its severity. -/
def text : Notice → String
  | .trail (.exec site opcode) => "exec " ++ siteFields site ++ " opcode=\"" ++ opcode ++ "\""
  | .trail (.debug event) =>
    "expr debug mode=" ++ event.mode.name ++ " " ++ siteFields event.site ++ " words="
      ++ ",".intercalate (event.words.map Word.toHex)
  | .deployed id sources constants entrypoints =>
    s!"expression deployed expression={id.toHex} sources={sources} constants={constants} entrypoints={entrypoints}"
  | .redeployed id => s!"redeploy of known expression expression={id.toHex}"
  | .evaluated id entrypoint outputs writes gasUsed =>
    s!"evaluation ok expression={id.toHex} entrypoint={entrypoint} outputs={outputs} writes={writes} gas_used={gasUsed}"
  | .failed id entrypoint gasUsed fault =>
    s!"evaluation failed expression={id.toHex} entrypoint={entrypoint} gas_used={gasUsed} error={fault.message}"
  | .undoFailed fault => s!"store rollback failed error={fault.message}"
  | .depthClamped configured =>
    s!"max_call_depth above hard cap, clamping configured={configured} cap={Limits.depthCap}"

/-- The line of a notice. -/
def line (n : Notice) : String := n.severity.name ++ " " ++ n.text

/-- The lines of the notices that are at least as severe as given. -/
def lines (least : Severity) (notices : List Notice) : List String :=
  (notices.filter fun n => n.severity.rank ≤ least.rank).map line

end Notice

end ExprMachine
