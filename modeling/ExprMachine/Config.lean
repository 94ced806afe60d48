import ExprMachine.Limits

/-!
# Configuration

What a host is set up with. `Config/File.lean` reads it from a file.
-/

namespace ExprMachine

/-- Where the snapshots of `debug` ops go. -/
inductive DebugSink where
  /-- Into the log. -/
  | log
  /-- Nowhere. -/
  | discard
  deriving DecidableEq

/-- The name of a sink in a configuration file. -/
def DebugSink.name : DebugSink → String
  | .log => "tracing"
  | .discard => "none"

/-- What a host is set up with. -/
structure Config where
  /-- Words in one frame. -/
  maxStack : Nat
  /-- Frames nested in the first one, as configured. -/
  maxCallDepth : Nat
  /-- Gas for one evaluation. -/
  gasLimit : Nat
  logLevel : String
  debugSink : DebugSink
  deriving DecidableEq

namespace Config

/-- What holds where nothing is configured. -/
def standard : Config := ⟨1024, 32, 10000000, "info", .log⟩

/-- The limits of an evaluation. -/
def limits (c : Config) : Limits := Limits.clamped ⟨c.maxStack, c.maxCallDepth⟩

end Config

end ExprMachine
