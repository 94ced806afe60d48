import ExprMachine.CommandLine.Arguments
import ExprMachine.CommandLine.Inputs
import ExprMachine.Host
import ExprMachine.Json.Printer
import ExprMachine.LogFilter

/-!
# The command line

* `check` checks a bundle and prints its id and what is known of its entrypoints;
* `eval` deploys a bundle in a host with an empty store, evaluates one entrypoint, and prints the
  result as JSON;
* `print-config` prints a configuration file.

Files are read through a function, so that a command is a function of its arguments and of what the
files hold.
-/

namespace ExprMachine

namespace CommandLine

/-- What a command gives: what it prints, or why it failed; or arguments that make no sense. -/
inductive Result where
  | printed (text : String)
  | failed (failure : Failure)
  | refused

/-- The exit code of a result. -/
def Result.exitCode : Result → UInt32
  | .printed _ => 0
  | .failed failure => failure.exitCode
  | .refused => 2

/-- The file that configures a command where no other is named. -/
def standardConfigFile : String := "iona-expr.toml"

/-- What is printed for `--version`. -/
def versionText : String := "iona-expr 0.27.1\n"

/-- What is printed for `--help`. -/
def helpText : String :=
  "usage: iona-expr [--config FILE] [--log-level LEVEL] [--gas-limit N] [--max-call-depth N] COMMAND\n" ++
  "commands:\n" ++
  "  check BUNDLE [--min-outputs N,...]\n" ++
  "  eval BUNDLE [--entrypoint N] [--min-outputs N,...] [--context FILE] [--caller HEX]\n" ++
  "  print-config\n"

/-- A configuration with what the options replace. -/
def General.override (g : General) (config : Config) : Config :=
  { config with
    logLevel := g.logLevel.getD config.logLevel
    gasLimit := g.gasLimit.getD config.gasLimit
    maxCallDepth := g.maxCallDepth.getD config.maxCallDepth }

/-- The configuration of a command: that of the file, with what the options replace. Its log level
is a log filter, which has to be one that can be used. -/
def loadConfig (files : String → Except ReadFault Bytes) (general : General) :
    Except Failure Config :=
  match Config.load (files (general.config.getD standardConfigFile)) with
  | .error fault => .error (.config fault)
  | .ok config =>
    let config := general.override config
    if LogFilter.isUsable config.logLevel then .ok config else .error .logFilter

/-- The numbers of words that entrypoints have to leave. -/
def Specific.mins (s : Specific) : List Nat := s.minOutputs.getD [0]

/-- The line of an entrypoint. -/
def reportLine (r : Integrity.EntrypointReport) : String :=
  s!"entrypoint {r.source}: outputs={r.outputs} max_stack={r.maxStack}\n"

/-- Checks a bundle. -/
def runCheck (config : Config) (bundle : Bundle) (specific : Specific) : Except Failure String :=
  match Integrity.check bundle config.limits specific.mins with
  | .error cause => .error (.defect cause)
  | .ok reports => .ok (s!"id {bundle.id.toHex}\n" ++ String.join (reports.map reportLine))

/-- The JSON value of an evaluation's output. -/
def outputJson (id : ExpressionId) (output : Machine.Output) : Json :=
  let words (ws : List Word) : Json := .arr (ws.map fun w => .text w.toHex)
  .record [("expression", .text id.toHex), ("gas_used", .nat output.gasUsed),
    ("stack", words output.stack),
    ("writes", .arr (output.writes.map fun w => words [w.1, w.2]))]

/-- Deploys a bundle in a new host and evaluates an entrypoint. -/
def runEval (config : Config) (bundle : Bundle) (context : Context) (caller : Word)
    (specific : Specific) : Except Failure String :=
  let deployed := (Host.new config (.empty .none) false).deploy bundle specific.mins
  match deployed.outcome with
  | .error cause => .error (.machine cause)
  | .ok id =>
    match (deployed.host.evaluate id (specific.entrypoint.getD 0) context caller).outcome with
    | .error cause => .error (.machine cause)
    | .ok output => .ok ((outputJson id output).pretty ++ "\n")

/-- Runs a command. -/
def runCommand (files : String → Except ReadFault Bytes) (general : General) (command : Command)
    (path : String) (specific : Specific) : Except Failure String :=
  match command with
  | .printConfig => .ok Config.exampleFile
  | .check => do
    let config ← loadConfig files general
    runCheck config (← loadBundle files path) specific
  | .eval => do
    let config ← loadConfig files general
    let bundle ← loadBundle files path
    let context ← loadContext files specific.context
    let caller ← parseCaller specific.caller
    runEval config bundle context caller specific

/-- Runs what the arguments ask for. -/
def run (files : String → Except ReadFault Bytes) (args : List String) : Result :=
  match readArguments args with
  | .refused => .refused
  | .version => .printed versionText
  | .help => .printed helpText
  | .run general command path specific =>
    match runCommand files general command path specific with
    | .ok text => .printed text
    | .error failure => .failed failure

/-- The files that the arguments name. -/
def pathsOf (args : List String) : List String :=
  match readArguments args with
  | .run general command path specific =>
    match command with
    | .printConfig => []
    | .check => [general.config.getD standardConfigFile, path]
    | .eval => [general.config.getD standardConfigFile, path] ++ specific.context.toList
  | _ => []

end CommandLine

end ExprMachine
