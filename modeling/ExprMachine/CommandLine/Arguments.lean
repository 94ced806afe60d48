/-!
# Arguments

What the command line asks for. General options stand before the command, and the command's own
options and its file after it, in any order. An option's value is the next argument or what follows
an equals sign; as the next argument it does not start with a dash, unless it is a dash alone. After
two dashes alone every argument is a file. No option but `--min-outputs` is given twice.
-/

namespace ExprMachine

namespace CommandLine

/-- The options before the command. -/
structure General where
  config : Option String
  logLevel : Option String
  gasLimit : Option Nat
  maxCallDepth : Option Nat

/-- The options after the command. -/
structure Specific where
  bundle : Option String
  entrypoint : Option Nat
  /-- None if the option is not given. -/
  minOutputs : Option (List Nat)
  context : Option String
  caller : Option String

/-- A command. -/
inductive Command where
  | check
  | eval
  | printConfig
  deriving DecidableEq

/-- What the arguments ask for. -/
inductive Request where
  | run (general : General) (command : Command) (bundle : String) (specific : Specific)
  | version
  | help
  /-- The arguments make no sense. -/
  | refused

/-- Whether an argument stands for itself and is no option. -/
def isPlain (arg : String) : Bool := !arg.startsWith "-" || arg == "-"

/-- A number of 64 bits, of which a plus sign may stand in front. -/
def number? (text : String) : Option Nat :=
  let digits := match text.toList with
    | '+' :: ds => ds
    | ds => ds
  if digits.isEmpty || !digits.all Char.isDigit then none
  else
    let n := digits.foldl (fun n d => n * 10 + (d.toNat - 48)) 0
    if n < 0x10000000000000000 then some n else none

/-- A path, which is not empty. -/
def path? (text : String) : Option String := if text.isEmpty then none else some text

/-- Sets a field that has not been set. -/
def once {α : Type} (known : Option α) (value : Option α) : Option (Option α) :=
  match known, value with
  | none, some a => some (some a)
  | _, _ => none

/-- An argument of the form `--name` or `--name=value`. -/
def splitLong (arg : String) : String × Option String :=
  let cs := arg.toList
  match cs.dropWhile (· != '=') with
  | _ :: value => (String.ofList (cs.takeWhile (· != '=')), some (String.ofList value))
  | [] => (arg, none)

/-- Sets an option after the command; none if the command has no such option, the value makes no
sense, or the option is given twice. -/
def Specific.set? (s : Specific) (command : Command) (name value : String) : Option Specific :=
  match command, name with
  | .check, "--min-outputs" | .eval, "--min-outputs" => do
    let more ← (value.splitOn ",").mapM number?
    return { s with minOutputs := some (s.minOutputs.getD [] ++ more) }
  | .eval, "--entrypoint" => do return { s with entrypoint := ← once s.entrypoint (number? value) }
  | .eval, "--context" => do return { s with context := ← once s.context (path? value) }
  | .eval, "--caller" => do return { s with caller := ← once s.caller (some value) }
  | _, _ => none

/-- Takes an argument for the file of a command. -/
def Specific.setFile? (s : Specific) (command : Command) (arg : String) : Option Specific :=
  if command = .printConfig then none
  else do return { s with bundle := ← once s.bundle (path? arg) }

/-- What a command is asked for, once all arguments are read. -/
def Specific.finish (s : Specific) (general : General) (command : Command) : Request :=
  match command, s.bundle with
  | .printConfig, _ => .run general command "" s
  | _, some bundle => .run general command bundle s
  | _, none => .refused

/-- Reads the arguments after two dashes. -/
def readFiles (general : General) (command : Command) (s : Specific) : List String → Request
  | [] => s.finish general command
  | arg :: args =>
    match s.setFile? command arg with
    | some s => readFiles general command s args
    | none => .refused

/-- Reads the arguments after a command. -/
def readSpecific (general : General) (command : Command) (s : Specific) : List String → Request
  | [] => s.finish general command
  | "--" :: args => readFiles general command s args
  | arg :: args =>
    if isPlain arg then
      match s.setFile? command arg with
      | some s => readSpecific general command s args
      | none => .refused
    else if arg == "--help" || arg.startsWith "-h" then .help
    else match splitLong arg, args with
      | (name, some value), args =>
        match s.set? command name value with
        | some s => readSpecific general command s args
        | none => .refused
      | (name, none), value :: args =>
        if isPlain value then
          match s.set? command name value with
          | some s => readSpecific general command s args
          | none => .refused
        else .refused
      | (_, none), [] => .refused

/-- Sets an option before the command; none if there is no such option, the value makes no sense, or
the option is given twice. -/
def General.set? (g : General) (name value : String) : Option General :=
  match name with
  | "--config" => do return { g with config := ← once g.config (some value) }
  | "--log-level" => do return { g with logLevel := ← once g.logLevel (some value) }
  | "--gas-limit" => do return { g with gasLimit := ← once g.gasLimit (number? value) }
  | "--max-call-depth" => do return { g with maxCallDepth := ← once g.maxCallDepth (number? value) }
  | _ => none

/-- The command with the given name. -/
def command? (name : String) : Option Command :=
  match name with
  | "check" => some .check
  | "eval" => some .eval
  | "print-config" => some .printConfig
  | _ => none

/-- What `help` is asked for with the given arguments: nothing, or one command, which may be `help`. -/
def readHelp : List String → Request
  | [] => .help
  | [name] => if name == "help" || (command? name).isSome then .help else .refused
  | _ => .refused

/-- Reads the arguments up to the command and those after it. -/
def readGeneral (g : General) : List String → Request
  | [] => .refused
  | arg :: args =>
    if isPlain arg then
      match command? arg with
      | some command => readSpecific g command ⟨none, none, none, none, none⟩ args
      | none => if arg == "help" then readHelp args else .refused
    else if arg == "--version" || arg.startsWith "-V" then .version
    else if arg == "--help" || arg.startsWith "-h" then .help
    else match splitLong arg, args with
      | (name, some value), args =>
        match g.set? name value with
        | some g => readGeneral g args
        | none => .refused
      | (name, none), value :: args =>
        if isPlain value then
          match g.set? name value with
          | some g => readGeneral g args
          | none => .refused
        else .refused
      | (_, none), [] => .refused

/-- What the arguments ask for. -/
def readArguments (args : List String) : Request := readGeneral ⟨none, none, none, none⟩ args

end CommandLine

end ExprMachine
