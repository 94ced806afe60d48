import ExprMachine.Bytecode.Bundle
import ExprMachine.Config.File
import ExprMachine.Context
import ExprMachine.Json.Reader
import ExprMachine.Text.Quoted
import ExprMachine.Word.Literal

/-!
# Inputs of the command line

A bundle is a JSON record with `sources`, hexadecimal strings, and `constants`, word literals; a
context is a JSON array of rows of word literals; a caller is 32 bytes in hexadecimal. Hexadecimal
may start with 0x, any number of times.
-/

namespace ExprMachine

/-- The wording of a fault in hexadecimal; a byte is shown as the character of that code. -/
def Hex.Fault.message : Hex.Fault → String
  | .oddLength => "Odd number of digits"
  | .badDigit byte position =>
    "Invalid character " ++ Text.quotedChar (Char.ofNat byte.toNat)
      ++ s!" at position {position}"

namespace CommandLine

/-- Why a command failed. -/
inductive Failure where
  | config (fault : Config.LoadFault)
  /-- The log filter cannot be used. -/
  | logFilter
  | unreadable (path : String) (fault : ReadFault)
  /-- Not JSON, or JSON of the wrong shape. -/
  | json
  | sourceHex (index : Nat) (fault : Hex.Fault)
  | sourceBytes (index : Nat) (fault : ExprMachine.Fault)
  | badWord (message : String)
  | callerHex (fault : Hex.Fault)
  | callerLength (length : Nat)
  | defect (cause : Defect)
  | machine (cause : ExprMachine.Fault)

/-- A message with what caused it. -/
def causedBy (message cause : String) : String := message ++ "\n\nCaused by:\n    " ++ cause

/-- The wording of a failure. -/
def Failure.message : Failure → String
  | .config (.unreadable fault) => fault.message
  | .config .malformed => "malformed configuration"
  | .logFilter => "log filter cut inside of a character"
  | .unreadable path fault => causedBy ("reading " ++ path) fault.message
  | .json => "malformed JSON"
  | .sourceHex index fault => causedBy s!"source {index}: bad hex" fault.message
  | .sourceBytes index fault => s!"source {index}: {fault.message}"
  | .badWord message => message
  | .callerHex fault => fault.message
  | .callerLength length => s!"caller must be 32 bytes, got {length}"
  | .defect cause => cause.message
  | .machine (.integrity cause) =>
    causedBy (ExprMachine.Fault.integrity cause).message cause.message
  | .machine cause => cause.message

/-- The exit code of a failure. -/
def Failure.exitCode : Failure → UInt32
  | .logFilter => 101
  | _ => 1

/-- Characters without any 0x in front. -/
def dropMarks : List Char → List Char
  | '0' :: 'x' :: cs => dropMarks cs
  | cs => cs

/-- The bytes of a hexadecimal text, which may start with 0x. -/
def hexBytes (text : String) : Except Hex.Fault Bytes :=
  Hex.decode (String.ofList (dropMarks text.toList))

/-- The JSON value of a file. -/
def readJson (files : String → Except ReadFault Bytes) (path : String) : Except Failure Json :=
  match readText (files path) with
  | .error fault => .error (.unreadable path fault)
  | .ok text =>
    match Json.parse? text with
    | some j => .ok j
    | none => .error .json

/-- An array of strings. -/
def texts? (j : Json) : Option (List String) := do (← j.toList?).mapM Json.toText?

/-- The sources and constants of a bundle file, as written. -/
def bundleFields? (j : Json) : Option (List String × List String) := do
  match ← j.fields? ["sources", "constants"] with
  | [some sources, some constants] => return (← texts? sources, ← texts? constants)
  | [some sources, none] => return (← texts? sources, [])
  | _ => none

/-- Sources in hexadecimal, of which the first has the given index. -/
def decodeSources : (index : Nat) → List String → Except Failure (List Source)
  | _, [] => .ok []
  | index, text :: texts =>
    match hexBytes text with
    | .error fault => .error (.sourceHex index fault)
    | .ok bytes =>
      match Source.decode bytes with
      | .error fault => .error (.sourceBytes index fault)
      | .ok source => do return source :: (← decodeSources (index + 1) texts)

/-- Word literals. -/
def parseWords (literals : List String) : Except Failure (List Word) :=
  literals.mapM fun literal =>
    match Word.parse literal with
    | .ok w => .ok w
    | .error message => .error (.badWord message)

/-- The bundle of a file. -/
def loadBundle (files : String → Except ReadFault Bytes) (path : String) : Except Failure Bundle := do
  match bundleFields? (← readJson files path) with
  | none => throw .json
  | some (sources, constants) =>
    let sources ← decodeSources 0 sources
    return ⟨sources, ← parseWords constants⟩

/-- The context of a file, or an empty one if no file is given. -/
def loadContext (files : String → Except ReadFault Bytes) : Option String → Except Failure Context
  | none => .ok .empty
  | some path => do
    match (← readJson files path).toList?.bind (·.mapM texts?) with
    | none => throw .json
    | some rows => return ⟨← rows.mapM parseWords⟩

/-- The caller with the given bytes, or the one whose bytes are zero. -/
def parseCaller : Option String → Except Failure Word
  | none => .ok 0#256
  | some text =>
    match hexBytes text with
    | .error fault => .error (.callerHex fault)
    | .ok bytes =>
      if bytes.length = 32 then .ok (Word.ofBytes bytes) else .error (.callerLength bytes.length)

end CommandLine

end ExprMachine
