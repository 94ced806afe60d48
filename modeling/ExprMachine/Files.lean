import ExprMachine.Bytes

/-!
# Files

What reading a file can give (`ReadFault`, `readText`), and a folder of files that is read without
touching a disk. A path is cut at slashes and followed part by part, from the folder or, if it
starts with a slash, from the root of the system. A path that is too long as a whole is refused
before it is followed.

`Folder` is there to test the command line on files that are given as data. The program itself reads
the files of the system (`Main.lean`), and no statement of the library is about folders.
-/

namespace ExprMachine

/-- Why a file cannot be read. -/
inductive ReadFault where
  | notFound
  | isDirectory
  | notADirectory
  | nameTooLong
  /-- The bytes are not UTF-8. -/
  | notText
  deriving DecidableEq

/-- The wording of a fault. -/
def ReadFault.message : ReadFault → String
  | .notFound => "No such file or directory (os error 2)"
  | .isDirectory => "Is a directory (os error 21)"
  | .notADirectory => "Not a directory (os error 20)"
  | .nameTooLong => "File name too long (os error 36)"
  | .notText => "stream did not contain valid UTF-8"

/-- The text of a file's bytes. -/
def readText (file : Except ReadFault Bytes) : Except ReadFault String := do
  match Bytes.toText? (← file) with
  | some text => return text
  | none => throw .notText

/-- Files by their names; a name with slashes stands in folders. -/
abbrev Folder := List (String × Bytes)

namespace Folder

/-- The number of bytes that a path has at most. -/
def pathCap : Nat := 4095

/-- The number of bytes that a part of a path has at most. -/
def partCap : Nat := 255

/-- What stands at the end of a path. -/
inductive Place where
  /-- The folder itself or one inside of it. -/
  | folder (parts : List String)
  /-- A folder that the folder is in. -/
  | above
  /-- A folder of the system, by its path from the root. -/
  | system (parts : List String)
  | file (bytes : Bytes)

/-- The folders that every system has, besides its root. -/
def systemFolders : List (List String) := [["dev"], ["etc"], ["tmp"], ["usr"]]

/-- The file that holds nothing. -/
def nullDevice : List String := ["dev", "null"]

/-- The name of a place inside of the folder. -/
def nameOf (parts : List String) : String := "/".intercalate parts

/-- What stands under a name inside of the folder. -/
def enter (f : Folder) (parts : List String) : Except ReadFault Place :=
  match f.lookup (nameOf parts) with
  | some bytes => .ok (.file bytes)
  | none =>
    if f.any fun entry => entry.1.startsWith (nameOf parts ++ "/") then .ok (.folder parts)
    else .error .notFound

/-- What stands at a path from the root of the system. -/
def enterSystem (parts : List String) : Except ReadFault Place :=
  if parts = nullDevice then .ok (.file [])
  else if parts ∈ systemFolders then .ok (.system parts)
  else .error .notFound

/-- Goes one part of a path further. Only in a folder is the length of the part looked at. -/
def follow (f : Folder) (place : Place) (part : String) : Except ReadFault Place :=
  match place with
  | .file _ => .error .notADirectory
  | .folder parts =>
    if part == "" || part == "." then .ok place
    else if part == ".." then .ok (if parts.isEmpty then .above else .folder parts.dropLast)
    else if partCap < part.utf8ByteSize then .error .nameTooLong
    else f.enter (parts ++ [part])
  | .above =>
    if part == "" || part == "." || part == ".." then .ok place
    else if partCap < part.utf8ByteSize then .error .nameTooLong
    else .error .notFound
  | .system parts =>
    if part == "" || part == "." then .ok place
    else if part == ".." then .ok (.system parts.dropLast)
    else if partCap < part.utf8ByteSize then .error .nameTooLong
    else enterSystem (parts ++ [part])

/-- Reads the file at a path. -/
def read (f : Folder) (path : String) : Except ReadFault Bytes :=
  if path == "" then .error .notFound
  else if pathCap < path.utf8ByteSize then .error .nameTooLong
  else do
    let start : Place := if path.startsWith "/" then .system [] else .folder []
    match ← (path.splitOn "/").foldlM f.follow start with
    | .file bytes => return bytes
    | _ => throw .isDirectory

end Folder

end ExprMachine
