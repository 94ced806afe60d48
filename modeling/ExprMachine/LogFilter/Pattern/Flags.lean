import ExprMachine.Text

/-!
# Flags of patterns

Flags are set by letters in parentheses. Only three of them change which texts are regular
expressions.
-/

namespace ExprMachine

namespace LogFilter

/-- The flags that hold at a place of a pattern. -/
structure Flags where
  /-- Case is ignored. -/
  insensitive : Bool := false
  /-- What is matched is a character of Unicode, else a byte. -/
  unicode : Bool := true
  /-- White space and remarks in the pattern are passed over. -/
  verbose : Bool := false
  deriving DecidableEq

namespace Flags

/-- Whether no character can be matched: its case is ignored, but other cases of characters are not
known beyond ASCII. -/
def refusesChars (flags : Flags) : Bool := flags.insensitive && flags.unicode

/-! ## Setting flags -/

/-- Switches the flag of a letter on or off. -/
def switch (on : Bool) (flags : Flags) : Char → Flags
  | 'i' => { flags with insensitive := on }
  | 'u' => { flags with unicode := on }
  | 'x' => { flags with verbose := on }
  | _ => flags

/-- The flags after letters that switch on, and behind a dash off. -/
def change (flags : Flags) (letters : List Char) : Flags :=
  let on := letters.takeWhile (· != '-')
  let off := letters.dropWhile (· != '-')
  off.foldl (switch false) (on.foldl (switch true) flags)

/-- Whether letters set flags: each once, with at most one dash, behind which some follow. -/
def areLetters (letters : List Char) : Bool :=
  letters.all (fun c => ['i', 'm', 's', 'U', 'u', 'R', 'x', '-'].contains c)
    && letters.eraseDups.length == letters.length
    && letters.getLast? != some '-'

/-! ## What is passed over -/

/-- Characters without the white space and the remarks in front. A remark starts with a number sign
and ends with its line; `inRemark` says whether one has started. -/
def dropRemarks : (inRemark : Bool) → List Char → List Char
  | _, [] => []
  | true, c :: cs => dropRemarks (c != '\n') cs
  | false, c :: cs =>
    if Text.isBlank c then dropRemarks false cs
    else if c = '#' then dropRemarks true cs
    else c :: cs

/-- Characters without what is passed over in front. -/
def skip (flags : Flags) (cs : List Char) : List Char :=
  if flags.verbose then dropRemarks false cs else cs

/-- The character that is expected next. Of a remark only the number sign is passed over here, so
the character may be one of the remark. -/
def peek (flags : Flags) (cs : List Char) : Option Char :=
  if flags.verbose then
    match cs.dropWhile Text.isBlank with
    | '#' :: rest => (rest.dropWhile Text.isBlank).head?
    | rest => rest.head?
  else cs.head?

end Flags

end LogFilter

end ExprMachine
