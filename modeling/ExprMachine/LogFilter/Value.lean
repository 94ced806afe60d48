import ExprMachine.LogFilter.Pattern

/-!
# Values of fields

A field of a log filter is compared with a number or with a regular expression. A number is a
regular expression too, except for one with a plus sign.
-/

namespace ExprMachine

namespace LogFilter

/-- Whether a text is an exponent, or nothing. -/
def isExponent : List Char → Bool
  | [] => true
  | e :: cs =>
    let digits := match cs with
      | '+' :: rest => rest
      | '-' :: rest => rest
      | _ => cs
    (e == 'e' || e == 'E') && !digits.isEmpty && digits.all Char.isDigit

/-- Whether a text is a decimal number without a sign. -/
def isDecimal (cs : List Char) : Bool :=
  let whole := cs.takeWhile Char.isDigit
  let rest := cs.dropWhile Char.isDigit
  let (fraction, rest) := match rest with
    | '.' :: rest => (rest.takeWhile Char.isDigit, rest.dropWhile Char.isDigit)
    | _ => ([], rest)
  !(whole.isEmpty && fraction.isEmpty) && isExponent rest

/-- Whether a text is a number with a plus sign. -/
def isPositive : List Char → Bool
  | '+' :: cs =>
    isDecimal cs || ["inf", "infinity", "nan"].contains (String.ofList (cs.map Char.toLower))
  | _ => false

/-- Whether a field may be compared with a text: a number or a regular expression. -/
def isValue (cs : List Char) : Bool := isPositive cs || isPattern cs

end LogFilter

end ExprMachine
