import ExprMachine.Hash.Keccak
import ExprMachine.Opcode

/-!
# Computing words

`Calc.apply c ws` is the output of the opcode `c` on the inputs `ws`, first pushed first.

Arithmetic is unsigned and never wraps: a result that is no word is a fault, except that the
saturating opcodes give the nearest word. Variadic arithmetic folds from the left, so that `sub` on
`[a, b, c]` is `a - b - c`. Comparisons and logic take zero for false and give 0 or 1, except that
`every` and `any` give one of their inputs.
-/

namespace ExprMachine

namespace Calc

/-- The word `n`, or a fault if `n` is none. -/
def within (n : Nat) (fault : Fault) : Except Fault Word :=
  if n < Word.bound then .ok (BitVec.ofNat 256 n) else .error fault

/-- The word `n`, or the greatest one. -/
def saturated (n : Nat) : Word :=
  if n < Word.bound then BitVec.ofNat 256 n else Word.greatest

/-- `a + b`. -/
def addition (a b : Word) : Except Fault Word := within (a.toNat + b.toNat) (.overflow "add")

/-- `a - b`, if `b` is not above `a`. -/
def difference (a b : Word) : Except Fault Word :=
  if b.toNat ≤ a.toNat then .ok (BitVec.ofNat 256 (a.toNat - b.toNat)) else .error (.underflow "sub")

/-- `a * b`. -/
def product (a b : Word) : Except Fault Word := within (a.toNat * b.toNat) (.overflow "mul")

/-- The quotient, rounded down. -/
def quotient (a b : Word) : Except Fault Word :=
  if b.isZero then .error (.divisionByZero "div") else .ok (BitVec.ofNat 256 (a.toNat / b.toNat))

/-- The remainder. -/
def remainder (a b : Word) : Except Fault Word :=
  if b.isZero then .error (.divisionByZero "mod") else .ok (BitVec.ofNat 256 (a.toNat % b.toNat))

/-- `a ^ b`, with `0 ^ 0 = 1`. A base of at least 2 to the power of at least 256 is no word. -/
def power (a b : Word) : Except Fault Word :=
  if a.toNat ≤ 1 then .ok (if b.isZero then 1#256 else a)
  else if 256 ≤ b.toNat then .error (.overflow "exp")
  else within (Nat.pow a.toNat b.toNat) (.overflow "exp")

/-- The smaller of two words. -/
def lesser (a b : Word) : Word := if b.toNat < a.toNat then b else a

/-- The greater of two words. -/
def greater (a b : Word) : Word := if a.toNat < b.toNat then b else a

/-- Folds from the left, from the first input. -/
def fold (c : Calc) (f : Word → Word → Except Fault Word) : List Word → Except Fault Word
  | [] => .error (.invalidOperand c.name 0)
  | w :: ws => ws.foldlM f w

/-- The result of a comparison of two inputs. -/
def compare (c : Calc) (f : Nat → Nat → Bool) : List Word → Except Fault Word
  | [a, b] => .ok (Word.ofBool (f a.toNat b.toNat))
  | ws => .error (.stackUnderflow c.name 2 ws.length)

/-- The last input if all are non-zero, and zero otherwise. -/
def everyOf (ws : List Word) : Word :=
  if ws.any Word.isZero then 0#256 else ws.getLastD 0#256

/-- The first input that is non-zero; zero if there is none. -/
def anyOf (ws : List Word) : Word :=
  (ws.find? fun w => !w.isZero).getD 0#256

/-- The output of an opcode on the given inputs. -/
def apply (c : Calc) (ws : List Word) : Except Fault Word :=
  match c with
  | .hash => .ok (Keccak.ofWords ws)
  | .add => fold c addition ws
  | .sub => fold c difference ws
  | .mul => fold c product ws
  | .div => fold c quotient ws
  | .mod => fold c remainder ws
  | .exp => fold c power ws
  | .min => fold c (fun a b => .ok (lesser a b)) ws
  | .max => fold c (fun a b => .ok (greater a b)) ws
  | .saturatingAdd => fold c (fun a b => .ok (saturated (a.toNat + b.toNat))) ws
  | .saturatingSub => fold c (fun a b => .ok (BitVec.ofNat 256 (a.toNat - b.toNat))) ws
  | .saturatingMul => fold c (fun a b => .ok (saturated (a.toNat * b.toNat))) ws
  | .lessThan => compare c (fun a b => a < b) ws
  | .greaterThan => compare c (fun a b => b < a) ws
  | .equalTo => compare c (fun a b => a = b) ws
  | .lessThanOrEqualTo => compare c (fun a b => a ≤ b) ws
  | .greaterThanOrEqualTo => compare c (fun a b => b ≤ a) ws
  | .isZero =>
    match ws with
    | [a] => .ok (Word.ofBool a.isZero)
    | _ => .error (.stackUnderflow c.name 1 ws.length)
  | .every => .ok (everyOf ws)
  | .any => .ok (anyOf ws)
  | .eagerIf =>
    match ws with
    | [condition, ifTrue, ifFalse] => .ok (if condition.isZero then ifFalse else ifTrue)
    | _ => .error (.stackUnderflow c.name 3 ws.length)

end Calc

end ExprMachine
