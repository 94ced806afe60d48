import ExprMachine.Fault

/-!
# Stacks

A frame's words, bottom first, of which at most `capacity` fit. Whoever takes words off says who is
asking, for the fault's wording.

The words of the result of each operation:

* `push`: the old ones and the new one;
* `extend`: the old ones and the new ones in order (`pushAll` also says what is left behind when
  they do not all fit: those that did);
* `popN`: all but the last `n`, which are returned in the order in which they were pushed.
-/

namespace ExprMachine

/-- A bounded stack, bottom first. -/
structure Stack where
  words : List Word
  capacity : Nat
  deriving DecidableEq

namespace Stack

/-- A stack without words. -/
def empty (capacity : Nat) : Stack := ⟨[], capacity⟩

/-- A stack with the given words, if they fit. -/
def seeded (words : List Word) (capacity : Nat) : Except Fault Stack :=
  if words.length ≤ capacity then .ok ⟨words, capacity⟩ else .error (.stackOverflow capacity)

/-- The number of words. -/
def height (s : Stack) : Nat := s.words.length

/-- Puts a word on top. -/
def push (s : Stack) (w : Word) : Except Fault Stack :=
  if s.height < s.capacity then .ok { s with words := s.words ++ [w] }
  else .error (.stackOverflow s.capacity)

/-- Pushes words one after the other until one does not fit; the second component is the stack with
all that did. -/
def pushAll (s : Stack) : List Word → Except Fault Unit × Stack
  | [] => (.ok (), s)
  | w :: ws =>
    match s.push w with
    | .ok s' => s'.pushAll ws
    | .error e => (.error e, s)

/-- Pushes words one after the other, if they all fit. -/
def extend (s : Stack) (ws : List Word) : Except Fault Stack :=
  match s.pushAll ws with
  | (.ok _, s') => .ok s'
  | (.error e, _) => .error e

/-- Takes the top word off. -/
def pop (s : Stack) (who : String) : Except Fault (Word × Stack) :=
  match s.words.getLast? with
  | some w => .ok (w, { s with words := s.words.dropLast })
  | none => .error (.stackUnderflow who 1 0)

/-- Takes the top `n` words off, in the order in which they were pushed. -/
def popN (s : Stack) (who : String) (n : Nat) : Except Fault (List Word × Stack) :=
  if n ≤ s.height then
    .ok (s.words.drop (s.height - n), { s with words := s.words.take (s.height - n) })
  else .error (.stackUnderflow who n s.height)

/-- The top `n` words, in the order in which they were pushed. -/
def topN (s : Stack) (who : String) (n : Nat) : Except Fault (List Word) :=
  if n ≤ s.height then .ok (s.words.drop (s.height - n))
  else .error (.stackUnderflow who n s.height)

/-- The word with the given index, counted from the bottom. -/
def get (s : Stack) (index : Nat) : Except Fault Word :=
  match s.words[index]? with
  | some w => .ok w
  | none => .error (.stackReadOutOfRange index s.height)

end Stack

end ExprMachine
