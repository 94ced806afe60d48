import ExprMachine.Word

/-!
# Keccak-256

The sponge with a rate of 136 bytes over the permutation of 25 lanes of 64 bits, padded with a 1
byte, zeros and a final high bit. Lane `x + 5 * y` stands in column `x` and row `y`.

* `Keccak.digest bs`: the 32-byte digest of a byte string.
* `Keccak.ofWords ws`: the digest of the words' bytes, one word after the other, as a word.
-/

namespace ExprMachine

namespace Keccak

/-- The 25 lanes. -/
abbrev State := Array UInt64

/-- The lane with the given index. -/
def State.lane (s : State) (i : Nat) : UInt64 := s.getD i 0

/-- Rotation of a lane to the left. -/
def rotate (x : UInt64) (n : UInt64) : UInt64 := (x <<< n) ||| (x >>> (64 - n))

/-- The constant of each round. -/
def roundConstants : List UInt64 :=
  [0x0000000000000001, 0x0000000000008082, 0x800000000000808a, 0x8000000080008000,
   0x000000000000808b, 0x0000000080000001, 0x8000000080008081, 0x8000000000008009,
   0x000000000000008a, 0x0000000000000088, 0x0000000080008009, 0x000000008000000a,
   0x000000008000808b, 0x800000000000008b, 0x8000000000008089, 0x8000000000008003,
   0x8000000000008002, 0x8000000000000080, 0x000000000000800a, 0x800000008000000a,
   0x8000000080008081, 0x8000000000008080, 0x0000000080000001, 0x8000000080008008]

/-- How far each lane is rotated. -/
def rotations : Array UInt64 :=
  #[0, 1, 62, 28, 27, 36, 44, 6, 55, 20, 3, 10, 43, 25, 39, 41, 45, 15, 21, 8, 18, 2, 61, 56, 14]

/-- Adds to each lane the parities of two neighbouring columns. -/
def theta (s : State) : State :=
  let parity : State := Array.ofFn fun x : Fin 5 =>
    s.lane x ^^^ s.lane (x + 5) ^^^ s.lane (x + 10) ^^^ s.lane (x + 15) ^^^ s.lane (x + 20)
  let change : State := Array.ofFn fun x : Fin 5 =>
    parity.lane ((x + 4) % 5) ^^^ rotate (parity.lane ((x + 1) % 5)) 1
  Array.ofFn fun i : Fin 25 => s.lane i ^^^ change.lane (i % 5)

/-- Rotates the lanes and moves them: the lane in column `x` and row `y` goes to column `y` and row
`2 * x + 3 * y`. -/
def rhoPi (s : State) : State :=
  Array.ofFn fun i : Fin 25 =>
    let j := (i % 5 + 3 * (i / 5)) % 5 + 5 * (i % 5)
    rotate (s.lane j) (rotations.getD j 0)

/-- Adds to each lane the product of the two that follow it in its row, the first of them negated. -/
def chi (s : State) : State :=
  Array.ofFn fun i : Fin 25 =>
    let row := 5 * (i / 5)
    s.lane i ^^^ ((~~~ s.lane (row + (i + 1) % 5)) &&& s.lane (row + (i + 2) % 5))

/-- One round. -/
def round (s : State) (constant : UInt64) : State :=
  (chi (rhoPi (theta s))).modify 0 (· ^^^ constant)

/-- The permutation: 24 rounds. -/
def permute (s : State) : State := roundConstants.foldl round s

/-- The number of bytes that one permutation takes in. -/
def rate : Nat := 136

/-- The lane of eight bytes, least significant first. -/
def laneOf (bs : Bytes) : UInt64 := bs.foldr (fun b acc => (acc <<< 8) ||| b.toUInt64) 0

/-- The eight bytes of a lane, least significant first. -/
def laneBytes (x : UInt64) : Bytes :=
  (List.range 8).map fun i => (x >>> UInt64.ofNat (8 * i)).toUInt8

/-- Adds one block of bytes to the first lanes and permutes. -/
def absorb (s : State) (block : Bytes) : State :=
  permute (s.mapIdx fun i lane => lane ^^^ laneOf ((block.drop (8 * i)).take 8))

/-- Takes in `blocks` blocks, one after the other. -/
def absorbAll : (blocks : Nat) → Bytes → State → State
  | 0, _, s => s
  | blocks + 1, bs, s => absorbAll blocks (bs.drop rate) (absorb s (bs.take rate))

/-- The bytes that fill the last block: a 1, zeros and a final high bit, in one byte if only one is
left. -/
def padding (length : Nat) : Bytes :=
  match rate - length % rate with
  | 0 => []
  | 1 => [0x81]
  | n + 2 => 0x01 :: (List.replicate n 0x00 ++ [0x80])

/-- The 32-byte digest. -/
def digest (bs : Bytes) : Bytes :=
  let s := absorbAll (bs.length / rate + 1) (bs ++ padding bs.length) (Array.replicate 25 0)
  ((List.range 4).map s.lane).flatMap laneBytes

/-- The digest of the words' bytes, one word after the other, as a word. -/
def ofWords (ws : List Word) : Word := Word.ofBytes (digest (ws.flatMap Word.toBytes))

/-- The digest of a text's UTF-8 bytes, as a word. -/
def ofText (text : String) : Word := Word.ofBytes (digest (Bytes.ofText text))

end Keccak

end ExprMachine
