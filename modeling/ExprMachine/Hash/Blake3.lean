import ExprMachine.Bytes

/-!
# BLAKE3

The default hash: the input is cut into chunks of 1024 bytes and each chunk into blocks of 64; a
chunk's blocks are compressed one after the other, and the chunks' values are the leaves of a binary
tree. At each level neighbours are joined in pairs and a node without a partner moves up as it is,
so that a left subtree is always complete.

A `Node` is the last compression of a chunk or of a pair, not yet done: what it gives depends on
whether the node is the root.
-/

namespace ExprMachine

namespace Blake3

/-- The initial chaining value. -/
def start : List UInt32 :=
  [0x6A09E667, 0xBB67AE85, 0x3C6EF372, 0xA54FF53A, 0x510E527F, 0x9B05688C, 0x1F83D9AB, 0x5BE0CD19]

/-- The order in which each round reads the message words of the round before it. -/
def schedule : List Nat := [2, 6, 3, 10, 7, 0, 4, 13, 1, 11, 12, 5, 9, 14, 15, 8]

/-- The flag of a chunk's first block. -/
def chunkStart : UInt32 := 1

/-- The flag of a chunk's last block. -/
def chunkEnd : UInt32 := 2

/-- The flag of a pair. -/
def parent : UInt32 := 4

/-- The flag of the root. -/
def root : UInt32 := 8

/-- Rotation of a 32-bit word to the right. -/
def rotate (x : UInt32) (n : UInt32) : UInt32 := (x >>> n) ||| (x <<< (32 - n))

/-- Four of the sixteen state words, and the two message words that are mixed into them. -/
structure Quarter where
  a : Nat
  b : Nat
  c : Nat
  d : Nat
  x : Nat
  y : Nat

/-- The columns of the state, then its diagonals. -/
def quarters : List Quarter :=
  [⟨0, 4, 8, 12, 0, 1⟩, ⟨1, 5, 9, 13, 2, 3⟩, ⟨2, 6, 10, 14, 4, 5⟩, ⟨3, 7, 11, 15, 6, 7⟩,
   ⟨0, 5, 10, 15, 8, 9⟩, ⟨1, 6, 11, 12, 10, 11⟩, ⟨2, 7, 8, 13, 12, 13⟩, ⟨3, 4, 9, 14, 14, 15⟩]

/-- Mixes two message words into four state words. -/
def mix (message : Array UInt32) (v : Array UInt32) (q : Quarter) : Array UInt32 :=
  let a := v.getD q.a 0 + v.getD q.b 0 + message.getD q.x 0
  let d := rotate (v.getD q.d 0 ^^^ a) 16
  let c := v.getD q.c 0 + d
  let b := rotate (v.getD q.b 0 ^^^ c) 12
  let a := a + b + message.getD q.y 0
  let d := rotate (d ^^^ a) 8
  let c := c + d
  let b := rotate (b ^^^ c) 7
  (((v.setIfInBounds q.a a).setIfInBounds q.b b).setIfInBounds q.c c).setIfInBounds q.d d

/-- The given number of rounds, each with the message words reordered. -/
def rounds : (count : Nat) → (message v : Array UInt32) → Array UInt32
  | 0, _, v => v
  | count + 1, message, v =>
    rounds count (schedule.map fun i => message.getD i 0).toArray
      (quarters.foldl (mix message) v)

/-- A compression not yet done: a chaining value, a block of 16 words, the number of the chunk, the
block's length in bytes, and flags. -/
structure Node where
  chain : List UInt32
  block : List UInt32
  counter : Nat
  length : Nat
  flags : UInt32

namespace Node

/-- The eight words that a compression gives. -/
def compress (n : Node) : List UInt32 :=
  let v := (n.chain ++ start.take 4 ++
    [UInt32.ofNat n.counter, UInt32.ofNat (n.counter / 0x100000000), UInt32.ofNat n.length, n.flags]).toArray
  let v := rounds 7 n.block.toArray v
  (List.range 8).map fun i => v.getD i 0 ^^^ v.getD (i + 8) 0

/-- The node of two neighbours. -/
def join (left right : Node) : Node :=
  ⟨start, left.compress ++ right.compress, 0, 64, parent⟩

/-- Joins neighbours in pairs. -/
def joinPairs : List Node → List Node
  | a :: b :: rest => join a b :: joinPairs rest
  | rest => rest

/-- Joins level by level, as many levels as given. -/
def joinAll : (levels : Nat) → List Node → List Node
  | 0, nodes => nodes
  | levels + 1, nodes => joinAll levels (joinPairs nodes)

end Node

/-- The word of four bytes, least significant first; missing bytes are zero. -/
def wordOf (bs : Bytes) : UInt32 := bs.foldr (fun b acc => (acc <<< 8) ||| b.toUInt32) 0

/-- The four bytes of a word, least significant first. -/
def wordBytes (x : UInt32) : Bytes :=
  (List.range 4).map fun i => (x >>> UInt32.ofNat (8 * i)).toUInt8

/-- The 16 words of a block of at most 64 bytes. -/
def blockWords (bs : Bytes) : List UInt32 :=
  (List.range 16).map fun i => wordOf ((bs.drop (4 * i)).take 4)

/-- The last compression of a chunk of which `blocks` blocks follow the next one. -/
def chunkNode (counter : Nat) : (blocks : Nat) → (first : UInt32) → (chain : List UInt32) → Bytes → Node
  | 0, first, chain, bs => ⟨chain, blockWords bs, counter, bs.length, first ||| chunkEnd⟩
  | blocks + 1, first, chain, bs =>
    let node : Node := ⟨chain, blockWords (bs.take 64), counter, 64, first⟩
    chunkNode counter blocks 0 node.compress (bs.drop 64)

/-- The leaves: the chunk with the given number, and `chunks` more. -/
def leaves : (chunks counter : Nat) → Bytes → List Node
  | 0, counter, bs => [chunkNode counter ((bs.length - 1) / 64) chunkStart start bs]
  | chunks + 1, counter, bs =>
    chunkNode counter 15 chunkStart start (bs.take 1024) :: leaves chunks (counter + 1) (bs.drop 1024)

/-- The 32-byte digest. -/
def digest (bs : Bytes) : Bytes :=
  let chunks := (bs.length - 1) / 1024
  match Node.joinAll chunks (leaves chunks 0 bs) with
  | node :: _ =>
    let node : Node := { node with counter := 0, flags := node.flags ||| root }
    node.compress.flatMap wordBytes
  | [] => []

end Blake3

end ExprMachine
