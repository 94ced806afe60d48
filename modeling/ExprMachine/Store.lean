import ExprMachine.Fault
import ExprMachine.Hash.Keccak
import ExprMachine.Table

/-!
# Stores

A store keeps a word for every caller and key. A slot without an entry reads as zero, and writing
zero removes the entry. A store may refuse to read some keys, to write some keys and to write some
values, whoever asks; a store that refuses nothing is an ordinary one.

`Store.commit` applies a list of writes as a whole. It first reads what every key held; if a write
is refused, the writes before it are undone in reverse order. An undo can be refused too, and is
then passed over and reported.
-/

namespace ExprMachine

/-- Where a word is kept. -/
structure Slot where
  caller : Word
  key : Word
  deriving DecidableEq

instance : Ranked Word where
  rank w := w.toNat
  rank_inj h := BitVec.eq_of_toNat_eq h

/-- Slots go by caller, then by key. -/
instance : Ranked Slot where
  rank s := s.caller.toNat * Word.bound + s.key.toNat
  rank_inj := by
    intro a b h
    obtain ⟨ac, ak⟩ := a
    obtain ⟨bc, bk⟩ := b
    have := ak.isLt
    have := bk.isLt
    simp only [Word.bound] at h
    have hk : ak.toNat = bk.toNat := by omega
    have hc : ac.toNat = bc.toNat := by omega
    rw [BitVec.eq_of_toNat_eq hk, BitVec.eq_of_toNat_eq hc]

/-- What a store refuses. -/
structure Refusals where
  /-- Keys that are not read. -/
  reads : List Word
  /-- Keys that are not written. -/
  writes : List Word
  /-- Values that are not written. -/
  values : List Word
  deriving DecidableEq

/-- Refuses nothing. -/
def Refusals.none : Refusals := ⟨[], [], []⟩

/-- A word for every slot. -/
structure Store where
  entries : Table Slot Word
  refusals : Refusals

/-- What came of a commit. -/
structure Commit where
  outcome : Except StoreFault Unit
  store : Store
  /-- The undos that were refused, in the order in which they were tried. -/
  failedUndos : List StoreFault

namespace Store

/-- A store without entries. -/
def empty (refusals : Refusals) : Store := ⟨.empty, refusals⟩

/-- Writes a word, whatever the store refuses. -/
def put (s : Store) (caller key value : Word) : Store :=
  if value.isZero then { s with entries := s.entries.erase ⟨caller, key⟩ }
  else { s with entries := s.entries.insert ⟨caller, key⟩ value }

/-- The word that a slot holds, whatever the store refuses. -/
def peek (s : Store) (caller key : Word) : Word :=
  (s.entries.get? ⟨caller, key⟩).getD 0#256

/-- Reads a word. -/
def get (s : Store) (caller key : Word) : Except StoreFault Word :=
  if key ∈ s.refusals.reads then .error (.readRefused key) else .ok (s.peek caller key)

/-- Writes a word. -/
def set (s : Store) (caller key value : Word) : Except StoreFault Store :=
  if key ∈ s.refusals.writes ∨ value ∈ s.refusals.values then .error (.writeRefused key)
  else .ok (s.put caller key value)

/-- What the keys of `writes` hold now, in order. -/
def priors (s : Store) (caller : Word) (writes : List (Word × Word)) :
    Except StoreFault (List (Word × Word)) :=
  writes.mapM fun w => do return (w.1, ← s.get caller w.1)

/-- Writes one value after the other; a write that is refused is passed over and reported. -/
def restore (s : Store) (caller : Word) : List (Word × Word) → Store × List StoreFault
  | [] => (s, [])
  | (key, value) :: rest =>
    match s.set caller key value with
    | .ok s' => s'.restore caller rest
    | .error e =>
      let (s', faults) := s.restore caller rest
      (s', e :: faults)

/-- Applies writes in order, each paired with what its key held; `done` are the earlier ones' keys
and what they held, last first. -/
def applyAll (s : Store) (caller : Word) (done : List (Word × Word)) :
    (writes priors : List (Word × Word)) → Commit
  | (key, value) :: writes, prior :: priors =>
    match s.set caller key value with
    | .ok s' => s'.applyAll caller (prior :: done) writes priors
    | .error e =>
      let (s', faults) := s.restore caller done
      ⟨.error e, s', faults⟩
  | _, _ => ⟨.ok (), s, []⟩

/-- A key of one of several flows that share a caller: no two flows' keys are meant to meet. -/
def namespacedKey (flow key : Word) : Word := Keccak.ofWords [flow, key]

/-- Applies writes as a whole. -/
def commit (s : Store) (caller : Word) (writes : List (Word × Word)) : Commit :=
  match s.priors caller writes with
  | .ok priors => s.applyAll caller [] writes priors
  | .error e => ⟨.error e, s, []⟩

end Store

end ExprMachine
