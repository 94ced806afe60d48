import ExprMachine.Bytecode.Bundle
import Mathlib.Algebra.Group.Nat.Defs

/-!
# The encoding of a bundle can be read in one way only

The sections of an encoding follow each other without marks between them, and are of any length.
They can be told apart because each says itself where it ends: a number, an op and a constant have
a fixed width, a source comes after its length in bytes, and a list after the number of its items.

* `SelfDelimiting P f`: bytes that begin with what `f` writes for a value of which `P` holds begin
  so for one such value only, and leave the same rest.
* `SelfDelimiting.of_width`, `SelfDelimiting.items`, `SelfDelimiting.counted`: values of a fixed
  width, a known number of items, and a list with the number of its items before it.
* `Bundle.FitsCounts`: every number that the encoding of a bundle writes fits its four bytes. It is
  only then that a number says how long the section after it is.
* `distinct_bundles_distinct_ids`: the encoding of such a bundle determines it, and so does
  its id, unless the digest maps two encodings to one.
-/

namespace ExprMachine

/-- What `f` writes for a value with `P` says where it ends (module doc). -/
def SelfDelimiting {α : Type} (P : α → Prop) (f : α → Bytes) : Prop :=
  ∀ a b, P a → P b → ∀ rest rest', f a ++ rest = f b ++ rest' → a = b ∧ rest = rest'

/-- The number fits four bytes. -/
def FitsCount (n : Nat) : Prop := n < 2 ^ 32

instance (n : Nat) : Decidable (FitsCount n) := inferInstanceAs (Decidable (n < 2 ^ 32))

theorem Bytes.ofNat_inj (width : Nat) {m n : Nat} (hm : m < Nat.pow 256 width)
    (hn : n < Nat.pow 256 width) (h : ofNat width m = ofNat width n) : m = n := by
  have hread := congrArg toNat h
  rwa [toNat_ofNat, toNat_ofNat, Nat.mod_eq_of_lt hm, Nat.mod_eq_of_lt hn] at hread

namespace SelfDelimiting

variable {α : Type} {P : α → Prop} {f : α → Bytes}

theorem of_width (width : Nat) (hwidth : ∀ a, (f a).length = width)
    (hinj : ∀ a b, P a → P b → f a = f b → a = b) : SelfDelimiting P f := by
  intro a b ha hb rest rest' h
  obtain ⟨hf, hrest⟩ := List.append_inj h (by rw [hwidth, hwidth])
  exact ⟨hinj a b ha hb hf, hrest⟩

theorem count : SelfDelimiting FitsCount (Bytes.ofNat 4) :=
  of_width 4 (Bytes.length_ofNat 4) fun _ _ => Bytes.ofNat_inj 4

/-- As many items on either side. By induction on them: the first item ends at the same place on
both sides, and the others follow. -/
theorem items (hf : SelfDelimiting P f) {xs ys : List α} (hxs : ∀ x ∈ xs, P x)
    (hys : ∀ y ∈ ys, P y) (hlen : xs.length = ys.length) {rest rest' : Bytes}
    (h : xs.flatMap f ++ rest = ys.flatMap f ++ rest') : xs = ys ∧ rest = rest' := by
  induction xs generalizing ys with
  | nil =>
    cases ys with
    | nil => exact ⟨rfl, h⟩
    | cons y ys => simp at hlen
  | cons x xs ih =>
    cases ys with
    | nil => simp at hlen
    | cons y ys =>
      rw [List.flatMap_cons, List.flatMap_cons, List.append_assoc, List.append_assoc] at h
      obtain ⟨rfl, hitems⟩ := hf x y (hxs x List.mem_cons_self) (hys y List.mem_cons_self) _ _ h
      obtain ⟨rfl, hrest⟩ := ih (fun z hz => hxs z (List.mem_cons_of_mem x hz))
        (fun z hz => hys z (List.mem_cons_of_mem x hz)) (by simpa using hlen) hitems
      exact ⟨rfl, hrest⟩

/-- A list with the number of its items before it. -/
theorem counted (hf : SelfDelimiting P f) :
    SelfDelimiting (fun xs : List α => FitsCount xs.length ∧ ∀ x ∈ xs, P x)
      (fun xs => Bytes.ofNat 4 xs.length ++ xs.flatMap f) := by
  intro xs ys hxs hys rest rest' h
  rw [List.append_assoc, List.append_assoc] at h
  obtain ⟨hlen, hitems⟩ := count _ _ hxs.1 hys.1 _ _ h
  exact hf.items hxs.2 hys.2 hlen hitems

end SelfDelimiting

/-! ## Ops, sources and constants -/

theorem Op.length_encode (op : Op) : op.encode.length = 4 := by
  simp [Op.encode]

theorem Op.encode_inj {op op' : Op} (h : op.encode = op'.encode) : op = op' := by
  obtain ⟨opcode, ⟨raw⟩⟩ := op
  obtain ⟨opcode', ⟨raw'⟩⟩ := op'
  obtain ⟨hopcode, hraw⟩ := List.append_inj h (by simp)
  have hsame : opcode = opcode' :=
    UInt16.toNat_inj.mp (Bytes.ofNat_inj 2 opcode.toNat_lt opcode'.toNat_lt hopcode)
  have hsame' : raw = raw' :=
    UInt16.toNat_inj.mp (Bytes.ofNat_inj 2 raw.toNat_lt raw'.toNat_lt hraw)
  rw [hsame, hsame']

/-- Ops of which nothing is asked. -/
theorem selfDelimiting_op : SelfDelimiting (fun _ => True) Op.encode :=
  .of_width 4 Op.length_encode fun _ _ _ _ => Op.encode_inj

theorem Source.length_encode (s : Source) : s.encode.length = 4 * s.ops.length := by
  unfold Source.encode
  induction s.ops with
  | nil => rfl
  | cons op ops ih =>
    rw [List.flatMap_cons, List.length_append, Op.length_encode, ih, List.length_cons]
    omega

/-- The length in bytes gives the number of ops, so that the bytes of two sources that follow it are
those of the same ops. -/
theorem Source.encode_inj {s s' : Source} (h : s.encode = s'.encode) : s = s' := by
  have hlen := congrArg List.length h
  rw [s.length_encode, s'.length_encode] at hlen
  have hbytes : s.ops.flatMap Op.encode ++ [] = s'.ops.flatMap Op.encode ++ [] := by
    rw [List.append_nil, List.append_nil]
    exact h
  have hops := selfDelimiting_op.items (fun _ _ => trivial) (fun _ _ => trivial) (by omega) hbytes
  exact congrArg Source.mk hops.1

theorem selfDelimiting_source :
    SelfDelimiting (fun s => FitsCount s.encode.length) Bundle.encodeSource := by
  intro s s' hs hs' rest rest' h
  unfold Bundle.encodeSource at h
  rw [List.append_assoc, List.append_assoc] at h
  obtain ⟨hlen, hbytes⟩ := SelfDelimiting.count _ _ hs hs' _ _ h
  obtain ⟨hencode, hrest⟩ := List.append_inj hbytes hlen
  exact ⟨Source.encode_inj hencode, hrest⟩

theorem Word.toBytes_inj {v w : Word} (h : v.toBytes = w.toBytes) : v = w :=
  BitVec.eq_of_toNat_eq (Bytes.ofNat_inj 32 v.isLt w.isLt h)

theorem selfDelimiting_word : SelfDelimiting (fun _ => True) Word.toBytes :=
  .of_width 32 (fun w => Bytes.length_ofNat 32 w.toNat) fun _ _ _ _ => Word.toBytes_inj

/-! ## Bundles -/

/-- Every number that the encoding writes fits its four bytes. -/
structure Bundle.FitsCounts (b : Bundle) : Prop where
  sources : FitsCount b.sources.length
  lengths : ∀ s ∈ b.sources, FitsCount s.encode.length
  constants : FitsCount b.constants.length

/-- **Encodings of bundles say where they end.** In particular none is the beginning of another. -/
theorem selfDelimiting_bundle : SelfDelimiting Bundle.FitsCounts Bundle.encode := by
  intro b b' hb hb' rest rest' h
  unfold Bundle.encode at h
  rw [List.append_assoc (_ ++ _) _ rest, List.append_assoc (_ ++ _) _ rest'] at h
  obtain ⟨hsources, htail⟩ := selfDelimiting_source.counted _ _ ⟨hb.sources, hb.lengths⟩
    ⟨hb'.sources, hb'.lengths⟩ _ _ h
  obtain ⟨hconstants, hrest⟩ := selfDelimiting_word.counted _ _
    ⟨hb.constants, fun _ _ => trivial⟩ ⟨hb'.constants, fun _ _ => trivial⟩ _ _ htail
  refine ⟨?_, hrest⟩
  calc b = ⟨b.sources, b.constants⟩ := rfl
    _ = ⟨b'.sources, b'.constants⟩ := by rw [hsources, hconstants]

theorem Bundle.FitsCounts.encode_inj {b b' : Bundle} (hb : b.FitsCounts) (hb' : b'.FitsCounts)
    (h : b.encode = b'.encode) : b = b' :=
  (selfDelimiting_bundle b b' hb hb' [] [] (by rw [List.append_nil, List.append_nil, h])).1

/-- **Encodings and ids tell bundles apart.** Bundles whose numbers fit have the same encoding only
if they are the same, and if the digest keeps their encodings apart they have the same id only then
as well. -/
theorem distinct_bundles_distinct_ids {b b' : Bundle} (hb : b.FitsCounts) (hb' : b'.FitsCounts) :
    (b.encode = b'.encode → b = b') ∧
    ((b.encode ≠ b'.encode → Blake3.digest b.encode ≠ Blake3.digest b'.encode) →
      b ≠ b' → b.id ≠ b'.id) := by
  refine ⟨hb.encode_inj hb', fun hdigest hne hid => ?_⟩
  have hencode : b.encode ≠ b'.encode := fun h => hne (hb.encode_inj hb' h)
  exact hdigest hencode (congrArg ExpressionId.digest hid)

/-- The same op in the first of two sources and in the second, and the word that it reads. -/
theorem op_moved_to_next_source_distinct_id :
    (⟨[⟨[.ofRaw 0 1]⟩, ⟨[]⟩], [7#256]⟩ : Bundle).encode ≠
      (⟨[⟨[]⟩, ⟨[.ofRaw 0 1]⟩], [7#256]⟩ : Bundle).encode ∧
    (⟨[⟨[.ofRaw 0 1]⟩, ⟨[]⟩], [7#256]⟩ : Bundle).id ≠
      (⟨[⟨[]⟩, ⟨[.ofRaw 0 1]⟩], [7#256]⟩ : Bundle).id := by
  have hb : (⟨[⟨[.ofRaw 0 1]⟩, ⟨[]⟩], [7#256]⟩ : Bundle).FitsCounts :=
    ⟨by decide, by decide, by decide⟩
  have hb' : (⟨[⟨[]⟩, ⟨[.ofRaw 0 1]⟩], [7#256]⟩ : Bundle).FitsCounts :=
    ⟨by decide, by decide, by decide⟩
  obtain ⟨hencode, hid⟩ := distinct_bundles_distinct_ids hb hb'
  refine ⟨fun h => absurd (hencode h) (by decide), hid (fun _ => ?_) (by decide)⟩
  decide +kernel

end ExprMachine
