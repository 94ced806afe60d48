import ExprMachine.Proofs.Encoding

/-!
# Sources are read as they were written

A source is a row of ops of four bytes each. Bytes are those of a source exactly if they come in
fours, and then of one source only, whatever its opcodes mean.

* `Op.encode_ofBytes`: four bytes are written again as they were read.
* `Source.encode_opsOf`: so is a row of them. This is the induction, on how the row is read.
* `Source.decode_eq_ok_iff`: bytes are read as the source that is written so. That there is only one
  is `Source.encode_inj`, and nothing else is needed to read back what was written.
* `Source.getElem?_opsOf`: which bytes make up which op, the high byte of a number first. Two codecs
  that swap bytes in the same way are inverse to each other as well; this tells them apart.
-/

namespace ExprMachine

theorem Bytes.toNat_pair (a b : UInt8) : toNat [a, b] = 256 * a.toNat + b.toNat := by
  simp [toNat, Nat.mul_comm]

/-- The number of two bytes has sixteen bits. -/
theorem Bytes.toNat_ofNat_pair (a b : UInt8) :
    (UInt16.ofNat (toNat [a, b])).toNat = toNat [a, b] := by
  have ha := a.toNat_lt
  have hb := b.toNat_lt
  rw [toNat_pair]
  simp only [UInt16.toNat_ofNat']
  omega

/-! ## Ops -/

namespace Op

variable (a b c d : UInt8)

theorem opcode_ofBytes : (ofBytes a b c d).opcode.toNat = Bytes.toNat [a, b] :=
  Bytes.toNat_ofNat_pair a b

theorem operand_ofBytes : (ofBytes a b c d).operand.raw.toNat = Bytes.toNat [c, d] :=
  Bytes.toNat_ofNat_pair c d

theorem encode_ofBytes : (ofBytes a b c d).encode = [a, b, c, d] := by
  unfold encode
  rw [opcode_ofBytes, operand_ofBytes]
  have hopcode : Bytes.ofNat 2 (Bytes.toNat [a, b]) = [a, b] := Bytes.ofNat_toNat [a, b]
  have hoperand : Bytes.ofNat 2 (Bytes.toNat [c, d]) = [c, d] := Bytes.ofNat_toNat [c, d]
  rw [hopcode, hoperand]
  rfl

end Op

/-! ## Sources -/

namespace Source

/-- Bytes that hold no op are fewer than four. -/
theorem length_lt_of_no_op {bs : Bytes}
    (h : ∀ a b c d rest, bs = a :: b :: c :: d :: rest → False) : bs.length < 4 := by
  match bs with
  | [] | [_] | [_, _] | [_, _, _] => simp
  | a :: b :: c :: d :: rest => exact (h a b c d rest rfl).elim

theorem length_opsOf (bs : Bytes) : (opsOf bs).length = bs.length / 4 := by
  fun_induction opsOf bs with
  | case1 a b c d rest ih =>
    simp only [List.length_cons, ih]
    omega
  | case2 bs hshort =>
    have hlt := length_lt_of_no_op hshort
    simp only [List.length_nil]
    omega

/-- Bytes that come in fours are written again as they were read. -/
theorem encode_opsOf {bs : Bytes} (h : bs.length % 4 = 0) : (Source.mk (opsOf bs)).encode = bs := by
  unfold encode
  fun_induction opsOf bs with
  | case1 a b c d rest ih =>
    have hrest : rest.length % 4 = 0 := by
      simp only [List.length_cons] at h
      omega
    rw [List.flatMap_cons, Op.encode_ofBytes, ih hrest]
    rfl
  | case2 bs hshort =>
    have hlt := length_lt_of_no_op hshort
    have hnil : bs.length = 0 := by omega
    rw [List.length_eq_zero_iff.mp hnil, List.flatMap_nil]

theorem decode_eq_ok_iff {bs : Bytes} {s : Source} : decode bs = .ok s ↔ s.encode = bs := by
  constructor
  · intro h
    unfold decode at h
    split at h
    · rename_i hlen
      cases h
      exact encode_opsOf hlen
    · cases h
  · rintro rfl
    have hlen : s.encode.length % 4 = 0 := by
      rw [s.length_encode]
      omega
    unfold decode
    rw [if_pos hlen, encode_inj (encode_opsOf hlen)]

/-- The op at place `k` is made up of the four bytes from place `4 * k` on. -/
theorem getElem?_opsOf {bs : Bytes} {k : Nat} {op : Op} (h : (opsOf bs)[k]? = some op) :
    ∃ a b c d, (bs.drop (4 * k)).take 4 = [a, b, c, d] ∧
      op.opcode.toNat = 256 * a.toNat + b.toNat ∧
      op.operand.raw.toNat = 256 * c.toNat + d.toNat := by
  fun_induction opsOf bs generalizing k with
  | case1 a b c d rest ih =>
    cases k with
    | zero =>
      cases h
      refine ⟨a, b, c, d, rfl, ?_, ?_⟩
      · rw [Op.opcode_ofBytes, Bytes.toNat_pair]
      · rw [Op.operand_ofBytes, Bytes.toNat_pair]
    | succ k =>
      rw [Nat.mul_succ, Nat.add_comm, ← List.drop_drop]
      exact ih h
  | case2 => simp at h

/-- **Reading and writing sources.** Bytes are those of a source exactly if their number is a
multiple of four; they are then written again as they were, and there is one op for each four of
them, with its opcode in the first two and its operand in the others. Whatever is written is read
back. -/
theorem decode_encode_inverse (bs : Bytes) (s : Source) :
    ((∃ t, decode bs = .ok t) ↔ bs.length % 4 = 0) ∧
    (∀ t, decode bs = .ok t → t.encode = bs ∧ t.size = bs.length / 4 ∧
      ∀ k op, t.ops[k]? = some op → ∃ a b c d, (bs.drop (4 * k)).take 4 = [a, b, c, d] ∧
        op.opcode.toNat = 256 * a.toNat + b.toNat ∧
        op.operand.raw.toNat = 256 * c.toNat + d.toNat) ∧
    decode s.encode = .ok s := by
  refine ⟨⟨?_, fun hlen => ⟨_, decode_eq_ok_iff.mpr (encode_opsOf hlen)⟩⟩, fun t ht => ?_,
    decode_eq_ok_iff.mpr rfl⟩
  · rintro ⟨t, ht⟩
    rw [← decode_eq_ok_iff.mp ht, t.length_encode]
    omega
  · have hencode := decode_eq_ok_iff.mp ht
    have hlen : bs.length % 4 = 0 := by
      rw [← hencode, t.length_encode]
      omega
    have hops : t = ⟨opsOf bs⟩ := encode_inj (hencode.trans (encode_opsOf hlen).symm)
    refine ⟨hencode, ?_, fun k op hop => ?_⟩
    · rw [hops]
      exact length_opsOf bs
    · rw [hops] at hop
      exact getElem?_opsOf hop

/-- An opcode without a meaning is read like any other. -/
example : decode [0xff, 0xfe, 0x12, 0x34] = .ok ⟨[.ofRaw 0xfffe 0x1234]⟩ := rfl

end Source

end ExprMachine
