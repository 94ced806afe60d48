import ExprMachine.Bytes
import ExprMachine.Text
import Mathlib.Data.List.TakeWhile

/-!
# Texts without their margins, and as bytes

* `Text.trim_margins`: trimming drops the white space around characters that are none.
* `Bytes.ofText_ofList`: a text has the bytes of its characters, one after the other.
* `Bytes.encode_ascii`, `Bytes.encode_not_ascii`: a character with a code below 128 is one byte, its
  code. Any other begins with a byte that is no such code.
-/

namespace ExprMachine

/-! ## Margins -/

namespace Text

theorem trim_margins {before cs after : List Char} (hbefore : ∀ c ∈ before, isBlank c = true)
    (hcs : ∀ c ∈ cs, isBlank c = false) (hafter : ∀ c ∈ after, isBlank c = true) :
    trim (before ++ cs ++ after) = cs := by
  unfold trim
  rw [List.append_assoc, List.dropWhile_append_of_pos hbefore]
  cases cs with
  | nil =>
    rw [List.nil_append, List.dropWhile_eq_nil_iff.mpr hafter]
    rfl
  | cons c cs =>
    have hfront : (c :: cs ++ after).dropWhile isBlank = c :: cs ++ after :=
      List.dropWhile_eq_self_iff.mpr fun _ => by simp [hcs c List.mem_cons_self]
    have hback : (c :: cs).reverse.dropWhile isBlank = (c :: cs).reverse := by
      refine List.dropWhile_eq_self_iff.mpr fun hlen => ?_
      rw [hcs _ (List.mem_reverse.mp (List.getElem_mem hlen))]
      exact Bool.false_ne_true
    rw [hfront, List.reverse_append, List.dropWhile_append_of_pos (by simpa using hafter), hback,
      List.reverse_reverse]

end Text

/-! ## Bytes -/

namespace Bytes

theorem toList_loop (bytes : ByteArray) (i : Nat) (done : List UInt8) :
    ByteArray.toList.loop bytes i done = done.reverse ++ bytes.data.toList.drop i := by
  fun_induction ByteArray.toList.loop bytes i done with
  | case1 i done hlt ih =>
    have hlen : i < bytes.data.toList.length := by simpa using hlt
    have hget : bytes.get! i = bytes.data.toList[i] := by
      show bytes.data[i]! = _
      rw [getElem!_pos bytes.data i hlt, Array.getElem_toList]
    rw [ih, List.drop_eq_getElem_cons hlen, hget, List.reverse_cons, List.append_assoc,
      List.singleton_append]
  | case2 i done hend =>
    rw [List.drop_eq_nil_of_le (by simpa using Nat.le_of_not_lt hend), List.append_nil]

theorem ofText_ofList (cs : List Char) :
    ofText (String.ofList cs) = cs.flatMap String.utf8EncodeChar := by
  show ByteArray.toList.loop (String.ofList cs).toByteArray 0 [] = _
  rw [toList_loop, String.toByteArray_ofList]
  exact List.toList_data_toByteArray

theorem encode_ascii {c : Char} (h : c.toNat < 128) :
    String.utf8EncodeChar c = [UInt8.ofNat c.toNat] := by
  have hle : c.val.toNat ≤ 127 := Nat.lt_succ_iff.mp h
  simp only [String.utf8EncodeChar, hle, ↓reduceIte]
  rfl

theorem encode_not_ascii {c : Char} (h : 128 ≤ c.toNat) :
    ∃ b bs, String.utf8EncodeChar c = b :: bs ∧ 128 ≤ b.toNat := by
  have hgt : ¬ c.val.toNat ≤ 127 := Nat.not_le.mpr h
  simp only [String.utf8EncodeChar, hgt, ↓reduceIte]
  split
  · exact ⟨_, _, rfl, by simp; omega⟩
  · split
    · exact ⟨_, _, rfl, by simp; omega⟩
    · exact ⟨_, _, rfl, by simp; omega⟩

end Bytes

end ExprMachine
