import ExprMachine.Proofs.Locality
import ExprMachine.Proofs.Run.Ahead
import Mathlib.Algebra.Ring.Nat

/-!
# Arithmetic is exact

The arithmetic opcodes fold from the left and look at one word at a time, and each step checks that
its result is a word. What comes out is said here of all inputs at once, and in numbers without a
bound (`Calc.ideal`): a sum, a difference, a quotient by a product. Where the order of the inputs
matters, it shows in the description, as for a product that overflows on the way to zero.

* `within_fold`: a fold of checked steps fails if one of the numbers that it meets is no word, and
  otherwise computes the last of them.
* `divisor_fold`: a fold of divisions fails if one of the divisors is zero.
* `total_fold`: a fold that cannot fail.
* `apply_eq_ideal`: what an opcode computes, from these.
* `arithmetic_exact`: what an op leaves on the stack. Where no order shows in the description, the
  inputs may be permuted (`apply_perm`).
-/

namespace ExprMachine

namespace Calc

/-- What an arithmetic opcode makes of numbers. The arithmetic opcodes are those with a minimum of
two inputs; the first is set apart from the rest. -/
def ideal (c : Calc) (hc : c.variadicMin? = some 2) (first : Nat) (rest : List Nat) :
    Except Fault Nat :=
  match c, hc with
  | .add, _ =>
    if first + rest.sum < Word.bound then .ok (first + rest.sum) else .error (.overflow "add")
  | .sub, _ => if rest.sum ≤ first then .ok (first - rest.sum) else .error (.underflow "sub")
  | .mul, _ =>
    -- All products from the left have to be words: a later zero does not make up for an overflow.
    if ∃ p ∈ rest.scanl (· * ·) first, Word.bound ≤ p then .error (.overflow "mul")
    else .ok (first * rest.prod)
  | .div, _ => if 0 ∈ rest then .error (.divisionByZero "div") else .ok (first / rest.prod)
  | .mod, _ =>
    if 0 ∈ rest then .error (.divisionByZero "mod") else .ok (rest.foldl (· % ·) first)
  | .exp, _ =>
    if ∃ p ∈ rest.scanl (· ^ ·) first, Word.bound ≤ p then .error (.overflow "exp")
    else .ok (rest.foldl (· ^ ·) first)
  | .min, _ => .ok ((first :: rest).min (List.cons_ne_nil _ _))
  | .max, _ => .ok ((first :: rest).max (List.cons_ne_nil _ _))
  | .saturatingAdd, _ => .ok (Min.min (first + rest.sum) (Word.bound - 1))
  | .saturatingSub, _ => .ok (first - rest.sum)
  | .saturatingMul, _ => .ok (Min.min (first * rest.prod) (Word.bound - 1))

/-! ## Single steps -/

theorem toNat_lt_bound (w : Word) : w.toNat < Word.bound := w.isLt

theorem toNat_ofNat_of_lt {n : Nat} (h : n < Word.bound) : (BitVec.ofNat 256 n).toNat = n := by
  rw [BitVec.toNat_ofNat]
  exact Nat.mod_eq_of_lt h

theorem toNat_saturated (n : Nat) : (saturated n).toNat = Min.min n (Word.bound - 1) := by
  unfold saturated
  by_cases hn : n < Word.bound
  · rw [if_pos hn, toNat_ofNat_of_lt hn]
    exact (Nat.min_eq_left (Nat.le_sub_one_of_lt hn)).symm
  · rw [if_neg hn]
    exact (Nat.min_eq_right (Nat.le_trans (Nat.sub_le _ _) (Nat.le_of_not_lt hn))).symm

theorem toNat_lesser (a b : Word) : (lesser a b).toNat = Min.min a.toNat b.toNat := by
  unfold lesser
  split
  · exact (Nat.min_eq_right (by omega)).symm
  · exact (Nat.min_eq_left (by omega)).symm

theorem toNat_greater (a b : Word) : (greater a b).toNat = Max.max a.toNat b.toNat := by
  unfold greater
  split
  · exact (Nat.max_eq_right (by omega)).symm
  · exact (Nat.max_eq_left (by omega)).symm

/-- A power that is not computed is no word: its base is at least two and its exponent at least
256. -/
theorem power_eq (a b : Word) : power a b = within (a.toNat ^ b.toNat) (.overflow "exp") := by
  unfold power
  by_cases hbase : a.toNat ≤ 1
  · rw [if_pos hbase]
    by_cases hb : b.isZero
    · have hzero : b = 0#256 := Word.isZero_iff.mp hb
      subst hzero
      rfl
    · have hne : b.toNat ≠ 0 := fun h => hb (by simp [Word.isZero, h])
      have hpow : a.toNat ^ b.toNat = a.toNat := by
        rcases Nat.le_one_iff_eq_zero_or_eq_one.mp hbase with h | h
        · rw [h, Nat.zero_pow (Nat.pos_of_ne_zero hne)]
        · rw [h, Nat.one_pow]
      rw [if_neg hb, hpow, within, if_pos (toNat_lt_bound a), BitVec.ofNat_toNat,
        BitVec.setWidth_eq]
  · rw [if_neg hbase]
    by_cases hexp : 256 ≤ b.toNat
    · have hlarge : Word.bound ≤ a.toNat ^ b.toNat :=
        calc Word.bound = 2 ^ 256 := by decide
          _ ≤ a.toNat ^ 256 := Nat.pow_le_pow_left (by omega) 256
          _ ≤ a.toNat ^ b.toNat := Nat.pow_le_pow_right (by omega) hexp
      rw [if_pos hexp, within, if_neg (Nat.not_lt.mpr hlarge)]
    · rw [if_neg hexp]
      rfl

/-! ## Folds of checked steps -/

/-- The first of the numbers that a fold meets is the one that it starts from. -/
theorem exists_mem_scanl_cons {g : Nat → Nat → Nat} {P : Nat → Prop} (n k : Nat) (ns : List Nat) :
    (∃ p ∈ (k :: ns).scanl g n, P p) ↔ P n ∨ ∃ p ∈ ns.scanl g (g n k), P p := by
  simp [List.scanl_cons]

theorem mem_scanl_self (g : Nat → Nat → Nat) (n : Nat) (ns : List Nat) : n ∈ ns.scanl g n := by
  cases ns with
  | nil => simp
  | cons k ks => simp

/-- **Checked steps.** The fold fails if it meets a number that is no word. By induction on the
words, and what the fold starts from is a word itself. -/
theorem within_fold {f : Word → Word → Except Fault Word} {g : Nat → Nat → Nat} {e : Fault}
    (hf : ∀ a b, f a b = within (g a.toNat b.toNat) e) (w : Word) (ws : List Word) :
    (ws.foldlM f w).map BitVec.toNat =
      if ∃ p ∈ (ws.map BitVec.toNat).scanl g w.toNat, Word.bound ≤ p then .error e
      else .ok ((ws.map BitVec.toNat).foldl g w.toNat) := by
  induction ws generalizing w with
  | nil =>
    have hword : ¬ ∃ p ∈ [w.toNat], Word.bound ≤ p := by
      simpa using toNat_lt_bound w
    rw [List.map_nil, List.scanl_nil, if_neg hword]
    rfl
  | cons v vs ih =>
    have hword : ¬ Word.bound ≤ w.toNat := Nat.not_le.mpr (toNat_lt_bound w)
    rw [List.foldlM_cons, hf, within]
    simp only [List.map_cons, exists_mem_scanl_cons, List.foldl_cons, hword, false_or]
    by_cases hn : g w.toNat v.toNat < Word.bound
    · rw [if_pos hn]
      have hrest := ih (BitVec.ofNat 256 (g w.toNat v.toNat))
      rwa [toNat_ofNat_of_lt hn] at hrest
    · rw [if_neg hn, if_pos ⟨_, mem_scanl_self g _ _, Nat.le_of_not_lt hn⟩]
      rfl

/-- Sums only grow, so a sum is a word if the last one is. -/
theorem exists_scanl_add_iff (n : Nat) (ns : List Nat) :
    (∃ p ∈ ns.scanl (· + ·) n, Word.bound ≤ p) ↔ ¬ n + ns.sum < Word.bound := by
  induction ns generalizing n with
  | nil => simp
  | cons k ks ih =>
    rw [exists_mem_scanl_cons, ih, List.sum_cons]
    omega

theorem foldl_add (n : Nat) (ns : List Nat) : ns.foldl (· + ·) n = n + ns.sum := by
  induction ns generalizing n with
  | nil => rfl
  | cons k ks ih => rw [List.foldl_cons, ih, List.sum_cons, Nat.add_assoc]

theorem foldl_mul (n : Nat) (ns : List Nat) : ns.foldl (· * ·) n = n * ns.prod := by
  induction ns generalizing n with
  | nil => simp
  | cons k ks ih => rw [List.foldl_cons, ih, List.prod_cons, Nat.mul_assoc]

/-- A difference is a number as long as what was taken off is no more than what there was. -/
theorem difference_fold (w : Word) (ws : List Word) :
    (ws.foldlM difference w).map BitVec.toNat =
      if (ws.map BitVec.toNat).sum ≤ w.toNat then .ok (w.toNat - (ws.map BitVec.toNat).sum)
      else .error (.underflow "sub") := by
  induction ws generalizing w with
  | nil => rfl
  | cons v vs ih =>
    rw [List.foldlM_cons, difference, List.map_cons, List.sum_cons]
    by_cases hle : v.toNat ≤ w.toNat
    · rw [if_pos hle]
      have hrest := ih (BitVec.ofNat 256 (w.toNat - v.toNat))
      rw [toNat_ofNat_of_lt (Nat.lt_of_le_of_lt (Nat.sub_le _ _) (toNat_lt_bound w))] at hrest
      refine hrest.trans ?_
      by_cases hsum : (vs.map BitVec.toNat).sum ≤ w.toNat - v.toNat
      · rw [if_pos hsum, if_pos (by omega), Nat.sub_sub]
      · rw [if_neg hsum, if_neg (by omega)]
    · rw [if_neg hle, if_neg (by omega)]
      rfl

/-! ## Folds of divisions -/

/-- **Divisions.** The fold fails if one of the divisors is zero. -/
theorem divisor_fold {f : Word → Word → Except Fault Word} {g : Nat → Nat → Nat} {e : Fault}
    (hf : ∀ a b, f a b = if b.isZero then .error e else .ok (BitVec.ofNat 256 (g a.toNat b.toNat)))
    (hg : ∀ a b, g a b ≤ a) (w : Word) (ws : List Word) :
    (ws.foldlM f w).map BitVec.toNat =
      if 0 ∈ ws.map BitVec.toNat then .error e
      else .ok ((ws.map BitVec.toNat).foldl g w.toNat) := by
  induction ws generalizing w with
  | nil => rfl
  | cons v vs ih =>
    rw [List.foldlM_cons, hf, List.map_cons, List.foldl_cons]
    by_cases hz : v.isZero
    · have hzero : v = 0#256 := Word.isZero_iff.mp hz
      subst hzero
      rw [if_pos hz, if_pos (by simp)]
      rfl
    · have hne : ¬ 0 = v.toNat := fun h => hz (by simp [Word.isZero, ← h])
      rw [if_neg hz]
      have hrest := ih (BitVec.ofNat 256 (g w.toNat v.toNat))
      rw [toNat_ofNat_of_lt (Nat.lt_of_le_of_lt (hg _ _) (toNat_lt_bound w))] at hrest
      refine hrest.trans ?_
      simp only [List.mem_cons, hne, false_or]

theorem foldl_div (n : Nat) (ns : List Nat) : ns.foldl (· / ·) n = n / ns.prod := by
  induction ns generalizing n with
  | nil => simp
  | cons k ks ih => rw [List.foldl_cons, ih, List.prod_cons, Nat.div_div_eq_div_mul]

/-! ## Folds that cannot fail -/

/-- **Steps that give a word.** -/
theorem total_fold {h : Word → Word → Word} {g : Nat → Nat → Nat}
    (hg : ∀ a b, (h a b).toNat = g a.toNat b.toNat) (w : Word) (ws : List Word) :
    (ws.foldlM (fun a b => Except.ok (ε := Fault) (h a b)) w).map BitVec.toNat =
      .ok ((ws.map BitVec.toNat).foldl g w.toNat) := by
  induction ws generalizing w with
  | nil => rfl
  | cons v vs ih =>
    rw [List.foldlM_cons, List.map_cons, List.foldl_cons, ← hg]
    exact ih (h w v)

theorem foldl_sub (n : Nat) (ns : List Nat) : ns.foldl (· - ·) n = n - ns.sum := by
  induction ns generalizing n with
  | nil => rfl
  | cons k ks ih => rw [List.foldl_cons, ih, List.sum_cons, Nat.sub_sub]

/-- What was cut off from a sum would only have made it greater. -/
theorem foldl_min_add {n top : Nat} (hn : n ≤ top) (ns : List Nat) :
    ns.foldl (fun a b => Min.min (a + b) top) n = Min.min (n + ns.sum) top := by
  induction ns generalizing n with
  | nil => exact (Nat.min_eq_left hn).symm
  | cons k ks ih =>
    rw [List.foldl_cons, ih (Nat.min_le_right _ _), List.sum_cons]
    simp only [Nat.min_def]
    split <;> split <;> split <;> omega

/-- The same of a product, for a factor of zero makes it zero whatever was cut off. -/
theorem foldl_min_mul {n top : Nat} (hn : n ≤ top) (ns : List Nat) :
    ns.foldl (fun a b => Min.min (a * b) top) n = Min.min (n * ns.prod) top := by
  induction ns generalizing n with
  | nil => simpa using (Nat.min_eq_left hn).symm
  | cons k ks ih =>
    rw [List.foldl_cons, ih (Nat.min_le_right _ _), List.prod_cons, ← Nat.mul_assoc]
    by_cases hfits : n * k ≤ top
    · rw [Nat.min_eq_left hfits]
    · rw [Nat.min_eq_right (Nat.le_of_not_le hfits)]
      by_cases hzero : ks.prod = 0
      · rw [hzero, Nat.mul_zero, Nat.mul_zero]
      · have hpos : 1 ≤ ks.prod := Nat.pos_of_ne_zero hzero
        have hcut : top ≤ top * ks.prod := Nat.le_mul_of_pos_right _ hpos
        have hwhole : top ≤ n * k * ks.prod :=
          Nat.le_trans (Nat.le_of_not_le hfits) (Nat.le_mul_of_pos_right _ hpos)
        rw [Nat.min_eq_right hcut, Nat.min_eq_right hwhole]

/-! ## Opcodes -/

/-- **What an arithmetic opcode computes.** -/
theorem apply_eq_ideal (c : Calc) (hc : c.variadicMin? = some 2) (w : Word) (ws : List Word) :
    (c.apply (w :: ws)).map BitVec.toNat = c.ideal hc w.toNat (ws.map BitVec.toNat) := by
  have hw : w.toNat ≤ Word.bound - 1 := Nat.le_sub_one_of_lt (toNat_lt_bound w)
  cases c with
  | add =>
    refine (within_fold (fun _ _ => rfl) w ws).trans ?_
    simp only [exists_scanl_add_iff, foldl_add, ite_not, ideal]
  | sub => exact difference_fold w ws
  | mul =>
    refine (within_fold (fun _ _ => rfl) w ws).trans ?_
    simp only [foldl_mul, ideal]
  | div =>
    refine (divisor_fold (fun _ _ => rfl) Nat.div_le_self w ws).trans ?_
    simp only [foldl_div, ideal]
  | mod => exact divisor_fold (fun _ _ => rfl) Nat.mod_le w ws
  | exp => exact within_fold power_eq w ws
  | min => exact total_fold toNat_lesser w ws
  | max => exact total_fold toNat_greater w ws
  | saturatingAdd =>
    refine (total_fold (g := fun a b => Min.min (a + b) (Word.bound - 1))
      (fun _ _ => toNat_saturated _) w ws).trans ?_
    simp only [foldl_min_add hw, ideal]
  | saturatingSub =>
    refine (total_fold (fun a b => toNat_ofNat_of_lt ?_) w ws).trans ?_
    · exact Nat.lt_of_le_of_lt (Nat.sub_le _ _) (toNat_lt_bound a)
    · simp only [foldl_sub, ideal]
  | saturatingMul =>
    refine (total_fold (g := fun a b => Min.min (a * b) (Word.bound - 1))
      (fun _ _ => toNat_saturated _) w ws).trans ?_
    simp only [foldl_min_mul hw, ideal]
  | hash | lessThan | greaterThan | equalTo | isZero | lessThanOrEqualTo | greaterThanOrEqualTo
  | every | any | eagerIf => cases hc

/-- Opcodes that do not mind in which order the numbers come. -/
theorem ideal_perm {c : Calc} (hc : c.variadicMin? = some 2)
    (hcomm : c ∈ [.add, .saturatingAdd, .saturatingMul, .min, .max]) {n k : Nat} {ns ks : List Nat}
    (h : (n :: ns).Perm (k :: ks)) : c.ideal hc n ns = c.ideal hc k ks := by
  have hsum : n + ns.sum = k + ks.sum := by simpa using h.sum_nat
  have hprod : n * ns.prod = k * ks.prod := by simpa using h.prod_nat
  simp only [List.mem_cons, List.not_mem_nil, or_false] at hcomm
  rcases hcomm with rfl | rfl | rfl | rfl | rfl
  · simp only [ideal, hsum]
  · simp only [ideal, hsum]
  · simp only [ideal, hprod]
  · refine congrArg Except.ok ((List.min_eq_iff _).mpr ⟨?_, fun b hb => ?_⟩)
    · exact h.mem_iff.mpr (List.min_mem _)
    · exact List.min_le_of_mem (h.mem_iff.mp hb)
  · refine congrArg Except.ok ((List.max_eq_iff _).mpr ⟨?_, fun b hb => ?_⟩)
    · exact h.mem_iff.mpr (List.max_mem _)
    · exact List.le_max_of_mem (h.mem_iff.mp hb)

/-- Numbers that are words determine them. -/
theorem map_toNat_inj {x y : Except Fault Word} (h : x.map BitVec.toNat = y.map BitVec.toNat) :
    x = y := by
  cases x with
  | ok a =>
    cases y with
    | ok b => rw [BitVec.eq_of_toNat_eq (Except.ok.inj h)]
    | error e => cases h
  | error e =>
    cases y with
    | ok b => cases h
    | error e' => rw [Except.error.inj h]

theorem apply_perm {c : Calc} (hc : c.variadicMin? = some 2)
    (hcomm : c ∈ [.add, .saturatingAdd, .saturatingMul, .min, .max]) {ws vs : List Word}
    (h : ws.Perm vs) : c.apply ws = c.apply vs := by
  cases ws with
  | nil => rw [h.nil_eq]
  | cons w ws =>
    cases vs with
    | nil => cases h.eq_nil
    | cons v vs =>
      apply map_toNat_inj
      rw [apply_eq_ideal c hc, apply_eq_ideal c hc]
      exact ideal_perm hc hcomm (h.map BitVec.toNat)

theorem inputs_eq_count {c : Calc} (hc : c.variadicMin? = some 2) (operand : Operand) :
    c.inputs operand = operand.count := by
  cases c with
  | hash | add | sub | mul | div | mod | exp | min | max | saturatingAdd | saturatingSub
  | saturatingMul | every | any => rfl
  | lessThan | greaterThan | equalTo | isZero | lessThanOrEqualTo | greaterThanOrEqualTo
  | eagerIf => cases hc

end Calc

/-! ## Ops -/

namespace Machine

variable {σ : Type} [Storage σ]

/-- An arithmetic op on at least two words, opened up as far as what it computes. -/
theorem step_arithmetic (env : Env) (nested : Nested σ) (rounds : Nat) (site : Site) {op : Op}
    {c : Calc} (ho : Opcode.ofId? op.opcode = some (.calc c)) (hc : c.variadicMin? = some 2)
    {below inputs : List Word} {capacity : Nat} (hlen : inputs.length = op.operand.count)
    (htwo : 2 ≤ inputs.length) (hfits : (below ++ inputs).length ≤ capacity) :
    step env nested rounds site op ⟨below ++ inputs, capacity⟩ = (do
      Run.charge c.gas
      Run.trace env (.exec site c.name)
      let word ← c.apply inputs
      pure ⟨below ++ [word], capacity⟩) := by
  have hinputs : inputs.length = Opcode.inputs (.calc c) op.operand :=
    hlen.trans (Calc.inputs_eq_count hc _).symm
  have hadmits : Opcode.admits (.calc c) op.operand = true := by
    simp only [Opcode.admits, Opcode.variadicMin?, hc, decide_eq_true_eq]
    exact hinputs ▸ htwo
  have hroom : below.length + Opcode.outputs (.calc c) op.operand ≤ capacity := by
    rw [List.length_append] at hfits
    simp only [Opcode.outputs]
    omega
  rw [step_of_room env nested rounds site below capacity ho hadmits hinputs hroom]
  simp only [compute, Opcode.gas, Opcode.name, bind_assoc, pure_bind]

/-- **Arithmetic is exact or fails, and never wraps.** An arithmetic op on at least two words that
can be paid for puts in their place the word that is the exact result, or fails with the fault that
stands for it (`Calc.ideal`). Where the exact result does not depend on the order of the inputs,
neither does what the op does. -/
theorem arithmetic_exact (env : Env) (nested : Nested σ) (rounds : Nat) (site : Site) (op : Op)
    {c : Calc} (ho : Opcode.ofId? op.opcode = some (.calc c)) (hc : c.variadicMin? = some 2)
    (below : List Word) (first : Word) (rest : List Word)
    (hlen : (first :: rest).length = op.operand.count) (htwo : 2 ≤ (first :: rest).length)
    (capacity : Nat) (hfits : (below ++ first :: rest).length ≤ capacity) (m : Machine σ)
    (hgas : m.gas.used + c.gas ≤ m.gas.limit) :
    (∃ m', Ahead c.gas m' m ∧
      match c.ideal hc first.toNat (rest.map BitVec.toNat) with
      | .ok n => ∃ word : Word, word.toNat = n ∧
        step env nested rounds site op ⟨below ++ first :: rest, capacity⟩ m =
          .ok ⟨below ++ [word], capacity⟩ m'
      | .error fault =>
        step env nested rounds site op ⟨below ++ first :: rest, capacity⟩ m = .error fault m') ∧
    (c ∈ [.add, .saturatingAdd, .saturatingMul, .min, .max] →
      ∀ inputs : List Word, inputs.Perm (first :: rest) →
        step env nested rounds site op ⟨below ++ inputs, capacity⟩ m =
          step env nested rounds site op ⟨below ++ first :: rest, capacity⟩ m) := by
  constructor
  · obtain ⟨m', hm', hrun⟩ := Run.charge_trace hgas env site c.name
    refine ⟨m', hm', ?_⟩
    rw [step_arithmetic env nested rounds site ho hc hlen htwo hfits, hrun,
      ← Calc.apply_eq_ideal c hc]
    cases c.apply (first :: rest) with
    | ok word => exact ⟨word, rfl, rfl⟩
    | error fault => rfl
  · intro hcomm inputs hperm
    have hcount := hperm.length_eq
    have hfits' : (below ++ inputs).length ≤ capacity := by
      rw [List.length_append] at hfits ⊢
      omega
    rw [step_arithmetic env nested rounds site ho hc hlen htwo hfits,
      step_arithmetic env nested rounds site ho hc (hcount.trans hlen) (hcount.symm ▸ htwo) hfits',
      Calc.apply_perm hc hcomm hperm]

/-- No sources: an arithmetic op runs none. -/
def sourcelessEnv : Env := ⟨⟨[], []⟩, .empty, ⟨4, 1⟩, false⟩

/-- A machine that can pay for two products. -/
def freshMachine : Machine Overlay := ⟨⟨10, 0⟩, .start (.empty .none) 0#256, #[]⟩

/-- An op on the given words, with room for four of them. -/
def stepOn (op : Op) (words : List Word) : EStateM.Result Fault (Machine Overlay) Stack :=
  step sourcelessEnv (openFrame sourcelessEnv (runSource sourcelessEnv 11 0 1)) 11 ⟨0, 0, 0⟩ op
    ⟨words, 4⟩ freshMachine

/-- A product that is cut off on the way to zero is zero, in any order of its factors. One that is
not cut off fails there. -/
theorem product_past_the_bound :
    (∃ m, m.gas.used = 5 ∧
      stepOn (.ofRaw 20 3) [9#256, Word.greatest, 4#256, 0#256] = .ok ⟨[9#256, 0#256], 4⟩ m ∧
      stepOn (.ofRaw 20 3) [9#256, 0#256, Word.greatest, 4#256] = .ok ⟨[9#256, 0#256], 4⟩ m) ∧
    ∃ m, m.gas.used = 5 ∧
      stepOn (.ofRaw 12 3) [9#256, Word.greatest, 4#256, 0#256] = .error (.overflow "mul") m := by
  constructor
  · obtain ⟨⟨m, hm, word, hword, hstep⟩, hperm⟩ := arithmetic_exact sourcelessEnv
      (openFrame sourcelessEnv (runSource sourcelessEnv 11 0 1)) 11 ⟨0, 0, 0⟩ (.ofRaw 20 3)
      (c := .saturatingMul) rfl rfl [9#256] Word.greatest [4#256, 0#256] rfl (by decide) 4
      (by decide) freshMachine (by decide)
    obtain rfl : word = 0#256 := BitVec.eq_of_toNat_eq hword
    exact ⟨m, hm.used, hstep, (hperm (by decide) _ (by decide)).trans hstep⟩
  · obtain ⟨⟨m, hm, hstep⟩, -⟩ := arithmetic_exact sourcelessEnv
      (openFrame sourcelessEnv (runSource sourcelessEnv 11 0 1)) 11 ⟨0, 0, 0⟩ (.ofRaw 12 3)
      (c := .mul) rfl rfl [9#256] Word.greatest [4#256, 0#256] rfl (by decide) 4 (by decide)
      freshMachine (by decide)
    exact ⟨m, hm.used, hstep⟩

end Machine

end ExprMachine
