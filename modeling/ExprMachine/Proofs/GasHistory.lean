import ExprMachine.Gas
import Mathlib.Algebra.Ring.Nat

/-!
# The history of a meter

What a meter says after any number of charges, whatever came of them. As long as every charge fits,
the gas used is the exact sum of the costs. The first one that does not fit spends all that is left,
and from then on only what costs nothing can be paid.

* `Charge`: what can be asked of a meter, with any 64-bit numbers.
* `history`: charges one after another, with the result of each.
* `Meter.pay_of_le`, `Meter.pay_of_lt`: what one charge does. `Meter.history_cases` is what a
  history does, by induction on it.
* `Register`: a meter in two 64-bit registers, with a sum that is checked for overflow and costs
  that saturate. Its history is that of the meter (`Register.history_meter`), whose sums are exact.
-/

namespace ExprMachine

namespace Gas

/-- What can be asked of a meter: to pay an amount, or for a frame that is handed so many words. -/
inductive Charge where
  | amount (cost : UInt64)
  | frame (words : UInt64)

/-- The exact cost of a charge. -/
def Charge.cost : Charge → Nat
  | .amount cost => cost.toNat
  | .frame words => min (2 + words.toNat) (2 ^ 64 - 1)

/-- The total cost of some charges. -/
def total (charges : List Charge) : Nat := (charges.map Charge.cost).sum

/-- Asks a meter to pay. -/
def Meter.pay (m : Meter) : Charge → Except Fault Unit × Meter
  | .amount cost => m.charge cost.toNat
  | .frame words => m.chargeFrame words.toNat

/-- Charges one after another: the result of each, and the meter after them. -/
def history {μ : Type} (pay : μ → Charge → Except Fault Unit × μ) :
    μ → List Charge → List (Except Fault Unit) × μ
  | m, [] => ([], m)
  | m, c :: charges =>
    let (result, m) := pay m c
    let (results, m) := history pay m charges
    (result :: results, m)

section History

variable {μ ν : Type} {pay : μ → Charge → Except Fault Unit × μ}
  {pay' : ν → Charge → Except Fault Unit × ν}

theorem history_cons (m : μ) (c : Charge) (charges : List Charge) :
    history pay m (c :: charges) = ((pay m c).1 :: (history pay (pay m c).2 charges).1,
      (history pay (pay m c).2 charges).2) := rfl

/-- Two meters that step together stay together. -/
theorem history_map {f : μ → ν} (h : ∀ m c, pay' (f m) c = Prod.map id f (pay m c)) (m : μ)
    (charges : List Charge) :
    history pay' (f m) charges = Prod.map id f (history pay m charges) := by
  induction charges generalizing m with
  | nil => rfl
  | cons c charges ih =>
    simp only [history_cons, h, Prod.map_fst, Prod.map_snd, id_eq, ih, Prod.map_apply]

end History

/-! ## Exact meters -/

namespace Meter

variable {m : Meter} {c : Charge}

theorem pay_eq (m : Meter) (c : Charge) : m.pay c = m.charge c.cost := by
  cases c with
  | amount cost => rfl
  | frame words => rfl

/-- A charge that fits is added. -/
theorem pay_of_le (h : m.used + c.cost ≤ m.limit) :
    m.pay c = (.ok (), ⟨m.limit, m.used + c.cost⟩) := by
  rw [pay_eq, charge, if_pos h]

/-- A charge that does not fit spends what is left. -/
theorem pay_of_lt (h : m.limit < m.used + c.cost) :
    m.pay c = (.error .outOfGas, ⟨m.limit, m.limit⟩) := by
  rw [pay_eq, charge, if_neg (Nat.not_le.mpr h)]

theorem pay_eq_ok_iff : (m.pay c).1 = .ok () ↔ m.used + c.cost ≤ m.limit := by
  rcases Nat.lt_or_ge m.limit (m.used + c.cost) with hlt | hle
  · rw [pay_of_lt hlt]
    exact ⟨nofun, fun hle => absurd hle (Nat.not_le.mpr hlt)⟩
  · rw [pay_of_le hle]
    exact ⟨fun _ => hle, fun _ => rfl⟩

theorem used_le_pay (h : m.used ≤ m.limit) (c : Charge) : m.used ≤ (m.pay c).2.used := by
  rcases Nat.lt_or_ge m.limit (m.used + c.cost) with hlt | hle
  · rw [pay_of_lt hlt]
    exact h
  · rw [pay_of_le hle]
    exact Nat.le_add_right _ _

/-- **A history of charges.** All of them fit and are added, or one did not and everything is
spent. -/
theorem history_cases (m : Meter) (h : m.used ≤ m.limit) (charges : List Charge) :
    (m.used + total charges ≤ m.limit ∧ (∀ r ∈ (history pay m charges).1, r = .ok ()) ∧
      (history pay m charges).2 = ⟨m.limit, m.used + total charges⟩) ∨
    ((∃ r ∈ (history pay m charges).1, r ≠ .ok ()) ∧
      (history pay m charges).2 = ⟨m.limit, m.limit⟩) := by
  induction charges generalizing m with
  | nil => exact .inl ⟨h, fun r hr => absurd hr List.not_mem_nil, rfl⟩
  | cons c charges ih =>
    have htotal : total (c :: charges) = c.cost + total charges := List.sum_cons
    rw [history_cons, htotal, ← Nat.add_assoc]
    rcases Nat.lt_or_ge m.limit (m.used + c.cost) with hlt | hfits
    · -- All is spent, so what is paid after this costs nothing.
      rw [pay_of_lt hlt]
      refine .inr ⟨⟨_, List.mem_cons_self, nofun⟩, ?_⟩
      rcases ih ⟨m.limit, m.limit⟩ (Nat.le_refl _) with ⟨hle, -, hafter⟩ | ⟨-, hafter⟩
      · have hzero : total charges = 0 := by
          simp only at hle
          omega
        rw [hafter, hzero, Nat.add_zero]
      · exact hafter
    · rw [pay_of_le hfits]
      rcases ih ⟨m.limit, m.used + c.cost⟩ hfits with ⟨hle, hall, hafter⟩ | ⟨⟨r, hr, hne⟩, hafter⟩
      · refine .inl ⟨hle, fun r hr => ?_, hafter⟩
        rcases List.mem_cons.mp hr with rfl | hr
        · rfl
        · exact hall r hr
      · exact .inr ⟨⟨r, List.mem_cons_of_mem _ hr, hne⟩, hafter⟩

section New

variable (limit : Nat) (charges : List Charge)

/-- A meter that is new is never used past its limit. -/
theorem history_within : (history pay (fresh limit) charges).2.limit = limit ∧
    (history pay (fresh limit) charges).2.used ≤ limit := by
  rcases history_cases (fresh limit) (Nat.zero_le limit) charges with ⟨hle, -, heq⟩ | ⟨-, heq⟩
  · rw [heq]
    exact ⟨rfl, hle⟩
  · rw [heq]
    exact ⟨rfl, Nat.le_refl limit⟩

theorem used_of_all_paid (hall : ∀ r ∈ (history pay (fresh limit) charges).1, r = .ok ()) :
    (history pay (fresh limit) charges).2.used = total charges := by
  rcases history_cases (fresh limit) (Nat.zero_le limit) charges with ⟨-, -, heq⟩ | ⟨hfailed, -⟩
  · rw [heq]
    exact Nat.zero_add _
  · obtain ⟨r, hr, hne⟩ := hfailed
    exact absurd (hall r hr) hne

theorem used_of_one_failed (hfailed : ∃ r ∈ (history pay (fresh limit) charges).1, r ≠ .ok ()) :
    (history pay (fresh limit) charges).2.used = limit := by
  obtain ⟨r, hr, hne⟩ := hfailed
  rcases history_cases (fresh limit) (Nat.zero_le limit) charges with ⟨-, hall, -⟩ | ⟨-, heq⟩
  · exact absurd (hall r hr) hne
  · rw [heq]
    rfl

end New

end Meter

/-! ## Meters in 64 bits -/

/-- The greatest number of 64 bits. -/
def greatest : UInt64 := 0xffffffffffffffff

/-- The sum of two numbers, unless it takes more than 64 bits. -/
def checkedAdd (a b : UInt64) : Option UInt64 :=
  if a.toBitVec.uaddOverflow b.toBitVec then none else some (a + b)

/-- The sum of two numbers, or the greatest number. -/
def saturatingAdd (a b : UInt64) : UInt64 := (checkedAdd a b).getD greatest

/-- The product of two numbers, or the greatest number. -/
def saturatingMul (a b : UInt64) : UInt64 :=
  if a.toBitVec.umulOverflow b.toBitVec then greatest else a * b

/-- A meter in two registers. -/
structure Register where
  limit : UInt64
  used : UInt64

namespace Register

/-- A register of which nothing has been used. -/
def fresh (limit : UInt64) : Register := ⟨limit, 0⟩

/-- Spends `cost` if the sum does not overflow and is within the limit, and otherwise fails and
spends the rest. -/
def charge (r : Register) (cost : UInt64) : Except Fault Unit × Register :=
  match checkedAdd r.used cost with
  | some next =>
    if next ≤ r.limit then (.ok (), { r with used := next })
    else (.error .outOfGas, { r with used := r.limit })
  | none => (.error .outOfGas, { r with used := r.limit })

/-- Asks a register to pay. A frame costs 2, and 1 for each word. -/
def pay (r : Register) : Charge → Except Fault Unit × Register
  | .amount cost => r.charge cost
  | .frame words => r.charge (saturatingAdd 2 (saturatingMul 1 words))

/-- What is left. -/
def remaining (r : Register) : UInt64 := r.limit - r.used

/-- The meter that a register holds. -/
def meter (r : Register) : Meter := ⟨r.limit.toNat, r.used.toNat⟩

end Register

theorem toNat_greatest : greatest.toNat = 2 ^ 64 - 1 := rfl

theorem checkedAdd_cases (a b : UInt64) :
    (∃ c, checkedAdd a b = some c ∧ c.toNat = a.toNat + b.toNat) ∨
      (2 ^ 64 ≤ a.toNat + b.toNat ∧ checkedAdd a b = none) := by
  unfold checkedAdd
  cases hover : a.toBitVec.uaddOverflow b.toBitVec with
  | true => exact .inr ⟨of_decide_eq_true hover, rfl⟩
  | false =>
    refine .inl ⟨a + b, rfl, ?_⟩
    have hlt : a.toNat + b.toNat < 2 ^ 64 := Nat.lt_of_not_le (of_decide_eq_false hover)
    rw [UInt64.toNat_add, Nat.mod_eq_of_lt hlt]

theorem toNat_saturatingAdd (a b : UInt64) :
    (saturatingAdd a b).toNat = min (a.toNat + b.toNat) (2 ^ 64 - 1) := by
  unfold saturatingAdd
  rcases checkedAdd_cases a b with ⟨c, hc, hsum⟩ | ⟨hover, hc⟩
  · have hlt := c.toNat_lt
    rw [hc, Option.getD_some]
    omega
  · rw [hc, Option.getD_none, toNat_greatest,
      Nat.min_eq_right (Nat.le_trans (Nat.sub_le _ _) hover)]

theorem toNat_saturatingMul (a b : UInt64) :
    (saturatingMul a b).toNat = min (a.toNat * b.toNat) (2 ^ 64 - 1) := by
  unfold saturatingMul
  cases hover : a.toBitVec.umulOverflow b.toBitVec with
  | true =>
    have hle : 2 ^ 64 ≤ a.toNat * b.toNat := of_decide_eq_true hover
    simp only [↓reduceIte]
    rw [toNat_greatest, Nat.min_eq_right (Nat.le_trans (Nat.sub_le _ _) hle)]
  | false =>
    have hlt : a.toNat * b.toNat < 2 ^ 64 := Nat.lt_of_not_le (of_decide_eq_false hover)
    simp only [Bool.false_eq_true, ↓reduceIte]
    rw [UInt64.toNat_mul, Nat.mod_eq_of_lt hlt]
    omega

namespace Register

/-- A sum that overflows is beyond every limit. -/
theorem charge_meter (r : Register) (cost : UInt64) :
    r.meter.charge cost.toNat = Prod.map id meter (r.charge cost) := by
  have hlimit := r.limit.toNat_lt
  unfold charge Meter.charge
  rcases checkedAdd_cases r.used cost with ⟨next, hnext, hsum⟩ | ⟨hover, hnext⟩
  · have hiff : r.meter.used + cost.toNat ≤ r.meter.limit ↔ next ≤ r.limit := by
      rw [UInt64.le_iff_toNat_le, hsum]
      rfl
    simp only [hnext, hiff]
    by_cases hle : next ≤ r.limit
    · simp only [hle, ↓reduceIte, Prod.map_apply, id_eq, meter, hsum]
    · simp only [hle, ↓reduceIte, Prod.map_apply, id_eq, meter]
  · have hnot : ¬ r.meter.used + cost.toNat ≤ r.meter.limit := by
      simp only [meter]
      omega
    simp only [hnext, hnot, ↓reduceIte]
    rfl

theorem pay_meter (r : Register) (c : Charge) :
    r.meter.pay c = Prod.map id meter (r.pay c) := by
  cases c with
  | amount cost => exact r.charge_meter cost
  | frame words =>
    have hcost : (saturatingAdd 2 (saturatingMul 1 words)).toNat =
        (Charge.frame words).cost := by
      rw [toNat_saturatingAdd, toNat_saturatingMul, Charge.cost]
      simp only [UInt64.reduceToNat]
      omega
    rw [Meter.pay_eq, ← hcost, charge_meter]
    rfl

theorem history_meter (limit : UInt64) (charges : List Charge) :
    history Meter.pay (.fresh limit.toNat) charges =
      Prod.map id meter (history pay (fresh limit) charges) :=
  history_map pay_meter (fresh limit) charges

/-- The gas used is within the limit, so what is left is exact. -/
theorem toNat_remaining (r : Register) (h : r.meter.used ≤ r.meter.limit) :
    r.remaining.toNat = r.meter.remaining :=
  UInt64.toNat_sub_of_le _ _ (UInt64.le_iff_toNat_le.mpr h)

end Register

/-! ## Histories from the beginning -/

/-- **The history of a meter.** After any charges to a meter with any limit:

* the gas used is within the limit, so what is left and what is used make up the limit;
* one more charge is paid exactly if the sum is within the limit, and is then added. Otherwise all
  is spent. Either way the gas used does not decrease;
* if no charge has failed, the gas used is the sum of their costs. If one has, all gas is used, and
  only charges without a cost are paid;
* it is all the same in registers of 64 bits: the results, the gas used and what is left. -/
theorem meter_history_exact (limit : UInt64) (charges : List Charge)
    {results : List (Except Fault Unit)} {m : Meter}
    (h : history Meter.pay (.fresh limit.toNat) charges = (results, m)) :
    m.limit = limit.toNat ∧ m.used ≤ limit.toNat ∧ m.used + m.remaining = limit.toNat ∧
    (∀ c : Charge, m.used ≤ (m.pay c).2.used ∧
      ((m.pay c).1 = .ok () ↔ m.used + c.cost ≤ limit.toNat) ∧
      (m.used + c.cost ≤ limit.toNat → m.pay c = (.ok (), ⟨limit.toNat, m.used + c.cost⟩)) ∧
      (limit.toNat < m.used + c.cost → m.pay c = (.error .outOfGas, ⟨limit.toNat, limit.toNat⟩))) ∧
    ((∀ r ∈ results, r = .ok ()) → m.used = (charges.map Charge.cost).sum) ∧
    ((∃ r ∈ results, r ≠ .ok ()) →
      m.used = limit.toNat ∧ ∀ c : Charge, (m.pay c).1 = .ok () ↔ c.cost = 0) ∧
    ∃ r : Register, history Register.pay (.fresh limit) charges = (results, r) ∧ r.meter = m ∧
      r.remaining.toNat = m.remaining := by
  have hwithin := Meter.history_within limit.toNat charges
  have hpaid := Meter.used_of_all_paid limit.toNat charges
  have hspent := Meter.used_of_one_failed limit.toNat charges
  have hregister := Register.history_meter limit charges
  rw [h] at hwithin hpaid hspent hregister
  obtain ⟨hlimit, hused⟩ := hwithin
  have hle : m.used ≤ m.limit := hlimit ▸ hused
  refine ⟨hlimit, hused, ?_, fun c => ?_, hpaid, fun hfailed => ⟨hspent hfailed, fun c => ?_⟩, ?_⟩
  · exact hlimit ▸ Nat.add_sub_of_le hle
  · rw [← hlimit]
    exact ⟨Meter.used_le_pay hle c, Meter.pay_eq_ok_iff, Meter.pay_of_le, Meter.pay_of_lt⟩
  · rw [Meter.pay_eq_ok_iff, hlimit, show m.used = limit.toNat from hspent hfailed]
    omega
  · obtain ⟨hresults, hmeter⟩ := Prod.mk.inj hregister
    refine ⟨_, Prod.ext hresults.symm rfl, hmeter.symm, ?_⟩
    rw [Register.toNat_remaining _ (hmeter ▸ hle), ← hmeter]

/-- All but one unit of the greatest limit, then a frame whose cost saturates, then nothing. -/
def hugeCharges : List Charge := [.amount 0xfffffffffffffffe, .frame greatest, .amount 0]

/-- The sum for the frame would overflow. It fails and spends the last unit, and the charge without
a cost is paid. -/
theorem hugeCharges_history :
    history Meter.pay (.fresh greatest.toNat) hugeCharges =
      ([.ok (), .error .outOfGas, .ok ()], ⟨2 ^ 64 - 1, 2 ^ 64 - 1⟩) ∧
    (∀ c : Charge, (Meter.pay ⟨2 ^ 64 - 1, 2 ^ 64 - 1⟩ c).1 = .ok () ↔ c.cost = 0) ∧
    ∃ r : Register, history Register.pay (.fresh greatest) hugeCharges =
      ([.ok (), .error .outOfGas, .ok ()], r) ∧ r.remaining.toNat = 0 := by
  have hrun : history Meter.pay (.fresh greatest.toNat) hugeCharges =
      ([.ok (), .error .outOfGas, .ok ()], ⟨2 ^ 64 - 1, 2 ^ 64 - 1⟩) := rfl
  obtain ⟨-, -, -, -, -, hspent, r, hr, -, hleft⟩ := meter_history_exact greatest hugeCharges hrun
  have hfailed : (.error .outOfGas : Except Fault Unit) ∈
      [.ok (), .error .outOfGas, .ok ()] := List.mem_cons_of_mem _ List.mem_cons_self
  exact ⟨hrun, (hspent ⟨_, hfailed, nofun⟩).2, r, hr, hleft⟩

end Gas

end ExprMachine
