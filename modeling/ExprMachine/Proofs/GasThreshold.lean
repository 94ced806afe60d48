import ExprMachine.Proofs.Termination

/-!
# The gas limit is a threshold

No op reads the meter, so the gas limit does not steer an evaluation: it cuts it off or leaves it as
it is. An evaluation that ends of its own, with some amount spent, is the same under every limit
from that amount on. Under every limit below it ends out of gas, with all of that limit spent, and
with a trail that the longer evaluation begins with (`gas_limit_exact`).

The two evaluations run side by side. As long as the smaller limit holds out, their machines differ
in the limit alone (`Capped`). The charge that breaks it leaves them apart for good (`CutOff`): the
first run has ended, and the second has spent more than the first could, whatever it does then.
-/

namespace ExprMachine

namespace Machine

section Capped

variable {σ : Type} [Storage σ] {L L' : Nat}

/-- The same machine but for the limit, the smaller of which was not reached. -/
structure Capped (L L' : Nat) (m n : Machine σ) : Prop where
  limit : m.gas.limit = L
  most : m.gas.used ≤ L
  same : n = { m with gas := { m.gas with limit := L' } }

/-- The first run broke its limit, which the second has spent more than. -/
structure CutOff (L : Nat) (e : Fault) (m n : Machine σ) : Prop where
  fault : e = .outOfGas
  spent : m.gas.used = L
  beyond : L < n.gas.used
  limit : L < n.gas.limit
  trail : m.trail.toList <+: n.trail.toList

omit [Storage σ] in
theorem charge_capped (hL : L < L') (cost : Nat) :
    CoupledUntil (Capped (σ := σ) L L') (CutOff L) (Run.charge cost) (Run.charge cost) where
  ends := by
    rintro m _ ⟨rfl, hmost, rfl⟩
    unfold Run.charge Gas.Meter.charge
    by_cases hfits : m.gas.used + cost ≤ m.gas.limit
    · rw [if_pos hfits, if_pos (Nat.le_trans hfits (Nat.le_of_lt hL))]
      exact ⟨rfl, rfl, hfits, rfl⟩
    · rw [if_neg hfits]
      by_cases hfits' : m.gas.used + cost ≤ L'
      · rw [if_pos hfits']
        exact ⟨rfl, rfl, Nat.lt_of_not_le hfits, hL, List.prefix_refl _⟩
      · rw [if_neg hfits']
        exact .inr ⟨rfl, rfl, hL, hL, List.prefix_refl _⟩
  lasts e m n hcut := by
    unfold Run.charge Gas.Meter.charge
    by_cases hfits : n.gas.used + cost ≤ n.gas.limit
    · rw [if_pos hfits]
      exact ⟨hcut.fault, hcut.spent, Nat.lt_add_right cost hcut.beyond, hcut.limit, hcut.trail⟩
    · rw [if_neg hfits]
      exact ⟨hcut.fault, hcut.spent, hcut.limit, hcut.limit, hcut.trail⟩

theorem couplingUntil_capped (hL : L < L') :
    CouplingUntil (Capped (σ := σ) L L') (CutOff L) Eq where
  charge := charge_capped hL
  note {entry _} h := by
    subst h
    constructor
    · rintro m _ ⟨hlimit, hmost, rfl⟩
      exact ⟨rfl, hlimit, hmost, rfl⟩
    · intro e m n hcut
      refine ⟨hcut.fault, hcut.spent, hcut.beyond, hcut.limit, ?_⟩
      rw [Array.toList_push]
      exact hcut.trail.trans (List.prefix_append _ _)
  read key := by
    constructor
    · rintro m _ ⟨hlimit, hmost, rfl⟩
      unfold Run.read
      cases Storage.read m.storage key with
      | ok value => exact ⟨rfl, hlimit, hmost, rfl⟩
      | error cause => exact .inl ⟨rfl, hlimit, hmost, rfl⟩
    · intro e m n hcut
      unfold Run.read
      cases Storage.read n.storage key with
      | ok value => exact hcut
      | error cause => exact hcut
  write key value := by
    constructor
    · rintro m _ ⟨hlimit, hmost, rfl⟩
      exact ⟨rfl, hlimit, hmost, rfl⟩
    · intro e m n hcut
      exact ⟨hcut.fault, hcut.spent, hcut.beyond, hcut.limit, hcut.trail⟩

end Capped

/-- The second evaluation has a larger limit than the first. They are the same, or the first is cut
off where the second goes on. -/
theorem evaluate_capped {L L' : Nat} (hL : L < L') (limits : Limits) (request : Request)
    (store : Store) (traced : Bool) :
    (evaluate limits request store L traced = evaluate limits request store L' traced ∧
      (evaluate limits request store L traced).gasUsed ≤ L) ∨
    ((evaluate limits request store L traced).outcome = .error .outOfGas ∧
      (evaluate limits request store L traced).gasUsed = L ∧
      L < (evaluate limits request store L' traced).gasUsed ∧
      (evaluate limits request store L traced).trail <+:
        (evaluate limits request store L' traced).trail) := by
  have hends := (runSource_until (couplingUntil_capped (σ := Overlay) hL)
    (envOf limits request traced) (L' + 1) limits.clamped.maxCallDepth 0 request.source
    (.empty limits.maxStack)).ends (fresh request store L) (fresh request store L')
    ⟨rfl, Nat.zero_le L, rfl⟩
  -- Rounds for the larger limit are rounds for both.
  rw [← evaluateWithin_eq_evaluate (Nat.lt_succ_of_lt hL),
    ← evaluateWithin_eq_evaluate (Nat.lt_succ_self L'), evaluateWithin_eq, evaluateWithin_eq]
  revert hends
  generalize runSource _ _ _ _ _ _ (fresh request store L) = here
  generalize runSource _ _ _ _ _ _ (fresh request store L') = there
  match here, there with
  | .ok stack m, .ok stack' n =>
    rintro ⟨rfl, hcap⟩
    obtain ⟨-, hmost, rfl⟩ := hcap
    exact .inl ⟨rfl, hmost⟩
  | .error e m, .error e' n =>
    rintro (⟨rfl, hcap⟩ | hcut)
    · obtain ⟨-, hmost, rfl⟩ := hcap
      exact .inl ⟨rfl, hmost⟩
    · exact .inr ⟨congrArg Except.error hcut.fault, hcut.spent, hcut.beyond, hcut.trail⟩
  | .error e m, .ok stack n =>
    intro hcut
    exact .inr ⟨congrArg Except.error hcut.fault, hcut.spent, hcut.beyond, hcut.trail⟩
  | .ok _ _, .error _ _ => exact False.elim

theorem evaluate_output_gasUsed {limits : Limits} {request : Request} {store : Store}
    {gasLimit : Nat} {traced : Bool} {output : Output}
    (h : (evaluate limits request store gasLimit traced).outcome = .ok output) :
    output.gasUsed = (evaluate limits request store gasLimit traced).gasUsed := by
  rw [evaluate, evaluateWithin_eq] at h ⊢
  revert h
  generalize runSource _ _ _ _ _ _ (fresh request store gasLimit) = ended
  cases ended with
  | ok stack m =>
    rintro ⟨⟩
    rfl
  | error e m => rintro ⟨⟩

variable (limits : Limits) (request : Request) (store : Store) (gasLimit : Nat) (traced : Bool)

/-- **The gas limit is exact.** Of an evaluation that does not run out of gas, the gas that it used
is the threshold: with a limit from there on, everything about it is the same; with a limit below,
it runs out of gas, the limit is used up, and what it recorded is the beginning of what is recorded
otherwise. -/
theorem gas_limit_exact
    (h : (evaluate limits request store gasLimit traced).outcome ≠ .error .outOfGas) :
    (∀ output, (evaluate limits request store gasLimit traced).outcome = .ok output →
      output.gasUsed = (evaluate limits request store gasLimit traced).gasUsed) ∧
    ∀ limit,
      ((evaluate limits request store gasLimit traced).gasUsed ≤ limit →
        evaluate limits request store limit traced =
          evaluate limits request store gasLimit traced) ∧
      (limit < (evaluate limits request store gasLimit traced).gasUsed →
        (evaluate limits request store limit traced).outcome = .error .outOfGas ∧
        (evaluate limits request store limit traced).gasUsed = limit ∧
        (evaluate limits request store limit traced).trail <+:
          (evaluate limits request store gasLimit traced).trail ∧
        (evaluate limits request store limit traced).events <+:
          (evaluate limits request store gasLimit traced).events) := by
  refine ⟨fun output => evaluate_output_gasUsed, fun limit => ?_⟩
  -- With a larger limit than its own the evaluation is the same, for it was not cut off.
  have hlarger {L' : Nat} (hL' : gasLimit < L') := (evaluate_capped hL' limits request store
    traced).resolve_right fun hcut => h hcut.1
  have hused := (hlarger (Nat.lt_succ_self gasLimit)).2
  rcases Nat.lt_trichotomy limit gasLimit with hlt | rfl | hgt
  · rcases evaluate_capped hlt limits request store traced with
      ⟨heq, hmost⟩ | ⟨hout, hspent, hbeyond, htrail⟩
    · rw [← heq]
      exact ⟨fun _ => rfl, fun hcut => absurd hcut (Nat.not_lt.mpr hmost)⟩
    · exact ⟨fun hfits => absurd hbeyond (Nat.not_lt.mpr hfits),
        fun _ => ⟨hout, hspent, htrail, htrail.filterMap _⟩⟩
  · exact ⟨fun _ => rfl, fun hcut => absurd hcut (Nat.not_lt.mpr hused)⟩
  · exact ⟨fun _ => (hlarger hgt).1.symm,
      fun hcut => absurd (Nat.lt_trans hgt hcut) (Nat.not_lt.mpr hused)⟩

/-- The first source runs the second three times, which records a snapshot and costs its frames
only. -/
def recordingBundle : Bundle := ⟨[⟨[.ofRaw 3 0x3001]⟩, ⟨[.ofRaw 5 0]⟩], []⟩

/-- It costs 14, so that 14 is enough and 13 is not. -/
theorem recordingBundle_gas_limit_exact :
    (evaluate .standard ⟨recordingBundle, 0, .empty, 0#256, none⟩ (.empty .none) 1000
      false).outcome = .ok ⟨[], [], 14⟩ ∧
    (evaluate .standard ⟨recordingBundle, 0, .empty, 0#256, none⟩ (.empty .none) 14
      false).outcome = .ok ⟨[], [], 14⟩ ∧
    (evaluate .standard ⟨recordingBundle, 0, .empty, 0#256, none⟩ (.empty .none) 13
      false).outcome = .error .outOfGas ∧
    (evaluate .standard ⟨recordingBundle, 0, .empty, 0#256, none⟩ (.empty .none) 13
      false).gasUsed = 13 := by
  have houtcome : (evaluate .standard ⟨recordingBundle, 0, .empty, 0#256, none⟩ (.empty .none) 1000
      false).outcome = .ok ⟨[], [], 14⟩ := by cbv
  obtain ⟨hgas, hlimit⟩ := gas_limit_exact .standard ⟨recordingBundle, 0, .empty, 0#256, none⟩
    (.empty .none) 1000 false (by rw [houtcome]; rintro ⟨⟩)
  rw [← hgas _ houtcome] at hlimit
  obtain ⟨hout, hspent, -, -⟩ := (hlimit 13).2 (by decide)
  exact ⟨houtcome, ((hlimit 14).1 (by decide)).symm ▸ houtcome, hout, hspent⟩

end Machine

end ExprMachine
