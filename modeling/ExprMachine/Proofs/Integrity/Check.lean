import ExprMachine.Proofs.Integrity.Ledger

/-!
# What an accepted bundle is like

`check_outcome`: a bundle is accepted only if it is `Acceptable`, and then the reports say what is
so (`Reported`); it is refused only if it is not, unless the analysis was cut off.

* The walks of the entrypoints end with nothing under way, so the starts that were walked are closed
  under calls (`Ledger.Sound.found_of_reaches`), and with the ops that were put off settled they are
  all certified (`Ledger.Sound.certified`).
* A start is walked once, under the first entrypoint that reaches it. Its heights go into the report
  of that entrypoint (`Reported.first`), and into that of a later one unless it is only reached by
  way of a cycle (`Reported.covers`): a walk cannot know the heights of a start that it leads back
  to, and what it found is not revised when that walk ends.
-/

namespace ExprMachine

namespace Integrity

variable (b : Bundle) (limits : Limits)

/-- What a bundle must be like for its first sources to be entrypoints that leave at least the given
numbers of words. -/
structure Acceptable (mins : List Nat) : Prop where
  declared : mins ≠ []
  sources : mins.length ≤ b.sources.length
  certified : ∀ i < mins.length, Certified b limits ⟨i, 0⟩
  outputs : ∀ i min, mins[i]? = some min → min ≤ Start.final b ⟨i, 0⟩

/-- A chain of control-flow ops leads from the one start to the other by way of two starts that
reach each other. -/
def ThroughCycle (p q : Start) : Prop :=
  ∃ t u, t ≠ u ∧ Reaches b p t ∧ Reaches b t u ∧ Reaches b u t ∧ Reaches b u q

/-- What the reports on the entrypoints say is so. -/
structure Reported (mins : List Nat) (reports : List EntrypointReport) : Prop where
  length : reports.length = mins.length
  outputs : ∀ i r, reports[i]? = some r → r.source = i ∧ r.outputs = Start.final b ⟨i, 0⟩
  attained : ∀ i r, reports[i]? = some r → Attains b ⟨i, 0⟩ r.maxStack
  first : ∀ i < mins.length, ∀ q, Reaches b ⟨i, 0⟩ q →
    ∃ j ≤ i, ∃ r, reports[j]? = some r ∧ Reaches b ⟨j, 0⟩ q ∧ ∀ ip, q.heightAt b ip ≤ r.maxStack
  covers : ∀ i r, reports[i]? = some r → ∀ q, Reaches b ⟨i, 0⟩ q →
    (∀ ip, q.heightAt b ip ≤ r.maxStack) ∨ ThroughCycle b ⟨i, 0⟩ q

/-- Analyzing entrypoints, the first of which is source `index`, took the ledger `l` to `l'`. -/
structure Surveyed (index : Nat) (mins : List Nat) (l : Ledger) (reports : List EntrypointReport)
    (l' : Ledger) : Prop where
  sound : l'.Sound b limits
  keeps : l.Keeps l'
  length : reports.length = mins.length
  report : ∀ k r, reports[k]? = some r →
    r.source = index + k ∧ l'.found ⟨index + k, 0⟩ = some ⟨r.outputs, r.maxStack⟩
  outputs : ∀ k min, mins[k]? = some min → min ≤ Start.final b ⟨index + k, 0⟩
  first : ∀ k < mins.length, ∀ q, Reaches b ⟨index + k, 0⟩ q → l.found q = none →
    ∃ j ≤ k, ∃ r, reports[j]? = some r ∧ Reaches b ⟨index + j, 0⟩ q ∧
      ∀ ip, q.heightAt b ip ≤ r.maxStack
  deferrals : ∀ d ∈ l'.deferred, d ∈ l.deferred ∨
    ∃ k < mins.length, ∃ q, Reaches b ⟨index + k, 0⟩ q ∧ Defers b q d

/-- Why entrypoints are refused. -/
def Rejected (index : Nat) (mins : List Nat) (d : Defect) : Prop :=
  d = .unfinished ∨ ∃ k min, mins[k]? = some min ∧
    (¬ Certified b limits ⟨index + k, 0⟩ ∨ Start.final b ⟨index + k, 0⟩ < min)

variable {b limits}

/-! ## Ledgers with nothing under way -/

namespace Ledger.Sound

variable {l : Ledger} {p q : Start}

theorem found_of_calls (h : l.Sound b limits) (ha : l.active = [])
    (hp : ∃ s, l.found p = some s) (hc : Calls b p q) : ∃ s, l.found q = some s := by
  obtain ⟨s, hs⟩ := hp
  obtain ⟨ip, op, f, hop, ho, rfl⟩ := hc
  obtain ⟨opcode, ho', -, hflow⟩ := (h.entry p s hs).walked ip op hop
  rw [ho] at ho'
  cases ho'
  rcases (hflow f rfl).1 with ⟨t, ht, -⟩ | ⟨d, hd, hdt, -⟩
  · exact ⟨t, ht⟩
  · rw [← hdt]
    refine (h.deferred d hd).resolve_left fun hact => ?_
    rw [ha] at hact
    exact List.not_mem_nil hact

/-- With nothing under way, what a walked start reaches has been walked. -/
theorem found_of_reaches (h : l.Sound b limits) (ha : l.active = [])
    (hp : ∃ s, l.found p = some s) (hr : Reaches b p q) : ∃ s, l.found q = some s :=
  Reaches.mem_of_closed (fun _ _ => h.found_of_calls ha) hr hp

theorem certified (h : l.Sound b limits) (ha : l.active = [])
    (hd : ∀ d ∈ l.deferred, ∀ s, l.found d.target = some s → d.needed ≤ s.final)
    (hp : ∃ s, l.found p = some s) : Certified b limits p := by
  intro q hq
  obtain ⟨s, hs⟩ := h.found_of_reaches ha hp hq
  have he := h.entry q s hs
  refine ⟨he.source, fun ip op hop => ?_, fun ip op f hop ho => ?_⟩
  · obtain ⟨opcode, ho, hfits, -⟩ := he.walked ip op hop
    exact ⟨opcode, ho, hfits⟩
  · obtain ⟨t, ht⟩ := h.found_of_calls ha ⟨s, hs⟩ ⟨ip, op, f, hop, ho, rfl⟩
    rw [← (h.entry _ t ht).final]
    obtain ⟨opcode, ho', -, hflow⟩ := he.walked ip op hop
    rw [ho] at ho'
    cases ho'
    rcases (hflow f rfl).1 with ⟨t', ht', hle⟩ | ⟨d, hmem, hdt, hdn⟩
    · rw [ht] at ht'
      cases ht'
      exact hle
    · rw [← hdn]
      exact hd d hmem t (hdt ▸ ht)

/-- Along a chain of calls the greatest heights only fall, until the chain comes to a start that was
still being walked. That one leads back to where the chain came from. -/
theorem covered (h : l.Sound b limits) {s : Summary}
    (hs : l.found p = some s) (hr : Reaches b p q) :
    (∀ ip, q.heightAt b ip ≤ s.peak) ∨ ThroughCycle b p q := by
  induction hr using Relation.ReflTransGen.head_induction_on generalizing s with
  | refl => exact .inl (h.entry q s hs).own
  | @head p t hc hq ih =>
    obtain ⟨ip, op, f, hop, ho, rfl⟩ := id hc
    obtain ⟨opcode, ho', -, hflow⟩ := (h.entry p s hs).walked ip op hop
    rw [ho] at ho'
    cases ho'
    rcases (hflow f rfl).2 with ⟨u, hu, hle⟩ | hback
    · refine (ih hu).imp (fun hq j => Nat.le_trans (hq j) hle) fun hcyc => ?_
      obtain ⟨v, w, hne, hv, hcyc⟩ := hcyc
      exact ⟨v, w, hne, hv.head hc, hcyc⟩
    · by_cases heq : targetOf op.operand = p
      · rw [heq] at ih
        exact ih hs
      · exact .inr ⟨p, _, Ne.symm heq, Reaches.refl p, (Reaches.refl p).tail hc, hback, hq⟩

end Ledger.Sound

/-! ## Entrypoints -/

/-- One more entrypoint, before those that were surveyed. A start that it reaches and that no
earlier one did is new in its own survey, and is not new in the later ones. -/
theorem Surveyed.cons {index min : Nat} {mins : List Nat} {l l₁ l₂ : Ledger} {s : Summary}
    {reports : List EntrypointReport} (hr : Surveyed b limits (index + 1) mins l₁ reports l₂)
    (ha : l.active = []) (hv : Visited b limits ⟨index, 0⟩ l (some s) l₁) (hmin : min ≤ s.final) :
    Surveyed b limits index (min :: mins) l (⟨index, s.final, s.peak⟩ :: reports) l₂ := by
  have hs := hv.known s rfl
  have shift (k : Nat) : index + (k + 1) = index + 1 + k := by omega
  have hnew {q : Start} {t : Summary} (hn : l.found q = none) (hq : l₁.found q = some t) :
      Reaches b ⟨index, 0⟩ q ∧ ∀ ip, q.heightAt b ip ≤ s.peak := by
    obtain ⟨hreach, u, hu, hle⟩ := hv.fresh q t hn hq
    cases hu
    exact ⟨hreach, hle⟩
  refine ⟨hr.sound, hv.keeps.trans hr.keeps, by simp [hr.length], ?_, ?_, ?_, ?_⟩
  · rintro (_ | k) r hk
    · cases hk
      exact ⟨rfl, hr.keeps.found _ s hs⟩
    · rw [shift]
      exact hr.report k r hk
  · rintro (_ | k) m hk
    · cases hk
      rw [Nat.add_zero, ← (hv.sound.entry _ s hs).final]
      exact hmin
    · rw [shift]
      exact hr.outputs k m hk
  · rintro (_ | k) hk q hq hn
    · obtain ⟨t, ht⟩ := hv.sound.found_of_reaches (hv.keeps.active.trans ha) ⟨s, hs⟩ hq
      exact ⟨0, Nat.le_refl 0, _, rfl, hnew hn ht⟩
    · rw [shift] at hq
      cases hl : l₁.found q with
      | some t => exact ⟨0, Nat.zero_le _, _, rfl, hnew hn hl⟩
      | none =>
        obtain ⟨j, hj, r, hjr, hcov⟩ := hr.first k (by simpa using hk) q hq hl
        rw [← shift] at hcov
        exact ⟨j + 1, Nat.succ_le_succ hj, r, hjr, hcov⟩
  · intro d hd
    rcases hr.deferrals d hd with hd | ⟨k, hk, q, hq, hd⟩
    · rcases hv.deferrals d hd with hd | ⟨q, hq, hd⟩
      · exact .inl hd
      · exact .inr ⟨0, Nat.zero_lt_succ _, q, hq, hd⟩
    · rw [← shift] at hq
      exact .inr ⟨k + 1, Nat.succ_lt_succ hk, q, hq, hd⟩

theorem checkEntrypoints_outcome (depth index : Nat) (mins : List Nat) {l : Ledger}
    (h : l.Sound b limits) (ha : l.active = []) (hlen : index + mins.length ≤ b.sources.length) :
    Outcome (checkEntrypoints (analyze b limits depth) index mins l)
      (fun r => Surveyed b limits index mins l r.1 r.2) (Rejected b limits index mins) := by
  induction mins generalizing index l with
  | nil =>
    refine ⟨h, Ledger.Keeps.refl l, rfl, nofun, nofun, fun k hk => ?_, fun d hd => .inl hd⟩
    exact absurd hk (Nat.not_lt_zero k)
  | cons min mins ih =>
    rw [List.length_cons] at hlen
    have hready : l.Ready b limits ⟨index, 0⟩ := by
      refine ⟨h, by simp only; omega, fun a hmem => ?_⟩
      rw [ha] at hmem
      exact absurd hmem List.not_mem_nil
    refine outcome_bind ((analyze_analyzes depth ⟨index, 0⟩ l hready).mono (fun _ h => h)
      fun d hd => ?_) fun found l₁ hv => ?_
    · exact hd.imp_right fun hc => ⟨0, min, rfl, .inl hc⟩
    cases found with
    | none =>
      have hact := (hv.active rfl).1
      rw [ha] at hact
      exact absurd hact List.not_mem_nil
    | some s =>
      have hs := hv.known s rfl
      have he := hv.sound.entry _ s hs
      have ha₁ : l₁.active = [] := hv.keeps.active.trans ha
      simp only [Option.getD_some]
      by_cases hmin : s.final < min
      · simp only [hmin, ↓reduceIte]
        exact .inr ⟨0, min, rfl, .inr (he.final ▸ hmin)⟩
      · simp only [hmin, ↓reduceIte]
        refine outcome_bind ((ih (index + 1) hv.sound ha₁ (by omega)).mono (fun _ h => h) ?_)
          fun reports l₂ hr => ?_
        · rintro d (rfl | ⟨k, m, hk, hd⟩)
          · exact .inl rfl
          · rw [Nat.add_right_comm, Nat.add_assoc] at hd
            exact .inr ⟨k + 1, m, hk, hd⟩
        · exact hr.cons ha hv (Nat.le_of_not_lt hmin)

/-! ## Ops that were put off -/

theorem settle_outcome (finished : List (Start × Summary)) (ds : List Deferred) :
    Outcome (settle finished ds)
      (fun _ => ∀ d ∈ ds, ∀ s, finished.lookup d.target = some s → d.needed ≤ s.final)
      (fun _ => ∃ d ∈ ds, ∃ s, finished.lookup d.target = some s ∧ s.final < d.needed) := by
  induction ds with
  | nil => exact fun d hd => absurd hd List.not_mem_nil
  | cons d ds ih =>
    have hrest (hd : ∀ s, finished.lookup d.target = some s → d.needed ≤ s.final) :
        Outcome (settle finished ds)
          (fun _ => ∀ d' ∈ d :: ds, ∀ s, finished.lookup d'.target = some s → d'.needed ≤ s.final)
          (fun _ => ∃ d' ∈ d :: ds, ∃ s, finished.lookup d'.target = some s ∧
            s.final < d'.needed) := by
      refine ih.mono (fun _ hds d' hd' => ?_) fun _ ⟨d', hd', hs⟩ =>
        ⟨d', List.mem_cons_of_mem d hd', hs⟩
      rcases List.mem_cons.mp hd' with rfl | hd'
      · exact hd
      · exact hds d' hd'
    unfold settle
    cases hs : finished.lookup d.target with
    | none => exact hrest fun s hs' => by rw [hs] at hs'; cases hs'
    | some s =>
      by_cases hlt : s.final < d.needed
      · simp only [hlt, ↓reduceIte]
        exact ⟨d, List.mem_cons_self, s, hs, hlt⟩
      · simp only [hlt, ↓reduceIte]
        refine hrest fun s' hs' => ?_
        rw [hs] at hs'
        cases hs'
        exact Nat.le_of_not_lt hlt

/-- An op that was put off and is left too few words is one of an entrypoint's starts. -/
theorem Surveyed.not_certified {mins : List Nat} {reports : List EntrypointReport} {l : Ledger}
    (h : Surveyed b limits 0 mins .blank reports l) {d : Deferred} (hd : d ∈ l.deferred)
    {s : Summary} (hs : l.found d.target = some s) (hlt : s.final < d.needed) :
    ∃ i < mins.length, ¬ Certified b limits ⟨i, 0⟩ := by
  obtain ⟨i, hi, q, hq, ip, op, f, hop, ho, rfl⟩ :=
    (h.deferrals d hd).resolve_left List.not_mem_nil
  rw [Nat.zero_add] at hq
  refine ⟨i, hi, fun hc => ?_⟩
  have hans := (hc q hq).2.2 ip op f hop ho
  rw [← (h.sound.entry _ s hs).final] at hans
  exact absurd hans (Nat.not_le.mpr hlt)

/-! ## Bundles -/

theorem Surveyed.reported {mins : List Nat} {reports : List EntrypointReport} {l : Ledger}
    (h : Surveyed b limits 0 mins .blank reports l) : Reported b mins reports where
  length := h.length
  outputs i r hr := by
    obtain ⟨hsrc, hfound⟩ := h.report i r hr
    rw [Nat.zero_add] at hsrc hfound
    exact ⟨hsrc, (h.sound.entry _ _ hfound).final⟩
  attained i r hr := by
    obtain ⟨-, hfound⟩ := h.report i r hr
    rw [Nat.zero_add] at hfound
    exact (h.sound.entry _ _ hfound).attained
  first i hi q hq := by
    obtain ⟨j, hj, r, hr, hcov⟩ := h.first i hi q (by rwa [Nat.zero_add]) rfl
    rw [Nat.zero_add] at hcov
    exact ⟨j, hj, r, hr, hcov⟩
  covers i r hr q hq := by
    obtain ⟨-, hfound⟩ := h.report i r hr
    rw [Nat.zero_add] at hfound
    exact h.sound.covered hfound hq

/-- **What a check finds.** -/
theorem check_outcome (b : Bundle) (limits : Limits) (mins : List Nat) :
    Outcome (check b limits mins)
      (fun reports => Acceptable b limits mins ∧ Reported b mins reports)
      (fun d => d = .unfinished ∨ ¬ Acceptable b limits mins) := by
  unfold check checkWithin
  by_cases hempty : mins.isEmpty = true
  · simp only [hempty, ↓reduceIte]
    exact .inr fun hacc => hacc.declared (List.isEmpty_iff.mp hempty)
  simp only [hempty, Bool.false_eq_true, ↓reduceIte]
  by_cases hlen : b.sources.length < mins.length
  · simp only [hlen, ↓reduceIte]
    exact .inr fun hacc => absurd hacc.sources (Nat.not_le.mpr hlen)
  simp only [hlen, ↓reduceIte]
  refine (checkEntrypoints_outcome _ 0 mins Ledger.sound_blank rfl (by omega)).mono
    (fun _ h => h) ?_ |>.bind fun r hr => ?_
  · rintro d (rfl | ⟨i, min, hi, hd⟩)
    · exact .inl rfl
    · rw [Nat.zero_add] at hd
      refine .inr fun hacc => hd.elim (fun hc => hc (hacc.certified i ?_)) fun hlt => ?_
      · exact (List.getElem?_eq_some_iff.mp hi).1
      · exact absurd (hacc.outputs i min hi) (Nat.not_le.mpr hlt)
  obtain ⟨reports, l⟩ := r
  refine ((settle_outcome l.finished l.deferred).mono (fun _ h => h) ?_).bind fun _ hd => ?_
  · rintro _ ⟨d, hd, s, hs, hlt⟩
    obtain ⟨i, hi, hc⟩ := hr.not_certified hd hs hlt
    exact .inr fun hacc => hc (hacc.certified i hi)
  have hact : l.active = [] := hr.keeps.active
  refine ⟨⟨?_, Nat.le_of_not_lt hlen, fun i hi => ?_, fun i min hi => ?_⟩, hr.reported⟩
  · exact fun hnil => hempty (List.isEmpty_iff.mpr hnil)
  · have hi' : i < reports.length := by rw [hr.length]; exact hi
    have hfound := (hr.report i _ (List.getElem?_eq_getElem hi')).2
    rw [Nat.zero_add] at hfound
    exact hr.sound.certified hact hd ⟨_, hfound⟩
  · have hmin := hr.outputs i min hi
    rwa [Nat.zero_add] at hmin

theorem check_eq_ok {mins : List Nat} {reports : List EntrypointReport}
    (h : check b limits mins = .ok reports) :
    Acceptable b limits mins ∧ Reported b mins reports := by
  have hout := check_outcome b limits mins
  rw [h] at hout
  exact hout

end Integrity

end ExprMachine
