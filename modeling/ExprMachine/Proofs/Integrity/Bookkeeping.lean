import ExprMachine.Proofs.Integrity.OpenWalks

/-!
# The books of a check

A check keeps three records: the walks that have ended, those that have not, and the ops that were
put off because their target was of the second kind. They agree at every moment of a check
(`Ledger.Consistent`), so two branches of it are never taken: an entrypoint always has a summary
when it is reported, and an op that was put off always finds the summary of its target.

* `walkOp_remembered`: an op that runs a source is checked when it is walked, or put off.
* `Ledger.Lasting`: what a step of a check cannot undo. `onLedger_of_le` takes it from one moment to
  all later ones.
* `moment_consistent`: the records agree throughout.
* `owes_of_reenters`: an op whose target is being walked is put off.
* `checkOr`: a check with something else in the place of the two branches. It is the same check
  (`checkOr_eq_check`).
-/

namespace ExprMachine

namespace Integrity

/-- The starts whose walks have ended. -/
def Ledger.known (l : Ledger) : List Start := l.finished.map Prod.fst

/-- Every op that was put off waits for a start that is known or being walked. -/
def Ledger.Awaited (l : Ledger) : Prop :=
  ∀ d ∈ l.deferred, d.target ∈ l.known ∨ d.target ∈ l.active

/-- The records of a ledger agree with each other and with the walks under way. -/
structure Ledger.Consistent (walks : List OpenWalk) (l : Ledger) : Prop where
  chain : ∀ p, p ∈ l.active ↔ ∃ w ∈ walks, w.start = p
  apart : ∀ p ∈ l.active, p ∉ l.known
  awaited : l.Awaited

/-- A property that a ledger does not lose, whatever is entered in it: that a walk begins or has
ended, or that an op is put off whose target is being walked. -/
structure Ledger.Lasting (P : Ledger → Prop) : Prop where
  opened : ∀ l p, P l → P (l.opened p)
  closed : ∀ l p s, P l → P (l.closed p s)
  defer : ∀ l d, d.target ∈ l.active → P l → P (l.defer d)

/-- A check is over, or its ledger has the property. -/
def Moment.OnLedger (P : Ledger → Prop) : Moment → Prop
  | .underway _ l _ => P l
  | .ended _ => True

variable {b : Bundle} {limits : Limits} {mins : List Nat} {l : Ledger} {m : Moment} {p : Start}
  {d : Deferred}

namespace Ledger

theorem mem_known_iff : p ∈ l.known ↔ ∃ s, l.found p = some s := by
  unfold found known
  rw [← Option.isSome_iff_exists, List.lookup_isSome_iff, List.mem_map]
  simp only [beq_iff_eq, @eq_comm _ p]

theorem not_mem_known_iff : p ∉ l.known ↔ l.found p = none := by
  rw [mem_known_iff, Option.eq_none_iff_forall_ne_some, not_exists]

theorem mem_known_closed {q : Start} {s : Summary} :
    p ∈ (l.closed q s).known ↔ p = q ∨ p ∈ l.known := List.mem_cons

/-- A start leaves the walks under way only to become known. -/
theorem lasting_awaited : Lasting Awaited where
  opened l p h d hd := (h d hd).imp_right (List.mem_cons_of_mem p)
  closed l p s h d hd := by
    by_cases heq : d.target = p
    · exact .inl (mem_known_closed.mpr (.inl heq))
    · rcases h d hd with hknown | hactive
      · exact .inl (mem_known_closed.mpr (.inr hknown))
      · exact .inr ((List.mem_erase_of_ne heq).mpr hactive)
  defer l d ht h d' hd' := by
    rcases List.mem_append.mp hd' with hd' | hd'
    · exact h d' hd'
    · rw [List.mem_singleton.mp hd']
      exact .inr ht

/-- What was put off stays so. -/
theorem lasting_owes (d : Deferred) : Lasting (d ∈ ·.deferred) where
  opened _ _ h := h
  closed _ _ _ h := h
  defer _ _ _ h := List.mem_append_left _ h

end Ledger

/-! ## What an op leaves on the books -/

section Ops

variable {source ip height peak : Nat}

theorem followFlow_remembered {f : Flow} {operand : Operand} {r : Nat × Ledger}
    (h : followFlow b remembered source ip f operand l = .ok r) :
    (∃ s, l.found (targetOf operand) = some s ∧ f.needed operand ≤ s.final ∧ r.2 = l) ∨
      targetOf operand ∈ l.active ∧
        r.2 = l.defer ⟨source, ip, targetOf operand, f.needed operand⟩ := by
  unfold followFlow at h
  by_cases hlen : b.sources.length ≤ (targetOf operand).source
  · simp only [hlen, ↓reduceIte] at h
    cases h
  simp only [hlen, ↓reduceIte] at h
  obtain ⟨found, l', hfound, h⟩ := analysis_bind_eq_ok.mp h
  unfold remembered at hfound
  rw [consult_apply] at hfound
  cases hs : l.finished.lookup (targetOf operand) with
  | some s =>
    rw [hs] at hfound
    cases hfound
    by_cases hneed : s.final < f.needed operand
    · simp only [hneed, ↓reduceIte] at h
      cases h
    · simp only [hneed, ↓reduceIte] at h
      cases h
      exact .inl ⟨s, hs, Nat.le_of_not_lt hneed, rfl⟩
  | none =>
    by_cases hact : targetOf operand ∈ l.active
    · simp only [hs, hact, ↓reduceIte] at hfound
      cases hfound
      cases h
      exact .inr ⟨hact, rfl⟩
    · simp only [hs, hact, ↓reduceIte] at hfound
      cases hfound

theorem examine_remembered {opcode : Opcode} {operand : Operand} {r : Nat × Ledger}
    (h : examine b remembered source ip opcode operand height l = .ok r) :
    (r.2 = l ∧ ∀ f, opcode = .flow f →
      ∃ s, l.found (targetOf operand) = some s ∧ f.needed operand ≤ s.final) ∨
    ∃ f, opcode = .flow f ∧ targetOf operand ∈ l.active ∧
      r.2 = l.defer ⟨source, ip, targetOf operand, f.needed operand⟩ := by
  cases opcode with
  | readMemory =>
    unfold examine at h
    cases hreg : operand.region with
    | constants =>
      by_cases hlt : operand.index < b.constants.length
      · simp only [hreg, hlt, ↓reduceIte] at h
        cases h
        exact .inl ⟨rfl, nofun⟩
      · simp only [hreg, hlt, ↓reduceIte] at h
        cases h
    | stack =>
      by_cases hlt : operand.index < height
      · simp only [hreg, hlt, ↓reduceIte] at h
        cases h
        exact .inl ⟨rfl, nofun⟩
      · simp only [hreg, hlt, ↓reduceIte] at h
        cases h
  | debug =>
    unfold examine at h
    cases hmode : DebugMode.ofCode? operand.raw with
    | some mode =>
      rw [hmode] at h
      cases h
      exact .inl ⟨rfl, nofun⟩
    | none =>
      rw [hmode] at h
      cases h
  | flow f =>
    rcases followFlow_remembered h with ⟨s, hs, hneed, hr⟩ | ⟨hact, hr⟩
    · refine .inl ⟨hr, fun f' hf => ?_⟩
      cases hf
      exact ⟨s, hs, hneed⟩
    · exact .inr ⟨f, rfl, hact, hr⟩
  | context | ensure | set | get | «calc» c =>
    cases h
    exact .inl ⟨rfl, nofun⟩

/-- **An op that runs a source is checked or put off.** Nothing else changes the ledger. -/
theorem walkOp_remembered {op : Op} {r : (Nat × Nat) × Ledger}
    (h : walkOp b limits remembered source ip op height peak l = .ok r) :
    (r.2 = l ∧ ∀ f, Opcode.ofId? op.opcode = some (.flow f) →
      ∃ s, l.found (targetOf op.operand) = some s ∧ f.needed op.operand ≤ s.final) ∨
    ∃ f, Opcode.ofId? op.opcode = some (.flow f) ∧ targetOf op.operand ∈ l.active ∧
      r.2 = l.defer ⟨source, ip, targetOf op.operand, f.needed op.operand⟩ := by
  unfold walkOp at h
  cases ho : Opcode.ofId? op.opcode with
  | none =>
    rw [ho] at h
    cases h
  | some opcode =>
    simp only [ho] at h
    split at h
    · cases h
    · split at h
      · cases h
      · obtain ⟨nested, l', hexamine, h⟩ := analysis_bind_eq_ok.mp h
        split at h
        · cases h
        · cases h
          simp only [Option.some.injEq]
          exact examine_remembered hexamine

end Ops

/-! ## Every moment -/

/-- Every step of a check keeps a property that whatever is entered in a ledger keeps. -/
theorem Moment.OnLedger.next {P : Ledger → Prop} (hP : Ledger.Lasting P) (h : m.OnLedger P) :
    (m.next b limits mins).OnLedger P := by
  have hstep := Moment.next_step b limits mins m
  generalize m.next b limits mins = m' at hstep
  cases hstep with
  | stop => trivial
  | report => exact h
  | enter _ | nest _ _ _ _ => exact hP.opened _ _ h
  | close _ => exact hP.closed _ _ _ h
  | advance _ hwalk _ _ =>
    change P _
    rcases walkOp_remembered hwalk with ⟨hsame, -⟩ | ⟨f, -, hact, hdefer⟩
    · rw [hsame]
      exact h
    · rw [hdefer]
      exact hP.defer _ _ hact h

theorem onLedger_of_le {P : Ledger → Prop} (hP : Ledger.Lasting P) {j k : Nat} (hjk : j ≤ k)
    (h : (moment b limits mins j).OnLedger P) : (moment b limits mins k).OnLedger P := by
  induction hjk with
  | refl => exact h
  | step _ ih =>
    rw [Nat.succ_eq_add_one, moment_succ]
    exact ih.next hP

/-- **An op that was put off has a target that is known or being walked.** -/
theorem moment_awaited (b : Bundle) (limits : Limits) (mins : List Nat) (n : Nat) :
    (moment b limits mins n).OnLedger Ledger.Awaited := by
  refine onLedger_of_le Ledger.lasting_awaited (Nat.zero_le n) ?_
  change (Moment.initial b mins).OnLedger Ledger.Awaited
  unfold Moment.initial
  split
  · trivial
  · split
    · trivial
    · exact fun d hd => absurd hd List.not_mem_nil

/-- **The books are consistent throughout a check.** -/
theorem moment_consistent {n : Nat} {walks : List OpenWalk} {reports : List EntrypointReport}
    (h : moment b limits mins n = .underway walks l reports) : l.Consistent walks := by
  have horderly := moment_orderly b limits mins n
  have hawaited := moment_awaited b limits mins n
  rw [h] at horderly hawaited
  refine ⟨fun p => ?_, fun p hp => ?_, hawaited⟩
  · rw [Underway.active horderly, List.mem_map]
  · exact Ledger.not_mem_known_iff.mpr (Underway.apart horderly p hp)

/-- With nothing under way, every op that was put off has a target that is known. -/
theorem Ledger.Consistent.known_of_idle (h : l.Consistent []) (hd : d ∈ l.deferred) :
    d.target ∈ l.known := by
  refine (h.awaited d hd).resolve_right fun hact => ?_
  obtain ⟨w, hw, -⟩ := (h.chain d.target).mp hact
  exact absurd hw List.not_mem_nil

theorem Leads.exists_moment {j : Nat} {m' : Moment} (hj : moment b limits mins j = m)
    (h : Leads b limits mins m m') : ∃ k, j ≤ k ∧ moment b limits mins k = m' := by
  obtain ⟨n, hn⟩ := h
  refine ⟨n + j, Nat.le_add_left j n, ?_⟩
  unfold moment at hj ⊢
  rw [Function.iterate_add_apply, hj, hn]

/-- A walk that begins at a moment is a walk of the analysis, and a later moment has the ledger that
it leaves. -/
theorem moment_walk {walks : List OpenWalk} {reports : List EntrypointReport} (depth : Nat)
    {j : Nat} (hj : moment b limits mins j = .underway (.first p :: walks) (l.opened p) reports) :
    Outcome (walk b limits (analyze b limits depth) p (l.opened p))
      (fun r => ∃ k, j ≤ k ∧ moment b limits mins k = .underway walks (r.2.closed p r.1) reports)
      (fun d => d ≠ .unfinished → ∃ k, j ≤ k ∧ moment b limits mins k = .ended (.error d)) :=
  (played_freshAt b limits mins (depth + 1) p l walks reports).mono
    (fun _ hleads => hleads.exists_moment hj) fun _ hleads hd => (hleads hd).exists_moment hj

theorem moment_ended {j k : Nat} {result : Except Defect (List EntrypointReport)}
    (h : moment b limits mins j = .ended result) (hjk : j ≤ k) :
    moment b limits mins k = .ended result := by
  induction hjk with
  | refl => exact h
  | step _ ih => rw [Nat.succ_eq_add_one, moment_succ, ih, Moment.next]

/-! ## Ops that are put off -/

/-- The innermost walk has come to an op that runs a source whose own walk, from as many words, has
not ended. Such an op is put off as `d`. -/
def Moment.Reenters (b : Bundle) (m : Moment) (d : Deferred) : Prop :=
  ∃ w walks l reports op f, m = .underway (w :: walks) l reports ∧
    (w.start.ops b)[w.ip]? = some op ∧ Opcode.ofId? op.opcode = some (.flow f) ∧
    (∃ w' ∈ w :: walks, w'.start = targetOf op.operand) ∧
    d = ⟨w.start.source, w.ip, targetOf op.operand, f.needed op.operand⟩

/-- **No such op is passed over.** -/
theorem owes_of_reenters {k : Nat} (h : (moment b limits mins k).Reenters b d) :
    (moment b limits mins (k + 1)).OnLedger (d ∈ ·.deferred) := by
  obtain ⟨w, walks, l, reports, op, f, hk, hop, ho, htarget, rfl⟩ := h
  have hbooks := moment_consistent hk
  have hact := (hbooks.chain _).mpr htarget
  have hnew := Ledger.not_mem_known_iff.mp (hbooks.apart _ hact)
  have hstep := Moment.next_step b limits mins (moment b limits mins k)
  rw [moment_succ]
  rw [hk] at hstep ⊢
  generalize (Moment.underway (w :: walks) l reports).next b limits mins = m' at hstep
  cases hstep with
  | stop => trivial
  | close hend =>
    rw [hop] at hend
    cases hend
  | nest hop' _ _ hidle =>
    rw [hop] at hop'
    cases hop'
    exact absurd hact hidle
  | advance hop' hwalk _ _ =>
    rw [hop] at hop'
    cases hop'
    change _ ∈ _
    rcases walkOp_remembered hwalk with ⟨-, hknown⟩ | ⟨f', ho', -, hdefer⟩
    · obtain ⟨s, hs, -⟩ := hknown f ho
      rw [hnew] at hs
      cases hs
    · rw [ho] at ho'
      cases ho'
      rw [hdefer]
      exact List.mem_append_right _ (List.mem_singleton.mpr rfl)

/-! ## The two branches -/

/-- The analysis of the entrypoints of a check ends with these reports and this ledger. -/
def Surveys (b : Bundle) (limits : Limits) (mins : List Nat) (reports : List EntrypointReport)
    (l : Ledger) : Prop :=
  (checkEntrypoints (analyze b limits (nestingBound b)) 0 mins).run .blank = .ok (reports, l)

/-- `checkEntrypoints`, where an entrypoint without a summary is dealt with as `lost` says. -/
def checkEntrypointsOr (lost : Analysis (List EntrypointReport))
    (analyze : Start → Analysis (Option Summary)) :
    (index : Nat) → (minOutputs : List Nat) → Analysis (List EntrypointReport)
  | _, [] => return []
  | index, min :: mins => do
    match ← analyze ⟨index, 0⟩ with
    | none => lost
    | some summary =>
      if summary.final < min then throw (.minOutputs index min summary.final)
      else do
        let reports ← checkEntrypointsOr lost analyze (index + 1) mins
        return ⟨index, summary.final, summary.peak⟩ :: reports

/-- `settle`, where an op whose target has no summary is dealt with as `lost` says. -/
def settleOr (lost : Except Defect Unit) (finished : List (Start × Summary)) :
    List Deferred → Except Defect Unit
  | [] => .ok ()
  | d :: ds =>
    match finished.lookup d.target with
    | none => lost
    | some summary =>
      if summary.final < d.needed then
        .error (.atOp d.source d.ip (.calleeOutputs d.target.source d.needed summary.final))
      else settleOr lost finished ds

/-- `check`, with anything in the place of its two branches for want of a summary. -/
def checkOr (lost : Analysis (List EntrypointReport)) (lost' : Except Defect Unit)
    (bundle : Bundle) (limits : Limits) (minOutputs : List Nat) :
    Except Defect (List EntrypointReport) :=
  if minOutputs.isEmpty then .error .noEntrypoints
  else if bundle.sources.length < minOutputs.length then
    .error (.tooManyEntrypoints minOutputs.length bundle.sources.length)
  else do
    let (reports, ledger) ← (checkEntrypointsOr lost
      (analyze bundle limits (nestingBound bundle)) 0 minOutputs).run .blank
    settleOr lost' ledger.finished ledger.deferred
    return reports

/-- Nothing is under way when an entrypoint is turned to, so it is found or walked. -/
theorem analyze_idle (limits : Limits) {depth : Nat} (hdepth : nestingBound b ≤ depth)
    (hidle : l.active = []) (index : Nat) :
    Outcome (analyze b limits depth ⟨index, 0⟩ l)
      (fun r => (∃ s, r.1 = some s) ∧ r.2.active = []) (fun _ => True) := by
  have hfinishes := analyze_entrypoint_finishes limits hdepth index l hidle
  cases hx : analyze b limits depth ⟨index, 0⟩ l with
  | error d => trivial
  | ok r =>
    rw [hx] at hfinishes
    refine ⟨?_, hfinishes⟩
    rw [analyze_eq, consult_apply] at hx
    cases hs : l.finished.lookup ⟨index, 0⟩ with
    | some s =>
      simp only [hs] at hx
      cases hx
      exact ⟨s, rfl⟩
    | none =>
      simp only [hs, hidle, List.not_mem_nil, ↓reduceIte] at hx
      cases hwalk : freshAt b limits depth ⟨index, 0⟩ (l.opened ⟨index, 0⟩) with
      | error d =>
        rw [hwalk] at hx
        cases hx
      | ok r' =>
        rw [hwalk] at hx
        cases hx
        exact ⟨r'.1, rfl⟩

theorem checkEntrypointsOr_eq (lost : Analysis (List EntrypointReport)) (limits : Limits)
    {depth : Nat} (hdepth : nestingBound b ≤ depth) (index : Nat) (mins : List Nat)
    (hidle : l.active = []) :
    checkEntrypointsOr lost (analyze b limits depth) index mins l =
      checkEntrypoints (analyze b limits depth) index mins l := by
  induction mins generalizing index l with
  | nil => rfl
  | cons min mins ih =>
    have hanalyze := analyze_idle limits hdepth hidle index
    simp only [checkEntrypointsOr, checkEntrypoints, bind, StateT.bind]
    cases hx : analyze b limits depth ⟨index, 0⟩ l with
    | error d => rfl
    | ok r =>
      obtain ⟨found, l'⟩ := r
      rw [hx] at hanalyze
      obtain ⟨⟨s, rfl⟩, hidle'⟩ := hanalyze
      simp only [Except.bind, Option.getD_some]
      by_cases hlt : s.final < min
      · simp only [hlt, ↓reduceIte]
      · simp only [hlt, ↓reduceIte, StateT.bind, ih (index + 1) hidle']

theorem settleOr_eq (lost : Except Defect Unit) (ds : List Deferred)
    (h : ∀ d ∈ ds, d.target ∈ l.known) :
    settleOr lost l.finished ds = settle l.finished ds := by
  induction ds with
  | nil => rfl
  | cons d ds ih =>
    obtain ⟨s, hs⟩ := Ledger.mem_known_iff.mp (h d List.mem_cons_self)
    unfold settleOr settle
    rw [show l.finished.lookup d.target = some s from hs]
    simp only [ih fun d' hd' => h d' (List.mem_cons_of_mem d hd')]

namespace Surveys

variable {reports : List EntrypointReport}

/-- What is left to do once the entrypoints are reported. -/
theorem check_eq (h : Surveys b limits mins reports l) (hmins : mins ≠ [])
    (hlen : mins.length ≤ b.sources.length) :
    check b limits mins = do
      settle l.finished l.deferred
      return reports := by
  have hempty : ¬ mins.isEmpty = true := fun hnil => hmins (List.isEmpty_iff.mp hnil)
  unfold Surveys at h
  unfold check checkWithin
  simp only [hempty, Nat.not_lt.mpr hlen, ↓reduceIte, h]
  rfl

/-- The ledger that the entrypoints leave is that of the last moment before the check ends. -/
theorem exists_moment (h : Surveys b limits mins reports l) (hmins : mins ≠ [])
    (hlen : mins.length ≤ b.sources.length) :
    ∃ k, moment b limits mins k = .underway [] l reports ∧
      moment b limits mins (k + 1) = .ended (check b limits mins) := by
  have hempty : ¬ mins.isEmpty = true := fun hnil => hmins (List.isEmpty_iff.mp hnil)
  have hinitial : Moment.initial b mins = .underway [] .blank [] := by
    simp only [Moment.initial, hempty, Bool.false_eq_true, Nat.not_lt.mpr hlen, ↓reduceIte]
  have hrun : checkEntrypoints (analyze b limits (nestingBound b)) 0 mins .blank =
      .ok (reports, l) := h
  have htallies : Tallies b limits mins [] (.underway [] .blank [])
      (checkEntrypoints (analyze b limits (nestingBound b)) 0 mins .blank) :=
    checkEntrypoints_tallies limits (Nat.le_refl _) mins [] List.drop_zero .blank rfl
  rw [hrun, ← hinitial] at htallies
  obtain ⟨hall, k, hk⟩ := htallies
  have hlast : moment b limits mins k = .underway [] l reports := hk
  have hnone : mins[reports.length]? = none := List.getElem?_eq_none_iff.mpr hall
  refine ⟨k, hlast, ?_⟩
  rw [moment_succ, hlast, h.check_eq hmins hlen]
  simp only [Moment.next, Moment.turn, hnone]

theorem consistent (h : Surveys b limits mins reports l) (hmins : mins ≠ [])
    (hlen : mins.length ≤ b.sources.length) : l.Consistent [] := by
  obtain ⟨k, hk, -⟩ := h.exists_moment hmins hlen
  exact moment_consistent hk

/-- What is put off at any moment is settled at the end. -/
theorem mem_deferred (h : Surveys b limits mins reports l) (hmins : mins ≠ [])
    (hlen : mins.length ≤ b.sources.length) {j : Nat} (hj : (moment b limits mins j).Reenters b d) :
    d ∈ l.deferred := by
  obtain ⟨k, hk, hend⟩ := h.exists_moment hmins hlen
  have hjk : j + 1 ≤ k := by
    obtain ⟨w, walks, _, _, _, _, hwalks, -⟩ := hj
    rcases Nat.lt_trichotomy j k with hlt | rfl | hlt
    · exact hlt
    · rw [hk] at hwalks
      cases hwalks
    · rw [moment_ended hend hlt] at hwalks
      cases hwalks
  have howes := onLedger_of_le (Ledger.lasting_owes d) hjk (owes_of_reenters hj)
  rw [hk] at howes
  exact howes

end Surveys

/-- **The two branches are never taken.** -/
theorem checkOr_eq_check (lost : Analysis (List EntrypointReport)) (lost' : Except Defect Unit)
    (b : Bundle) (limits : Limits) (mins : List Nat) :
    checkOr lost lost' b limits mins = check b limits mins := by
  have hsame : checkEntrypointsOr lost (analyze b limits (nestingBound b)) 0 mins .blank =
      checkEntrypoints (analyze b limits (nestingBound b)) 0 mins .blank :=
    checkEntrypointsOr_eq lost limits (Nat.le_refl _) 0 mins rfl
  unfold checkOr
  by_cases hempty : mins.isEmpty = true
  · simp only [check, checkWithin, hempty, ↓reduceIte]
  by_cases hlen : b.sources.length < mins.length
  · simp only [check, checkWithin, hempty, hlen, ↓reduceIte]
  simp only [hempty, hlen, Bool.false_eq_true, ↓reduceIte, StateT.run, hsame]
  cases hrun : checkEntrypoints (analyze b limits (nestingBound b)) 0 mins .blank with
  | error d =>
    simp only [check, checkWithin, hempty, hlen, Bool.false_eq_true, ↓reduceIte, StateT.run, hrun]
    rfl
  | ok r =>
    obtain ⟨reports, l⟩ := r
    have hsurveys : Surveys b limits mins reports l := hrun
    have hmins : mins ≠ [] := fun hnil => hempty (List.isEmpty_iff.mpr hnil)
    have hbooks := hsurveys.consistent hmins (Nat.le_of_not_lt hlen)
    have hsettle := settleOr_eq lost' l.deferred fun d hd => hbooks.known_of_idle hd
    rw [hsurveys.check_eq hmins (Nat.le_of_not_lt hlen), ← hsettle]
    rfl

theorem settle_eq_ok_iff (h : ∀ d ∈ l.deferred, d.target ∈ l.known) :
    settle l.finished l.deferred = .ok () ↔
      ∀ d ∈ l.deferred, ∃ s, l.found d.target = some s ∧ d.needed ≤ s.final := by
  have hout := settle_outcome l.finished l.deferred
  constructor
  · intro hsettle d hd
    rw [hsettle] at hout
    obtain ⟨s, hs⟩ := Ledger.mem_known_iff.mp (h d hd)
    exact ⟨s, hs, hout d hd s hs⟩
  · intro hall
    cases hsettle : settle l.finished l.deferred with
    | ok _ => rfl
    | error defect =>
      rw [hsettle] at hout
      obtain ⟨d, hd, s, hs, hlt⟩ := hout
      obtain ⟨t, ht, hle⟩ := hall d hd
      rw [show l.found d.target = some s from hs] at ht
      cases ht
      omega

/-- A bundle whose entrypoints are reported is accepted if every op that was put off is left what it
needs, and only then. -/
theorem Surveys.check_eq_ok_iff {reports : List EntrypointReport}
    (h : Surveys b limits mins reports l) (hmins : mins ≠ [])
    (hlen : mins.length ≤ b.sources.length) :
    check b limits mins = .ok reports ↔
      ∀ d ∈ l.deferred, ∃ s, l.found d.target = some s ∧ d.needed ≤ s.final := by
  rw [h.check_eq hmins hlen,
    ← settle_eq_ok_iff fun d hd => (h.consistent hmins hlen).known_of_idle hd]
  cases settle l.finished l.deferred with
  | ok _ => exact ⟨fun _ => rfl, fun _ => rfl⟩
  | error d => exact ⟨nofun, nofun⟩

/-- An entrypoint has a summary, whatever entrypoints were analyzed before it. -/
theorem Surveys.analyze_eq_some {reports : List EntrypointReport}
    (h : Surveys b limits mins reports l) {index : Nat} {found : Option Summary} {l' : Ledger}
    (hanalyze : analyze b limits (nestingBound b) ⟨index, 0⟩ l = .ok (found, l')) :
    ∃ s, found = some s := by
  have hfinishes : Outcome (checkEntrypoints (analyze b limits (nestingBound b)) 0 mins .blank)
      (fun r => r.2.active = []) (fun d => d ≠ .unfinished) :=
    checkEntrypoints_finishes (Nat.le_refl _) 0 mins .blank rfl
  rw [show checkEntrypoints (analyze b limits (nestingBound b)) 0 mins .blank = .ok (reports, l)
    from h] at hfinishes
  have hidle := analyze_idle limits (Nat.le_refl (nestingBound b)) hfinishes index
  rw [hanalyze] at hidle
  exact hidle.1

/-- **The books of a check.** Whatever the bundle, the limits and the entrypoints, and whether or
not the check fails in the end:

* its moments end with its result, and every walk that begins at one of them ends at another, with
  the ledger that the analysis makes of it;
* at each, the starts recorded as being walked are those of the walks under way, none of them is
  recorded as walked, and every op that was put off has a target that is the one or the other;
* an entrypoint has a summary when the analysis of it returns;
* when the ops that were put off are settled, all their targets are known, every op met whose target
  was being walked is among them, and the bundle is accepted exactly if each is left what it needs;
* so it makes no difference what the check would do without those summaries.

A walk that ends leaves the one record for the other in one step. -/
theorem check_books_consistent (b : Bundle) (limits : Limits) (mins : List Nat) :
    (∃ n, ∀ k, n ≤ k → moment b limits mins k = .ended (check b limits mins)) ∧
    (∀ j p walks (l : Ledger) reports depth,
      moment b limits mins j = .underway (.first p :: walks) (l.opened p) reports →
      Outcome (walk b limits (analyze b limits depth) p (l.opened p))
        (fun r => ∃ k, j ≤ k ∧
          moment b limits mins k = .underway walks (r.2.closed p r.1) reports)
        (fun d => d ≠ .unfinished → ∃ k, j ≤ k ∧ moment b limits mins k = .ended (.error d))) ∧
    (∀ k walks l reports, moment b limits mins k = .underway walks l reports →
      l.Consistent walks) ∧
    (∀ i reports l found l', Surveys b limits (mins.take i) reports l →
      analyze b limits (nestingBound b) ⟨i, 0⟩ l = .ok (found, l') → ∃ s, found = some s) ∧
    (mins ≠ [] → mins.length ≤ b.sources.length → ∀ reports l, Surveys b limits mins reports l →
      (∃ k, moment b limits mins k = .underway [] l reports) ∧
      (∀ d ∈ l.deferred, d.target ∈ l.known) ∧
      (∀ k d, (moment b limits mins k).Reenters b d → d ∈ l.deferred) ∧
      (check b limits mins = .ok reports ↔
        ∀ d ∈ l.deferred, ∃ s, l.found d.target = some s ∧ d.needed ≤ s.final)) ∧
    ∀ lost lost', checkOr lost lost' b limits mins = check b limits mins := by
  refine ⟨?_, fun j p walks l reports depth => moment_walk depth,
    fun k walks l reports => moment_consistent,
    fun i reports l found l' hsurveys => hsurveys.analyze_eq_some,
    fun hmins hlen reports l hsurveys => ?_,
    fun lost lost' => checkOr_eq_check lost lost' b limits mins⟩
  · obtain ⟨n, hn⟩ := checkWithin_leads b limits mins (Nat.le_refl _)
    exact ⟨n, fun k => moment_ended hn⟩
  · obtain ⟨k, hk, -⟩ := hsurveys.exists_moment hmins hlen
    have hbooks := hsurveys.consistent hmins hlen
    exact ⟨⟨k, hk⟩, fun d => hbooks.known_of_idle, fun k d => hsurveys.mem_deferred hmins hlen,
      hsurveys.check_eq_ok_iff hmins hlen⟩

/-- The first source runs the second, which runs the first and takes a word of it. -/
def returningPair : Bundle :=
  ⟨[⟨[.ofRaw 2 0x0001, .ofRaw 0 1]⟩, ⟨[.ofRaw 2 0x1000]⟩], [1#256]⟩

/-- The op of the second source is put off while both are being walked. The first leaves the word
that it needs, and the bundle is accepted. -/
theorem returningPair_books :
    (∃ walks l reports, moment returningPair .standard [0] 3 = .underway walks l reports ∧
      l.active = [⟨1, 0⟩, ⟨0, 0⟩] ∧ l.known = [] ∧ l.deferred = [⟨1, 0, ⟨0, 0⟩, 1⟩] ∧
      l.Consistent walks) ∧
    (moment returningPair .standard [0] 2).Reenters returningPair ⟨1, 0, ⟨0, 0⟩, 1⟩ ∧
    ∃ l, Surveys returningPair .standard [0] [⟨0, 1, 1⟩] l ∧ ⟨1, 0, ⟨0, 0⟩, 1⟩ ∈ l.deferred ∧
      ⟨0, 0⟩ ∈ l.known ∧ check returningPair .standard [0] = .ok [⟨0, 1, 1⟩] ∧
      checkOr (throw .noEntrypoints) (throw .noEntrypoints) returningPair .standard [0] =
        .ok [⟨0, 1, 1⟩] := by
  obtain ⟨-, -, hbooks, -, hend, hbranches⟩ := check_books_consistent returningPair .standard [0]
  have hsite : (moment returningPair .standard [0] 2).Reenters returningPair ⟨1, 0, ⟨0, 0⟩, 1⟩ :=
    ⟨⟨⟨1, 0⟩, 0, 0, 0⟩, [⟨⟨0, 0⟩, 0, 0, 0⟩], _, _, .ofRaw 2 0x1000, .call, rfl, rfl, rfl,
      ⟨⟨⟨0, 0⟩, 0, 0, 0⟩, List.mem_cons_of_mem _ List.mem_cons_self, rfl⟩, rfl⟩
  have hsurveys : Surveys returningPair .standard [0] [⟨0, 1, 1⟩] _ := rfl
  have hcheck : check returningPair .standard [0] = .ok [⟨0, 1, 1⟩] := rfl
  obtain ⟨-, hknown, hmet, -⟩ := hend (List.cons_ne_nil _ _) (by decide) _ _ hsurveys
  have hmem := hmet 2 _ hsite
  exact ⟨⟨_, _, _, rfl, rfl, rfl, rfl, hbooks 3 _ _ _ rfl⟩, hsite, _, hsurveys, hmem,
    hknown _ hmem, hcheck, (hbranches _ _).trans hcheck⟩

end Integrity

end ExprMachine
