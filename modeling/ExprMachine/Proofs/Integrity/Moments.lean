import ExprMachine.Proofs.Integrity.Nesting
import ExprMachine.Proofs.Integrity.Tracking
import Mathlib.Logic.Function.Iterate

/-!
# A check, moment by moment

A check that stops with a defect leaves no ledger behind, so its result does not show what was under
way. Here a check is taken apart into moments (`Moment`): the walks that have not ended, innermost
first, each with the op that it has come to, then the ledger and the reports so far. `Moment.next`
walks one op further with what the ledger holds (`remembered`). Where that is not enough, it begins
the walk of the start that the op runs, and comes back to the op when that walk has ended. No bound
on the nesting is given to it.

* `Asks.known_or_waits`: an op is walked in the same way with what the ledger holds as with an
  analysis of its own, or waits for one walk.
* `PlaysOut`, `Tallies`: the moments of a walk and of the entrypoints follow the analysis.
* `checkWithin_leads`: the moments of a check end with its result, however deep its walks were
  allowed to nest.
-/

namespace ExprMachine

namespace Integrity

/-- A walk that has not ended: what it began with, the op that comes next, the height there, and the
greatest height so far. -/
structure OpenWalk where
  start : Start
  ip : Nat
  height : Nat
  peak : Nat

/-- A walk that begins. -/
def OpenWalk.first (p : Start) : OpenWalk := ⟨p, 0, p.height, p.height⟩

/-- A check between two of its steps. -/
inductive Moment where
  | underway (walks : List OpenWalk) (ledger : Ledger) (reports : List EntrypointReport)
  | ended (result : Except Defect (List EntrypointReport))

/-- What the ledger holds of a start. Nothing is walked for it: a start that is new to the ledger is
left `unfinished`. -/
def remembered : Start → Analysis (Option Summary) := consult fun _ => throw .unfinished

namespace Moment

/-- No walk is under way: the next entrypoint is walked, or reported if it has been, and after the
last one the ops that were put off are checked. -/
def turn (mins : List Nat) (ledger : Ledger) (reports : List EntrypointReport) : Moment :=
  match mins[reports.length]? with
  | none => .ended (do
    settle ledger.finished ledger.deferred
    return reports)
  | some min =>
    match ledger.found ⟨reports.length, 0⟩ with
    | none => .underway [.first ⟨reports.length, 0⟩] (ledger.opened ⟨reports.length, 0⟩) reports
    | some summary =>
      if summary.final < min then
        .ended (.error (.minOutputs reports.length min summary.final))
      else
        .underway [] ledger (reports ++ [⟨reports.length, summary.final, summary.peak⟩])

/-- The innermost walk has come to an op. -/
def advance (bundle : Bundle) (limits : Limits) (w : OpenWalk) (op : Op) (walks : List OpenWalk)
    (ledger : Ledger) (reports : List EntrypointReport) : Moment :=
  match walkOp bundle limits remembered w.start.source w.ip op w.height w.peak ledger with
  | .ok ((height, peak), ledger) =>
    .underway (⟨w.start, w.ip + 1, height, peak⟩ :: walks) ledger reports
  | .error .unfinished =>
    .underway (.first (targetOf op.operand) :: w :: walks) (ledger.opened (targetOf op.operand))
      reports
  | .error defect => .ended (.error defect)

/-- What follows a moment. -/
def next (bundle : Bundle) (limits : Limits) (mins : List Nat) : Moment → Moment
  | .ended result => .ended result
  | .underway [] ledger reports => turn mins ledger reports
  | .underway (w :: walks) ledger reports =>
    match (w.start.ops bundle)[w.ip]? with
    | some op => advance bundle limits w op walks ledger reports
    | none => .underway walks (ledger.closed w.start ⟨w.height, w.peak⟩) reports

/-- The moment at which a check begins. -/
def initial (bundle : Bundle) (mins : List Nat) : Moment :=
  if mins.isEmpty then .ended (.error .noEntrypoints)
  else if bundle.sources.length < mins.length then
    .ended (.error (.tooManyEntrypoints mins.length bundle.sources.length))
  else .underway [] .blank []

end Moment

/-- The moment of a check after `n` steps. -/
def moment (bundle : Bundle) (limits : Limits) (mins : List Nat) (n : Nat) : Moment :=
  (Moment.next bundle limits mins)^[n] (Moment.initial bundle mins)

/-! ## Steps that wait -/

/-- **A step waits for one walk at most.** Either what the ledger holds is enough for it, or its
target exists, is neither walked nor being walked, and the step goes on from the ledger that the
walk of its target leaves. -/
theorem Asks.known_or_waits {α : Type} {b : Bundle} {target : Start}
    {x : (Start → Analysis (Option Summary)) → Analysis α} (hx : Asks b target x)
    (fresh : Start → Analysis Summary) (l : Ledger) :
    (x (consult fresh) l = x remembered l ∧
      Outcome (x remembered l) (fun r => r.2.finished = l.finished ∧ r.2.active = l.active)
        (fun d => d ≠ .unfinished)) ∨
    (x remembered l = .error .unfinished ∧ target.source < b.sources.length ∧
      l.found target = none ∧ target ∉ l.active ∧
      x (consult fresh) l = (fresh target (l.opened target)).bind fun r =>
        x remembered (r.2.closed target r.1)) := by
  rcases hx with ⟨y, hy, hx⟩ | ⟨htarget, resume, hresume, hx⟩
  · rw [hx, hx]
    exact .inl ⟨rfl, hy l⟩
  have happly (c : Start → Analysis (Option Summary)) (l : Ledger) :
      x c l = (c target l).bind fun r => resume r.1 r.2 := by
    rw [hx]
    rfl
  -- With something to go by, the step is the same whatever would be walked.
  have hfound {s : Summary} {l : Ledger} (hs : l.finished.lookup target = some s)
      (fresh : Start → Analysis Summary) : x (consult fresh) l = resume (some s) l := by
    rw [happly, consult_apply, hs]
    rfl
  cases hs : l.finished.lookup target with
  | some s =>
    refine .inl ⟨?_, ?_⟩
    · rw [hfound hs, remembered, hfound hs]
    · rw [remembered, hfound hs]
      exact hresume (some s) l
  | none =>
    by_cases hact : target ∈ l.active
    · have hnone (fresh : Start → Analysis Summary) : x (consult fresh) l = resume none l := by
        rw [happly, consult_apply, hs]
        simp only [hact, ↓reduceIte]
        rfl
      refine .inl ⟨?_, ?_⟩
      · rw [hnone, remembered, hnone]
      · rw [remembered, hnone]
        exact hresume none l
    · have hfresh (fresh : Start → Analysis Summary) : x (consult fresh) l =
          (fresh target (l.opened target)).bind fun r =>
            resume (some r.1) (r.2.closed target r.1) := by
        rw [happly, consult_apply, hs]
        simp only [hact, ↓reduceIte]
        cases fresh target (l.opened target) with
        | ok r => rfl
        | error d => rfl
      refine .inr ⟨?_, htarget, hs, hact, ?_⟩
      · rw [remembered, hfresh]
        rfl
      · rw [hfresh]
        congr 1
        funext r
        have hclosed := Ledger.found_closed r.2 target r.1 target
        rw [if_pos rfl] at hclosed
        rw [remembered, hfound hclosed]

/-! ## Moments that lead to others -/

variable {b : Bundle} {limits : Limits} {mins : List Nat}

section Advance

variable {w : OpenWalk} {op : Op} {walks : List OpenWalk} {l : Ledger}
  {reports : List EntrypointReport}

theorem next_of_op (hop : (w.start.ops b)[w.ip]? = some op) :
    (Moment.underway (w :: walks) l reports).next b limits mins =
      Moment.advance b limits w op walks l reports := by
  simp only [Moment.next, hop]

theorem advance_ok {r : (Nat × Nat) × Ledger}
    (h : walkOp b limits remembered w.start.source w.ip op w.height w.peak l = .ok r) :
    Moment.advance b limits w op walks l reports =
      .underway (⟨w.start, w.ip + 1, r.1.1, r.1.2⟩ :: walks) r.2 reports := by
  simp only [Moment.advance, h]

theorem advance_blocked
    (h : walkOp b limits remembered w.start.source w.ip op w.height w.peak l = .error .unfinished) :
    Moment.advance b limits w op walks l reports =
      .underway (.first (targetOf op.operand) :: w :: walks) (l.opened (targetOf op.operand))
        reports := by
  simp only [Moment.advance, h]

theorem advance_error {d : Defect}
    (h : walkOp b limits remembered w.start.source w.ip op w.height w.peak l = .error d)
    (hd : d ≠ .unfinished) :
    Moment.advance b limits w op walks l reports = .ended (.error d) := by
  unfold Moment.advance
  rw [h]
  split
  · rename_i heq
    cases heq
  · rename_i heq
    cases heq
    exact absurd rfl hd
  · rename_i heq
    cases heq
    rfl

end Advance

/-- The one moment comes some steps after the other. -/
def Leads (b : Bundle) (limits : Limits) (mins : List Nat) (m m' : Moment) : Prop :=
  ∃ n, (Moment.next b limits mins)^[n] m = m'

variable {m m' m'' : Moment}

theorem Leads.refl (m : Moment) : Leads b limits mins m m := ⟨0, rfl⟩

theorem Leads.trans (h : Leads b limits mins m m') (h' : Leads b limits mins m' m'') :
    Leads b limits mins m m'' := by
  obtain ⟨n, rfl⟩ := h
  obtain ⟨n', rfl⟩ := h'
  exact ⟨n' + n, Function.iterate_add_apply _ _ _ _⟩

theorem Leads.single (h : m.next b limits mins = m') : Leads b limits mins m m' := ⟨1, h⟩

theorem iterate_ended (result : Except Defect (List EntrypointReport)) (n : Nat) :
    (Moment.next b limits mins)^[n] (.ended result) = .ended result :=
  Function.iterate_fixed rfl n

/-- A check ends once. -/
theorem Leads.ended_unique {r r' : Except Defect (List EntrypointReport)}
    (h : Leads b limits mins m (.ended r)) (h' : Leads b limits mins m (.ended r')) : r = r' := by
  obtain ⟨n, hn⟩ := h
  obtain ⟨n', hn'⟩ := h'
  have hr : (Moment.next b limits mins)^[n' + n] m = .ended r := by
    rw [Function.iterate_add_apply, hn, iterate_ended]
  have hr' : (Moment.next b limits mins)^[n + n'] m = .ended r' := by
    rw [Function.iterate_add_apply, hn', iterate_ended]
  rw [Nat.add_comm n n', hr] at hr'
  cases hr'
  rfl

/-! ## Walks -/

/-- From the moment `m` on, the walk of `p` ends as `x` says: it returns to the walks below with a
ledger that holds what it found, or the check ends with its defect. -/
def PlaysOut (b : Bundle) (limits : Limits) (mins : List Nat) (p : Start) (walks : List OpenWalk)
    (reports : List EntrypointReport) (m : Moment) (x : Except Defect (Summary × Ledger)) : Prop :=
  Outcome x
    (fun r => Leads b limits mins m (.underway walks (r.2.closed p r.1) reports))
    (fun d => d ≠ .unfinished → Leads b limits mins m (.ended (.error d)))

/-- The walk of any start plays out as `fresh` says. -/
def Played (b : Bundle) (limits : Limits) (mins : List Nat) (fresh : Start → Analysis Summary) :
    Prop :=
  ∀ (p : Start) (l : Ledger) (walks : List OpenWalk) (reports : List EntrypointReport),
    PlaysOut b limits mins p walks reports
      (.underway (.first p :: walks) (l.opened p) reports) (fresh p (l.opened p))

theorem PlaysOut.of_leads {p : Start} {walks : List OpenWalk} {reports : List EntrypointReport}
    {x : Except Defect (Summary × Ledger)} (h : PlaysOut b limits mins p walks reports m' x)
    (hm : Leads b limits mins m m') : PlaysOut b limits mins p walks reports m x :=
  h.mono (fun _ => hm.trans) fun _ hd hne => hm.trans (hd hne)

/-- **The ops of a walk.** By induction on the ops that are left. -/
theorem walkOps_playsOut {fresh : Start → Analysis Summary} (hfresh : Played b limits mins fresh)
    (w : OpenWalk) (ops : List Op) (hops : (w.start.ops b).drop w.ip = ops)
    (walks : List OpenWalk) (l : Ledger) (reports : List EntrypointReport) :
    PlaysOut b limits mins w.start walks reports (.underway (w :: walks) l reports)
      (walkOps b limits (consult fresh) w.start.source w.ip ops w.height w.peak l) := by
  induction ops generalizing w l with
  | nil =>
    have hend : (w.start.ops b)[w.ip]? = none :=
      List.getElem?_eq_none_iff.mpr (List.drop_eq_nil_iff.mp hops)
    refine Leads.single ?_
    simp only [Moment.next, hend]
  | cons op ops ih =>
    obtain ⟨hop, hrest⟩ := getElem?_of_drop hops
    -- What follows the op, once the ledger holds enough for it.
    have hknown (l : Ledger) :
        PlaysOut b limits mins w.start walks reports (.underway (w :: walks) l reports)
          ((walkOp b limits remembered w.start.source w.ip op w.height w.peak l).bind fun r =>
            walkOps b limits (consult fresh) w.start.source (w.ip + 1) ops r.1.1 r.1.2 r.2) := by
      cases hx : walkOp b limits remembered w.start.source w.ip op w.height w.peak l with
      | ok r =>
        exact (ih ⟨w.start, w.ip + 1, r.1.1, r.1.2⟩ hrest r.2).of_leads
          (Leads.single ((next_of_op hop).trans (advance_ok hx)))
      | error d => exact fun hd => Leads.single ((next_of_op hop).trans (advance_error hx hd))
    have happly : walkOps b limits (consult fresh) w.start.source w.ip (op :: ops) w.height w.peak
        l = (walkOp b limits (consult fresh) w.start.source w.ip op w.height w.peak l).bind fun r =>
          walkOps b limits (consult fresh) w.start.source (w.ip + 1) ops r.1.1 r.1.2 r.2 := rfl
    rw [happly]
    have hasks := walkOp_asks (b := b) limits w.start.source w.ip op w.height w.peak
    rcases hasks.known_or_waits fresh l with ⟨hsame, -⟩ | ⟨hblocked, -, -, -, hwait⟩
    · rw [hsame]
      exact hknown l
    · rw [hwait]
      have hplayed := hfresh (targetOf op.operand) l (w :: walks) reports
      have hbegin : Leads b limits mins (.underway (w :: walks) l reports)
          (.underway (.first (targetOf op.operand) :: w :: walks)
            (l.opened (targetOf op.operand)) reports) :=
        Leads.single ((next_of_op hop).trans (advance_blocked hblocked))
      cases hwalk : fresh (targetOf op.operand) (l.opened (targetOf op.operand)) with
      | error d =>
        rw [hwalk] at hplayed
        exact fun hd => hbegin.trans (hplayed hd)
      | ok r =>
        rw [hwalk] at hplayed
        exact (hknown (r.2.closed (targetOf op.operand) r.1)).of_leads (hbegin.trans hplayed)

theorem walk_eq (c : Start → Analysis (Option Summary)) (p : Start) :
    walk b limits c p = walkOps b limits c p.source 0 (p.ops b) p.height p.height := by
  unfold walk Start.ops
  cases b.sources[p.source]? with
  | none => rfl
  | some source => rfl

/-- What an analysis does for a start that is new to it. -/
def freshAt (b : Bundle) (limits : Limits) : (depth : Nat) → Start → Analysis Summary
  | 0 => fun _ => throw .unfinished
  | depth + 1 => walk b limits (analyze b limits depth)

theorem analyze_eq (depth : Nat) : analyze b limits depth = consult (freshAt b limits depth) := by
  cases depth with
  | zero => rfl
  | succ depth => rfl

/-- **Every walk plays out.** By induction on how deep walks may nest. -/
theorem played_freshAt (b : Bundle) (limits : Limits) (mins : List Nat) (depth : Nat) :
    Played b limits mins (freshAt b limits depth) := by
  induction depth with
  | zero => exact fun p l walks reports hd => absurd rfl hd
  | succ depth ih =>
    intro p l walks reports
    rw [freshAt, walk_eq, analyze_eq]
    exact walkOps_playsOut ih (.first p) _ List.drop_zero walks (l.opened p) reports

/-! ## Checks -/

/-- From the moment `m` on, the entrypoints that are left are reported as `x` says. -/
def Tallies (b : Bundle) (limits : Limits) (mins : List Nat) (reports : List EntrypointReport)
    (m : Moment) (x : Except Defect (List EntrypointReport × Ledger)) : Prop :=
  Outcome x
    (fun r => mins.length ≤ (reports ++ r.1).length ∧
      Leads b limits mins m (.underway [] r.2 (reports ++ r.1)))
    (fun d => d ≠ .unfinished → Leads b limits mins m (.ended (.error d)))

theorem Tallies.of_leads {reports : List EntrypointReport}
    {x : Except Defect (List EntrypointReport × Ledger)} (h : Tallies b limits mins reports m' x)
    (hm : Leads b limits mins m m') : Tallies b limits mins reports m x :=
  h.mono (fun _ hr => ⟨hr.1, hm.trans hr.2⟩) fun _ hd hne => hm.trans (hd hne)

/-- An entrypoint whose summary is known is reported, and the others after it. -/
theorem Tallies.report {reports : List EntrypointReport} {l : Ledger} {min : Nat} {s : Summary}
    {x : Except Defect (List EntrypointReport × Ledger)}
    (hmin : mins[reports.length]? = some min) (hs : l.found ⟨reports.length, 0⟩ = some s)
    (hx : Tallies b limits mins (reports ++ [⟨reports.length, s.final, s.peak⟩])
      (.underway [] l (reports ++ [⟨reports.length, s.final, s.peak⟩])) x) :
    Tallies b limits mins reports (.underway [] l reports)
      (if s.final < min then .error (.minOutputs reports.length min s.final)
        else x.bind fun r => .ok (⟨reports.length, s.final, s.peak⟩ :: r.1, r.2)) := by
  have hnext : (Moment.underway [] l reports).next b limits mins =
      if s.final < min then .ended (.error (.minOutputs reports.length min s.final))
      else .underway [] l (reports ++ [⟨reports.length, s.final, s.peak⟩]) := by
    simp only [Moment.next, Moment.turn, hmin, hs]
  by_cases hlt : s.final < min
  · simp only [hlt, ↓reduceIte] at hnext ⊢
    exact fun _ => Leads.single hnext
  · simp only [hlt, ↓reduceIte] at hnext ⊢
    refine Tallies.of_leads ?_ (Leads.single hnext)
    cases x with
    | error d => exact hx
    | ok r =>
      unfold Tallies at hx ⊢
      simp only [Outcome, List.append_assoc, List.singleton_append] at hx
      exact hx

/-- An entrypoint is turned to while nothing is under way, and its summary is known afterwards. -/
theorem analyze_entrypoint_leads (limits : Limits) {depth : Nat} (hdepth : nestingBound b ≤ depth)
    {reports : List EntrypointReport} {min : Nat} (hmin : mins[reports.length]? = some min)
    {l : Ledger} (hidle : l.active = []) :
    Outcome (analyze b limits depth ⟨reports.length, 0⟩ l)
      (fun r => ∃ s, r.1 = some s ∧ r.2.found ⟨reports.length, 0⟩ = some s ∧ r.2.active = [] ∧
        Leads b limits mins (.underway [] l reports) (.underway [] r.2 reports))
      (fun d => d ≠ .unfinished →
        Leads b limits mins (.underway [] l reports) (.ended (.error d))) := by
  have hfinishes := analyze_entrypoint_finishes limits hdepth reports.length l hidle
  rw [analyze_eq, consult_apply] at hfinishes ⊢
  cases hs : l.finished.lookup ⟨reports.length, 0⟩ with
  | some s => exact ⟨s, rfl, hs, hidle, Leads.refl _⟩
  | none =>
    have hbegin : Leads b limits mins (.underway [] l reports)
        (.underway [.first ⟨reports.length, 0⟩] (l.opened ⟨reports.length, 0⟩) reports) := by
      refine Leads.single ?_
      simp only [Moment.next, Moment.turn, hmin, Ledger.found, hs]
    have hplayed := played_freshAt b limits mins depth ⟨reports.length, 0⟩ l [] reports
    simp only [hs, hidle, List.not_mem_nil, ↓reduceIte] at hfinishes ⊢
    cases hwalk : freshAt b limits depth ⟨reports.length, 0⟩ (l.opened ⟨reports.length, 0⟩) with
    | error d =>
      rw [hwalk] at hplayed
      exact fun hd => hbegin.trans (hplayed hd)
    | ok r =>
      rw [hwalk] at hplayed hfinishes
      refine ⟨r.1, rfl, ?_, hfinishes, hbegin.trans hplayed⟩
      rw [Ledger.found_closed, if_pos rfl]

/-- **The entrypoints of a check.** By induction on the entrypoints that are left. -/
theorem checkEntrypoints_tallies (limits : Limits) {depth : Nat}
    (hdepth : nestingBound b ≤ depth) (rest : List Nat) (reports : List EntrypointReport)
    (hrest : mins.drop reports.length = rest) (l : Ledger) (hidle : l.active = []) :
    Tallies b limits mins reports (.underway [] l reports)
      (checkEntrypoints (analyze b limits depth) reports.length rest l) := by
  induction rest generalizing reports l with
  | nil =>
    have hall : mins.length ≤ (reports ++ []).length := by
      rw [List.append_nil]
      exact List.drop_eq_nil_iff.mp hrest
    refine ⟨hall, ?_⟩
    rw [List.append_nil]
    exact Leads.refl _
  | cons min rest ih =>
    obtain ⟨hmin, hrest'⟩ := getElem?_of_drop hrest
    have hanalyze := analyze_entrypoint_leads limits hdepth hmin hidle
    simp only [checkEntrypoints, bind, StateT.bind]
    cases hx : analyze b limits depth ⟨reports.length, 0⟩ l with
    | error d =>
      rw [hx] at hanalyze
      exact hanalyze
    | ok r =>
      obtain ⟨found, l'⟩ := r
      rw [hx] at hanalyze
      obtain ⟨s, rfl, hs, hidle', hleads⟩ := hanalyze
      have hih := ih (reports ++ [⟨reports.length, s.final, s.peak⟩])
        (by rw [List.length_append]; exact hrest') l' hidle'
      rw [List.length_append] at hih
      have hreport := (Tallies.report hmin hs hih).of_leads hleads
      simp only [Except.bind, Option.getD_some]
      by_cases hlt : s.final < min
      · simp only [hlt, ↓reduceIte] at hreport ⊢
        exact hreport
      · simp only [hlt, ↓reduceIte] at hreport ⊢
        exact hreport

/-- **A check, moment by moment.** The moments of a check end with its result. -/
theorem checkWithin_leads (b : Bundle) (limits : Limits) (mins : List Nat) {depth : Nat}
    (hdepth : nestingBound b ≤ depth) :
    Leads b limits mins (.initial b mins) (.ended (checkWithin depth b limits mins)) := by
  have hfinished := checkWithin_ne_unfinished b limits mins hdepth
  unfold Moment.initial
  unfold checkWithin at hfinished ⊢
  by_cases hempty : mins.isEmpty = true
  · simp only [hempty, ↓reduceIte]
    exact Leads.refl _
  simp only [hempty, Bool.false_eq_true, ↓reduceIte] at hfinished ⊢
  by_cases hlen : b.sources.length < mins.length
  · simp only [hlen, ↓reduceIte]
    exact Leads.refl _
  simp only [hlen, ↓reduceIte] at hfinished ⊢
  have htallies := checkEntrypoints_tallies limits hdepth mins [] List.drop_zero .blank rfl
  unfold StateT.run at hfinished ⊢
  rw [List.length_nil] at htallies
  cases hx : checkEntrypoints (analyze b limits depth) 0 mins .blank with
  | error d =>
    rw [hx] at htallies hfinished
    exact htallies fun hd => hfinished (congrArg Except.error hd)
  | ok r =>
    rw [hx] at htallies
    obtain ⟨hall, hleads⟩ := htallies
    refine hleads.trans (Leads.single ?_)
    simp only [Moment.next, Moment.turn, List.getElem?_eq_none_iff.mpr hall]
    rfl

end Integrity

end ExprMachine
