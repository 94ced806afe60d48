import ExprMachine.Proofs.Integrity.Moments

/-!
# The walks under way

What holds at every moment of a check, whether it accepts or not (`Underway`): the ledger's starts
under way are those of the open walks, all of them distinct; but for the outermost, which is the
entrypoint's, each was named by a control-flow op, so it is one of finitely many; and none of them
has been walked to its end before.

* `Moment.Step`: what a step of a check can do, said once (`Moment.next_step`).
* `Moment.Orderly.next`: each step keeps the walks in order.
* `moment_orderly`: so it holds throughout a check.
* `ending_unique`: no start is walked to its end twice.
* `check_terminates`: a check ends, and its walks nest as deep as there are such starts at most.
-/

namespace ExprMachine

namespace Integrity

/-- The walks under way at a moment (module doc). -/
structure Underway (b : Bundle) (walks : List OpenWalk) (l : Ledger)
    (reports : List EntrypointReport) : Prop where
  active : l.active = walks.map OpenWalk.start
  distinct : l.active.Nodup
  nested : ∀ p ∈ l.active.dropLast, p.source < min 256 b.sources.length ∧ p.height ≤ 15
  outermost : ∀ p ∈ l.active.getLast?, p = ⟨reports.length, 0⟩
  apart : ∀ p ∈ l.active, l.found p = none

/-- A check is over, or its walks are as they should be. -/
def Moment.Orderly (b : Bundle) : Moment → Prop
  | .underway walks l reports => Underway b walks l reports
  | .ended _ => True

variable {b : Bundle} {limits : Limits} {mins : List Nat} {walks : List OpenWalk} {w : OpenWalk}
  {l l' : Ledger} {reports : List EntrypointReport} {m : Moment}

namespace Underway

/-- Nothing is under way. -/
theorem idle (h : l.active = []) : Underway b [] l reports := by
  refine ⟨h, ?_, ?_, ?_, ?_⟩ <;> simp [h]

/-- The walk of an entrypoint begins. -/
theorem enter (h : l.active = []) (hnew : l.found ⟨reports.length, 0⟩ = none) :
    Underway b [.first ⟨reports.length, 0⟩] (l.opened ⟨reports.length, 0⟩) reports := by
  have hactive : (l.opened ⟨reports.length, 0⟩).active = [⟨reports.length, 0⟩] :=
    congrArg (_ :: ·) h
  refine ⟨hactive, ?_, ?_, ?_, ?_⟩ <;> rw [hactive]
  · exact List.nodup_cons.mpr ⟨List.not_mem_nil, List.nodup_nil⟩
  · exact fun p hp => absurd hp List.not_mem_nil
  · rintro p ⟨⟩
    rfl
  · intro p hp
    rw [List.mem_singleton.mp hp]
    exact hnew

/-- The innermost walk goes on, and the walks stay as they are. -/
theorem advance (h : Underway b (w :: walks) l reports) (hfinished : l'.finished = l.finished)
    (hactive : l'.active = l.active) {w' : OpenWalk} (hstart : w'.start = w.start) :
    Underway b (w' :: walks) l' reports := by
  refine ⟨?_, ?_, ?_, ?_, ?_⟩
  · rw [hactive, h.active, List.map_cons, List.map_cons, hstart]
  · exact hactive ▸ h.distinct
  · exact hactive ▸ h.nested
  · exact hactive ▸ h.outermost
  · intro p hp
    unfold Ledger.found
    rw [hfinished]
    exact h.apart p (hactive ▸ hp)

/-- The walk of a target begins. -/
theorem nest (h : Underway b (w :: walks) l reports) {operand : Operand}
    (hsource : (targetOf operand).source < b.sources.length)
    (hnew : l.found (targetOf operand) = none) (hidle : targetOf operand ∉ l.active) :
    Underway b (.first (targetOf operand) :: w :: walks) (l.opened (targetOf operand)) reports := by
  have hne : l.active ≠ [] := by
    rw [h.active]
    exact List.cons_ne_nil _ _
  refine ⟨?_, ?_, ?_, ?_, ?_⟩
  · exact congrArg (targetOf operand :: ·) h.active
  · exact List.nodup_cons.mpr ⟨hidle, h.distinct⟩
  · intro p hp
    change p ∈ (targetOf operand :: l.active).dropLast at hp
    rw [List.dropLast_cons_of_ne_nil hne] at hp
    rcases List.mem_cons.mp hp with rfl | hp
    · exact ⟨Nat.lt_min.mpr ⟨operand.lowByte_lt, hsource⟩, Nat.le_of_lt_succ operand.lowCount_lt⟩
    · exact h.nested p hp
  · intro p hp
    obtain ⟨q, rest, hcons⟩ := List.exists_cons_of_ne_nil hne
    have houter := h.outermost p
    rw [hcons] at houter
    refine houter ?_
    change p ∈ (targetOf operand :: l.active).getLast? at hp
    rwa [hcons, List.getLast?_cons_cons] at hp
  · intro p hp
    rcases List.mem_cons.mp hp with rfl | hp
    · exact hnew
    · exact h.apart p hp

/-- The innermost walk ends. -/
theorem close (h : Underway b (w :: walks) l reports) (s : Summary) :
    Underway b walks (l.closed w.start s) reports := by
  have hcons : l.active = w.start :: walks.map OpenWalk.start := h.active
  have hactive : (l.closed w.start s).active = walks.map OpenWalk.start := by
    change l.active.erase w.start = _
    rw [hcons, List.erase_cons_head]
  have hdistinct := h.distinct
  have hnested := h.nested
  have houter := h.outermost
  rw [hcons] at hdistinct hnested houter
  obtain ⟨hnotin, hdistinct⟩ := List.nodup_cons.mp hdistinct
  refine ⟨hactive, ?_, ?_, ?_, ?_⟩ <;> rw [hactive]
  · exact hdistinct
  · intro p hp
    refine hnested p ?_
    have hne : walks.map OpenWalk.start ≠ [] := by
      intro hnil
      rw [hnil] at hp
      exact absurd hp List.not_mem_nil
    rw [List.dropLast_cons_of_ne_nil hne]
    exact List.mem_cons_of_mem _ hp
  · intro p hp
    refine houter p ?_
    cases hrest : walks.map OpenWalk.start with
    | nil =>
      rw [hrest] at hp
      cases hp
    | cons q rest =>
      rw [hrest] at hp
      rwa [List.getLast?_cons_cons]
  · intro p hp
    have hne : p ≠ w.start := fun heq => hnotin (heq ▸ hp)
    rw [Ledger.found_closed, if_neg hne]
    exact h.apart p (hcons ▸ List.mem_cons_of_mem _ hp)

/-- Walks nest no deeper than there are starts to walk. -/
theorem length_le (h : Underway b walks l reports) : walks.length ≤ nestingBound b := by
  have hchain : Chain b ⟨reports.length, 0⟩ l.active := by
    refine ⟨h.distinct, fun p hp => ?_⟩
    have hne := List.ne_nil_of_mem hp
    rw [← List.dropLast_concat_getLast hne] at hp
    rcases List.mem_append.mp hp with hp | hp
    · obtain ⟨hsource, hheight⟩ := h.nested p hp
      exact mem_nestable hsource (Nat.lt_succ_of_le hheight)
    · have hlast := h.outermost _ (List.getLast?_eq_some_getLast hne)
      rw [List.mem_singleton.mp hp, hlast]
      exact List.mem_cons_self
  have hlength : l.active.length = walks.length := by rw [h.active, List.length_map]
  exact hlength ▸ hchain.length_le

end Underway

/-- What a step of a check can do. -/
inductive Moment.Step (b : Bundle) (limits : Limits) : Moment → Moment → Prop
  /-- The check ends, or has ended. -/
  | stop {m : Moment} {r : Except Defect (List EntrypointReport)} : Step b limits m (.ended r)
  /-- An entrypoint that was not walked before is. -/
  | enter {l : Ledger} {reports : List EntrypointReport} :
      l.found ⟨reports.length, 0⟩ = none →
      Step b limits (.underway [] l reports)
        (.underway [.first ⟨reports.length, 0⟩] (l.opened ⟨reports.length, 0⟩) reports)
  /-- An entrypoint is reported. -/
  | report {l : Ledger} {reports : List EntrypointReport} {r : EntrypointReport} :
      Step b limits (.underway [] l reports) (.underway [] l (reports ++ [r]))
  /-- The innermost walk goes one op further. -/
  | advance {w : OpenWalk} {walks : List OpenWalk} {l : Ledger} {reports : List EntrypointReport}
      {op : Op} {r : (Nat × Nat) × Ledger} : (w.start.ops b)[w.ip]? = some op →
      walkOp b limits remembered w.start.source w.ip op w.height w.peak l = .ok r →
      r.2.finished = l.finished → r.2.active = l.active →
      Step b limits (.underway (w :: walks) l reports)
        (.underway (⟨w.start, w.ip + 1, r.1.1, r.1.2⟩ :: walks) r.2 reports)
  /-- The target of the op that the innermost walk has come to is walked. -/
  | nest {w : OpenWalk} {walks : List OpenWalk} {l : Ledger} {reports : List EntrypointReport}
      {op : Op} : (w.start.ops b)[w.ip]? = some op →
      (targetOf op.operand).source < b.sources.length → l.found (targetOf op.operand) = none →
      targetOf op.operand ∉ l.active →
      Step b limits (.underway (w :: walks) l reports)
        (.underway (.first (targetOf op.operand) :: w :: walks) (l.opened (targetOf op.operand))
          reports)
  /-- The innermost walk ends. -/
  | close {w : OpenWalk} {walks : List OpenWalk} {l : Ledger} {reports : List EntrypointReport} :
      (w.start.ops b)[w.ip]? = none →
      Step b limits (.underway (w :: walks) l reports)
        (.underway walks (l.closed w.start ⟨w.height, w.peak⟩) reports)

theorem Moment.next_step (b : Bundle) (limits : Limits) (mins : List Nat) (m : Moment) :
    Step b limits m (m.next b limits mins) := by
  match m with
  | .ended r => exact .stop
  | .underway [] l reports =>
    simp only [Moment.next, Moment.turn]
    cases mins[reports.length]? with
    | none => exact .stop
    | some min =>
      cases hs : l.found ⟨reports.length, 0⟩ with
      | none => exact .enter hs
      | some s =>
        simp only
        split
        · exact .stop
        · exact .report
  | .underway (w :: walks) l reports =>
    cases hop : (w.start.ops b)[w.ip]? with
    | none =>
      simp only [Moment.next, hop]
      exact .close hop
    | some op =>
      rw [next_of_op hop]
      have hasks := walkOp_asks (b := b) limits w.start.source w.ip op w.height w.peak
      rcases hasks.known_or_waits (fun _ => throw .unfinished) l with
        ⟨-, hout⟩ | ⟨hblocked, hsource, hnew, hidle, -⟩
      · cases hx : walkOp b limits remembered w.start.source w.ip op w.height w.peak l with
        | ok r =>
          rw [hx] at hout
          rw [advance_ok hx]
          exact .advance hop hx hout.1 hout.2
        | error d =>
          rw [hx] at hout
          rw [advance_error hx hout]
          exact .stop
      · rw [advance_blocked hblocked]
        exact .nest hop hsource hnew hidle

/-- **Every step keeps the walks in order.** -/
theorem Moment.Orderly.next (h : m.Orderly b) : (m.next b limits mins).Orderly b := by
  have hstep := Moment.next_step b limits mins m
  generalize m.next b limits mins = m' at hstep
  cases hstep with
  | stop => trivial
  | enter hnew => exact Underway.enter h.active hnew
  | report => exact Underway.idle h.active
  | advance _ _ hfinished hactive => exact Underway.advance h hfinished hactive rfl
  | nest _ hsource hnew hidle => exact Underway.nest h hsource hnew hidle
  | close _ => exact Underway.close h _

theorem moment_succ (b : Bundle) (limits : Limits) (mins : List Nat) (n : Nat) :
    moment b limits mins (n + 1) = (moment b limits mins n).next b limits mins :=
  Function.iterate_succ_apply' _ _ _

/-- **The walks are in order throughout a check.** -/
theorem moment_orderly (b : Bundle) (limits : Limits) (mins : List Nat) (n : Nat) :
    (moment b limits mins n).Orderly b := by
  induction n with
  | zero =>
    change (Moment.initial b mins).Orderly b
    unfold Moment.initial
    split
    · trivial
    · split
      · trivial
      · exact Underway.idle rfl
  | succ n ih =>
    rw [moment_succ]
    exact ih.next

/-! ## Walks that end -/

/-- The start whose walk ends at a moment. -/
def Moment.ending? (b : Bundle) : Moment → Option Start
  | .underway (w :: _) _ _ =>
    match (w.start.ops b)[w.ip]? with
    | none => some w.start
    | some _ => none
  | _ => none

/-- The ledger holds a summary of the start, or the check is over. -/
def Moment.Knows (p : Start) : Moment → Prop
  | .underway _ l _ => l.found p ≠ none
  | .ended _ => True

variable {p : Start}

theorem found_closed_ne_none (h : l.found p ≠ none) (q : Start) (s : Summary) :
    (l.closed q s).found p ≠ none := by
  rw [Ledger.found_closed]
  split
  · exact nofun
  · exact h

/-- What the ledger holds it keeps. -/
theorem Moment.Knows.next (h : m.Knows p) : (m.next b limits mins).Knows p := by
  have hstep := Moment.next_step b limits mins m
  generalize m.next b limits mins = m' at hstep
  cases hstep with
  | stop => trivial
  | enter _ | report | nest _ _ _ _ => exact h
  | advance _ _ hfinished _ =>
    change List.lookup p _ ≠ none
    rw [hfinished]
    exact h
  | close _ => exact found_closed_ne_none h _ _

/-- The innermost walk is the one that ends, with no op left. -/
theorem Moment.of_ending? (h : m.ending? b = some p) :
    ∃ w walks l reports, m = .underway (w :: walks) l reports ∧ (w.start.ops b)[w.ip]? = none ∧
      p = w.start := by
  match m, h with
  | .underway (w :: walks) l reports, h =>
    cases hop : (w.start.ops b)[w.ip]? with
    | some op => simp [Moment.ending?, hop] at h
    | none =>
      simp only [Moment.ending?, hop, Option.some.injEq] at h
      exact ⟨w, walks, l, reports, rfl, hop, h.symm⟩

/-- A walk that ends is entered in the ledger. -/
theorem Moment.knows_of_ending (limits : Limits) (mins : List Nat) (h : m.ending? b = some p) :
    (m.next b limits mins).Knows p := by
  obtain ⟨w, walks, l, reports, rfl, hend, rfl⟩ := Moment.of_ending? h
  simp only [Moment.next, hend, Moment.Knows, Ledger.found_closed, ↓reduceIte]
  intro hnone
  cases hnone

/-- The ledger did not hold the start before. -/
theorem Moment.not_knows_of_ending (ho : m.Orderly b) (h : m.ending? b = some p) :
    ¬ m.Knows p := by
  obtain ⟨w, walks, l, reports, rfl, -, rfl⟩ := Moment.of_ending? h
  have hmem : w.start ∈ l.active := by
    rw [Underway.active ho]
    exact List.mem_cons_self
  exact fun hknows => hknows (Underway.apart ho _ hmem)

theorem knows_of_le {j k : Nat} (hjk : j ≤ k) (h : (moment b limits mins j).Knows p) :
    (moment b limits mins k).Knows p := by
  induction hjk with
  | refl => exact h
  | step _ ih =>
    rw [Nat.succ_eq_add_one, moment_succ]
    exact ih.next

/-- **No start is walked to its end twice.** -/
theorem ending_unique {j k : Nat} (hj : (moment b limits mins j).ending? b = some p)
    (hk : (moment b limits mins k).ending? b = some p) : j = k := by
  have later {j k : Nat} (hj : (moment b limits mins j).ending? b = some p)
      (hk : (moment b limits mins k).ending? b = some p) : ¬ j < k := by
    intro hlt
    have hknows := Moment.knows_of_ending limits mins hj
    rw [← moment_succ] at hknows
    exact Moment.not_knows_of_ending (moment_orderly b limits mins k) hk (knows_of_le hlt hknows)
  have hjk := later hj hk
  have hkj := later hk hj
  omega

/-- **A check terminates.** Whatever the bundle, the limits and the entrypoints, a check comes to a
result after finitely many steps, which no bound on the nesting of its walks cuts short. At every
moment the starts under way are distinct; the outermost is an entrypoint, and each of the others is
of one of the first 256 sources, at a height of 15 at most. No start is walked to its end twice. -/
theorem check_terminates (b : Bundle) (limits : Limits) (mins : List Nat) :
    check b limits mins ≠ .error .unfinished ∧
    (∀ depth, nestingBound b ≤ depth →
      checkWithin depth b limits mins = check b limits mins) ∧
    (∃ n, ∀ k, n ≤ k → moment b limits mins k = .ended (check b limits mins)) ∧
    (∀ k walks ledger reports, moment b limits mins k = .underway walks ledger reports →
      ledger.active = walks.map OpenWalk.start ∧ (walks.map OpenWalk.start).Nodup ∧
      (∀ p ∈ (walks.map OpenWalk.start).getLast?, p = ⟨reports.length, 0⟩) ∧
      (∀ p ∈ (walks.map OpenWalk.start).dropLast,
        p.source < min 256 b.sources.length ∧ p.height ≤ 15) ∧
      walks.length ≤ 16 * min 256 b.sources.length + 1) ∧
    ∀ j k p, (moment b limits mins j).ending? b = some p →
      (moment b limits mins k).ending? b = some p → j = k := by
  have hcheck := checkWithin_leads b limits mins (Nat.le_refl _)
  refine ⟨check_ne_unfinished b limits mins, fun depth hdepth => ?_, ?_, ?_, ?_⟩
  · exact (checkWithin_leads b limits mins hdepth).ended_unique hcheck
  · obtain ⟨n, hn⟩ := hcheck
    refine ⟨n, fun k hk => ?_⟩
    obtain ⟨i, rfl⟩ := Nat.exists_eq_add_of_le' hk
    unfold moment
    rw [Function.iterate_add_apply, hn]
    exact iterate_ended _ i
  · intro k walks ledger reports hk
    have horderly := moment_orderly b limits mins k
    rw [hk] at horderly
    have hactive := Underway.active horderly
    refine ⟨hactive, ?_, ?_, ?_, Underway.length_le horderly⟩
    · exact hactive ▸ Underway.distinct horderly
    · exact hactive ▸ Underway.outermost horderly
    · exact hactive ▸ Underway.nested horderly
  · exact fun j k p => ending_unique

/-- The first source runs the second with no words, and the second runs the first with one. -/
def entwinedBundle : Bundle :=
  ⟨[⟨[.ofRaw 2 0x0001]⟩, ⟨[.ofRaw 0 1, .ofRaw 2 0x0100]⟩], [1#256]⟩

/-- The first source is walked at both of its heights, the one walk nested in the other. -/
theorem entwinedBundle_terminates :
    checkWithin 100 entwinedBundle .standard [0] = .ok [⟨0, 0, 1⟩] ∧
    (∃ walks ledger reports,
      moment entwinedBundle .standard [0] 4 = .underway walks ledger reports ∧
      walks.map OpenWalk.start = [⟨0, 1⟩, ⟨1, 0⟩, ⟨0, 0⟩] ∧
      (walks.map OpenWalk.start).Nodup ∧ walks.length ≤ 33) ∧
    (moment entwinedBundle .standard [0] 5).ending? entwinedBundle = some ⟨0, 1⟩ ∧
    (moment entwinedBundle .standard [0] 10).ending? entwinedBundle ≠ some ⟨0, 1⟩ := by
  obtain ⟨-, hdepth, -, hwalks, honce⟩ := check_terminates entwinedBundle .standard [0]
  have hcheck : check entwinedBundle .standard [0] = .ok [⟨0, 0, 1⟩] := rfl
  have hending : (moment entwinedBundle .standard [0] 5).ending? entwinedBundle =
      some ⟨0, 1⟩ := rfl
  obtain ⟨-, hdistinct, -, -, hlength⟩ := hwalks 4 _ _ _ rfl
  refine ⟨(hdepth 100 (by decide)).trans hcheck, ⟨_, _, _, rfl, rfl, hdistinct, hlength⟩, hending,
    fun hagain => ?_⟩
  have heq := honce 5 10 _ hending hagain
  omega

end Integrity

end ExprMachine
