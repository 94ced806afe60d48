import ExprMachine.Proofs.Integrity.Asks
import ExprMachine.Proofs.Integrity.Check

/-!
# How deep walks nest

A walk is only begun for a start that is not being walked, so the starts that are under way at one
time are distinct. But for the entrypoint at the bottom, each was named by a control-flow op and
checked to exist: it has one of 256 sources and one of 16 heights (`nestable`). So there are never
more of them than `nestingBound`, and the analysis is not cut off (`check_ne_unfinished`).

* `Chain`: the starts under way are distinct, and an entrypoint's walks may be nested in them.
* `Finishes`: a step of the analysis leaves the same walks under way, or stops with a defect of the
  bundle.

With this, a bundle is accepted exactly if it is acceptable (`check_eq_ok_iff`).
-/

namespace ExprMachine

namespace Integrity

variable (b : Bundle)

/-- The starts that can be under way in the walk of an entrypoint: itself, and what a control-flow
op can name. -/
def nestable (entrypoint : Start) : List Start :=
  entrypoint :: (List.range (Nat.min 256 b.sources.length)).flatMap fun source =>
    (List.range 16).map (⟨source, ·⟩)

/-- Starts that are under way. -/
structure Chain (entrypoint : Start) (active : List Start) : Prop where
  distinct : active.Nodup
  within : active ⊆ nestable b entrypoint

/-- The step leaves the same walks under way, or stops with a defect of the bundle. -/
def Finishes {α : Type} (active : List Start) (x : Analysis α) : Prop :=
  ∀ l : Ledger, l.active = active →
    Outcome (x l) (fun r => r.2.active = active) (fun d => d ≠ .unfinished)

variable {b} {entrypoint p : Start} {active : List Start}

theorem length_nestable (entrypoint : Start) :
    (nestable b entrypoint).length = nestingBound b := by
  simp only [nestable, List.length_cons, List.length_flatMap, List.length_map, List.length_range,
    List.map_const', List.sum_replicate_nat, nestingBound]
  rw [Nat.mul_comm]

theorem mem_nestable (hsource : p.source < Nat.min 256 b.sources.length) (hheight : p.height < 16) :
    p ∈ nestable b entrypoint := by
  refine List.mem_cons_of_mem _ (List.mem_flatMap.mpr ⟨_, List.mem_range.mpr hsource, ?_⟩)
  exact List.mem_map.mpr ⟨_, List.mem_range.mpr hheight, rfl⟩

/-- What a control-flow op names is nestable if it exists. -/
theorem targetOf_mem_nestable {operand : Operand}
    (h : (targetOf operand).source < b.sources.length) :
    targetOf operand ∈ nestable b entrypoint :=
  mem_nestable (Nat.lt_min.mpr ⟨operand.lowByte_lt, h⟩) operand.lowCount_lt

theorem Chain.cons (h : Chain b entrypoint active) (hp : p ∈ nestable b entrypoint)
    (hnew : p ∉ active) : Chain b entrypoint (p :: active) :=
  ⟨List.nodup_cons.mpr ⟨hnew, h.distinct⟩, List.cons_subset.mpr ⟨hp, h.within⟩⟩

/-- Distinct starts out of a list are no more than the list has. -/
theorem Chain.length_le (h : Chain b entrypoint active) : active.length ≤ nestingBound b := by
  rw [← length_nestable entrypoint]
  exact List.Nodup.length_le_of_subset h.distinct h.within

/-! ## Steps of the analysis -/

section Steps

variable {α β : Type}

theorem Finishes.ret (a : α) : Finishes active (pure a) := fun _ hl => hl

theorem Finishes.fail {d : Defect} (hd : d ≠ .unfinished) :
    Finishes active (throw d : Analysis α) := fun _ _ => hd

theorem Finishes.bind {x : Analysis α} {f : α → Analysis β} (hx : Finishes active x)
    (hf : ∀ a, Finishes active (f a)) : Finishes active (x >>= f) :=
  fun l hl => outcome_bind (hx l hl) fun a l' hl' => hf a l' hl'

theorem Still.finishes {x : Analysis α} (h : Still x) : Finishes active x :=
  fun l hl => (h l).mono (fun _ hr => hr.2.trans hl) fun _ hd => hd

/-- A step finishes if the start that it asks for does. -/
theorem Asks.finishes {target : Start} {x : (Start → Analysis (Option Summary)) → Analysis α}
    (hx : Asks b target x) {consult : Start → Analysis (Option Summary)}
    (hn : target.source < b.sources.length → Finishes active (consult target)) :
    Finishes active (x consult) := by
  rcases hx with ⟨y, hy, hx⟩ | ⟨htarget, resume, hresume, hx⟩
  · rw [hx]
    exact hy.finishes
  · rw [hx]
    exact (hn htarget).bind fun found => (hresume found).finishes

end Steps

variable {limits : Limits} {consult : Start → Analysis (Option Summary)}

theorem walkOp_finishes (hn : ∀ q ∈ nestable b entrypoint, Finishes active (consult q))
    (source ip : Nat) (op : Op) (height peak : Nat) :
    Finishes active (walkOp b limits consult source ip op height peak) :=
  (walkOp_asks limits source ip op height peak).finishes fun h => hn _ (targetOf_mem_nestable h)

theorem walkOps_finishes (hn : ∀ q ∈ nestable b entrypoint, Finishes active (consult q))
    (source ip : Nat) (ops : List Op) (height peak : Nat) :
    Finishes active (walkOps b limits consult source ip ops height peak) := by
  induction ops generalizing ip height peak with
  | nil => exact Finishes.ret _
  | cons op ops ih =>
    exact (walkOp_finishes hn source ip op height peak).bind fun r => ih (ip + 1) r.1 r.2

theorem walk_finishes (hn : ∀ q ∈ nestable b entrypoint, Finishes active (consult q))
    (p : Start) : Finishes active (walk b limits consult p) := by
  unfold walk
  split
  · exact walkOps_finishes hn p.source 0 _ p.height p.height
  · exact Finishes.ret _

/-- A new start is under way while it is walked, and no longer. -/
theorem consult_finishes {fresh : Start → Analysis Summary}
    (hfresh : p ∉ active → Finishes (p :: active) (fresh p)) :
    Finishes active (Integrity.consult fresh p) := by
  intro l hl
  refine outcome_bind (R := fun r => r = (l, l)) rfl fun _ _ hget => ?_
  cases hget
  cases l.finished.lookup p with
  | some s => exact hl
  | none =>
    by_cases hact : p ∈ l.active
    · simp only [hact, ↓reduceIte]
      exact hl
    · simp only [hact, ↓reduceIte]
      refine outcome_bind (R := fun r => r.2.active = p :: active) (congrArg (p :: ·) hl)
        fun _ l₀ hl₀ => ?_
      refine outcome_bind (hfresh (hl ▸ hact) l₀ hl₀) fun s l₁ hl₁ => ?_
      show l₁.active.erase p = active
      rw [show l₁.active = p :: active from hl₁, List.erase_cons_head]

/-- **No walk is cut off.** By induction on how deep walks may still nest: with no depth left, as
many starts are under way as can be, so the one that is turned to is among them. -/
theorem analyze_finishes (depth : Nat) (h : Chain b entrypoint active)
    (hdepth : nestingBound b ≤ active.length + depth) (hp : p ∈ nestable b entrypoint) :
    Finishes active (analyze b limits depth p) := by
  induction depth generalizing active p with
  | zero =>
    refine consult_finishes fun hnew => ?_
    have hlen := (h.cons hp hnew).length_le
    rw [List.length_cons] at hlen
    omega
  | succ depth ih =>
    refine consult_finishes fun hnew => ?_
    have hdepth' : nestingBound b ≤ (p :: active).length + depth := by
      rw [List.length_cons]
      omega
    exact walk_finishes (fun q hq => ih (h.cons hp hnew) hdepth' hq) p

/-! ## Bundles -/

/-- An entrypoint, to which the analysis turns while nothing is under way. -/
theorem analyze_entrypoint_finishes (limits : Limits) {depth : Nat}
    (hdepth : nestingBound b ≤ depth) (index : Nat) :
    Finishes [] (analyze b limits depth ⟨index, 0⟩) := by
  have hchain : Chain b ⟨index, 0⟩ [] := ⟨List.nodup_nil, List.nil_subset _⟩
  exact analyze_finishes depth hchain (by simpa using hdepth) List.mem_cons_self

theorem checkEntrypoints_finishes {depth : Nat} (hdepth : nestingBound b ≤ depth) (index : Nat)
    (mins : List Nat) : Finishes [] (checkEntrypoints (analyze b limits depth) index mins) := by
  induction mins generalizing index with
  | nil => exact Finishes.ret _
  | cons min mins ih =>
    refine (analyze_entrypoint_finishes limits hdepth index).bind fun found => ?_
    simp only
    split
    · exact Finishes.fail nofun
    · exact (ih (index + 1)).bind fun reports => Finishes.ret _

theorem settle_ne_unfinished (finished : List (Start × Summary)) (ds : List Deferred) :
    Outcome (settle finished ds) (fun _ => True) (fun d => d ≠ .unfinished) := by
  induction ds with
  | nil => trivial
  | cons d ds ih =>
    unfold settle
    split
    · split
      · exact nofun
      · exact ih
    · exact ih

/-- A check that may nest its walks deep enough is never cut off. -/
theorem checkWithin_ne_unfinished (b : Bundle) (limits : Limits) (mins : List Nat) {depth : Nat}
    (hdepth : nestingBound b ≤ depth) : checkWithin depth b limits mins ≠ .error .unfinished := by
  suffices h : Outcome (checkWithin depth b limits mins) (fun _ => True)
      (fun d => d ≠ .unfinished) by
    intro heq
    rw [heq] at h
    exact h rfl
  unfold checkWithin
  split
  · exact nofun
  · split
    · exact nofun
    · refine (checkEntrypoints_finishes hdepth 0 mins .blank rfl).bind fun r _ => ?_
      exact (settle_ne_unfinished r.2.finished r.2.deferred).bind fun _ _ => trivial

/-- **A check is never cut off.** -/
theorem check_ne_unfinished (b : Bundle) (limits : Limits) (mins : List Nat) :
    check b limits mins ≠ .error .unfinished :=
  checkWithin_ne_unfinished b limits mins (Nat.le_refl _)

/-- **What is accepted.** Exactly the bundles that are acceptable. -/
theorem check_eq_ok_iff {mins : List Nat} :
    (∃ reports, check b limits mins = .ok reports) ↔ Acceptable b limits mins := by
  have hout := check_outcome b limits mins
  cases hc : check b limits mins with
  | ok reports =>
    rw [hc] at hout
    exact ⟨fun _ => hout.1, fun _ => ⟨reports, rfl⟩⟩
  | error d =>
    rw [hc] at hout
    have hnot := hout.resolve_left fun hd => check_ne_unfinished b limits mins (hd ▸ hc)
    exact ⟨nofun, fun hacc => absurd hacc hnot⟩

end Integrity

end ExprMachine
