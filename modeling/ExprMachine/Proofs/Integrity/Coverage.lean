import ExprMachine.Proofs.Integrity.Acceptance
import Mathlib.Order.Bounds.Basic

/-!
# What the reports on a bundle cover

The report on one entrypoint can name less than its frames reach: a start is walked once, and a walk
that leads back to one under way does not learn its heights. The reports as a whole lose nothing.
Every start is walked under some entrypoint, the first that reaches it, and its heights go into that
one's report (`Reported.first`); and no report names a height that is not met (`Reported.attained`).

* `boundaryHeights`: the heights before, between and after the ops of all that some starts reach.
* `mem_boundaryHeights_iff`: if those starts are certified, these are the heights attained.
* `Reported.greatest`, `Reported.greatest_first`: the greatest of them, for all entrypoints and for
  the first one.
-/

namespace ExprMachine

namespace Integrity

variable {b : Bundle} {limits : Limits} {mins : List Nat} {reports : List EntrypointReport}

/-- The declared entrypoints, each run from an empty stack. -/
def entrypoints (mins : List Nat) : Set Start := {p | ∃ i < mins.length, p = ⟨i, 0⟩}

/-- The heights at the boundaries of ops, of all that one of the starts reaches. -/
def boundaryHeights (b : Bundle) (starts : Set Start) : Set Int :=
  {n | ∃ p ∈ starts, ∃ q, Reaches b p q ∧ ∃ ip ≤ (q.ops b).length, n = q.balance b ip}

/-- The heights that one of the starts attains. -/
def attainedHeights (b : Bundle) (starts : Set Start) : Set Nat :=
  {n | ∃ p ∈ starts, Attains b p n}

/-- A start that is certified has everywhere as many words as its balance says, and past its last op
no other height than there. -/
theorem mem_boundaryHeights_iff {starts : Set Start} (hcert : ∀ p ∈ starts, Certified b limits p)
    {n : Int} : n ∈ boundaryHeights b starts ↔ ∃ k ∈ attainedHeights b starts, n = k := by
  have hbalance {p q : Start} (hp : p ∈ starts) (hq : Reaches b p q) (ip : Nat) :
      (q.heightAt b ip : Int) = q.balance b ip :=
    Start.heightAt_eq_balance (Start.supplied_of_fits (hcert p hp q hq).2.1) ip
  constructor
  · rintro ⟨p, hp, q, hq, ip, -, rfl⟩
    exact ⟨q.heightAt b ip, ⟨p, hp, q, ip, hq, rfl⟩, (hbalance hp hq ip).symm⟩
  · rintro ⟨_, ⟨p, hp, q, ip, hq, rfl⟩, rfl⟩
    rcases Nat.le_total ip (q.ops b).length with hle | hle
    · exact ⟨p, hp, q, hq, ip, hle, hbalance hp hq ip⟩
    · rw [Start.heightAt_of_le hle]
      exact ⟨p, hp, q, hq, _, Nat.le_refl _, hbalance hp hq _⟩

theorem isGreatest_boundaryHeights {starts : Set Start}
    (hcert : ∀ p ∈ starts, Certified b limits p) {m : Nat}
    (h : IsGreatest (attainedHeights b starts) m) :
    IsGreatest (boundaryHeights b starts) (m : Int) := by
  refine ⟨(mem_boundaryHeights_iff hcert).mpr ⟨m, h.1, rfl⟩, fun n hn => ?_⟩
  obtain ⟨k, hk, rfl⟩ := (mem_boundaryHeights_iff hcert).mp hn
  exact Int.ofNat_le.mpr (h.2 hk)

namespace Reported

theorem exists_report (h : Reported b mins reports) {i : Nat} (hi : i < mins.length) :
    ∃ r, reports[i]? = some r := by
  rw [← h.length] at hi
  exact ⟨_, List.getElem?_eq_getElem hi⟩

/-- The greatest height in the reports is the greatest that an entrypoint attains. -/
theorem greatest (h : Reported b mins reports) {m : Nat}
    (hm : (reports.map EntrypointReport.maxStack).max? = some m) :
    IsGreatest (attainedHeights b (entrypoints mins)) m := by
  obtain ⟨hmem, hmax⟩ := List.max?_eq_some_iff.mp hm
  constructor
  · obtain ⟨r, hr, rfl⟩ := List.mem_map.mp hmem
    obtain ⟨i, hi⟩ := List.getElem?_of_mem hr
    have hlt : i < mins.length := by
      rw [← h.length]
      exact (List.getElem?_eq_some_iff.mp hi).1
    exact ⟨⟨i, 0⟩, ⟨i, hlt, rfl⟩, h.attained i r hi⟩
  · rintro _ ⟨_, ⟨i, hi, rfl⟩, q, ip, hq, rfl⟩
    -- The start was walked under an entrypoint that need not be the one that it is reached from.
    obtain ⟨j, -, r, hr, -, hle⟩ := h.first i hi q hq
    have hr' : r.maxStack ∈ reports.map EntrypointReport.maxStack :=
      List.mem_map.mpr ⟨r, List.mem_of_getElem? hr, rfl⟩
    exact Nat.le_trans (hle ip) (hmax _ hr')

/-- Nothing is walked before the first entrypoint, so its own report covers all that it reaches. -/
theorem greatest_first (h : Reported b mins reports) (hmins : 0 < mins.length)
    {r : EntrypointReport} (hr : reports[0]? = some r) :
    IsGreatest (attainedHeights b {⟨0, 0⟩}) r.maxStack := by
  refine ⟨⟨⟨0, 0⟩, rfl, h.attained 0 r hr⟩, ?_⟩
  rintro _ ⟨_, rfl, q, ip, hq, rfl⟩
  obtain ⟨j, hj, r', hr', -, hle⟩ := h.first 0 hmins q hq
  rw [Nat.le_zero.mp hj, hr] at hr'
  cases hr'
  exact hle ip

end Reported

/-- **Reports cover what is reached.** The greatest height in the reports on an accepted bundle is
the greatest at any boundary of ops of what the entrypoints reach, and the height in the first
report is the greatest of what the first entrypoint reaches. -/
theorem reports_cover_reachable (hcheck : check b limits mins = .ok reports) :
    (∃ m, (reports.map EntrypointReport.maxStack).max? = some m ∧
      IsGreatest (boundaryHeights b (entrypoints mins)) (m : Int)) ∧
    ∃ r, reports[0]? = some r ∧ IsGreatest (boundaryHeights b {⟨0, 0⟩}) (r.maxStack : Int) := by
  obtain ⟨hacc, hrep⟩ := check_eq_ok hcheck
  have hmins : 0 < mins.length := List.length_pos_iff.mpr hacc.declared
  have hcert : ∀ p ∈ entrypoints mins, Certified b limits p := by
    rintro _ ⟨i, hi, rfl⟩
    exact hacc.certified i hi
  obtain ⟨r, hr⟩ := hrep.exists_report hmins
  constructor
  · have hne : reports.map EntrypointReport.maxStack ≠ [] := by
      intro hnil
      rw [List.map_eq_nil_iff.mp hnil] at hr
      cases hr
    obtain ⟨m, hm⟩ := Option.ne_none_iff_exists'.mp (List.max?_eq_none_iff.not.mpr hne)
    exact ⟨m, hm, isGreatest_boundaryHeights hcert (hrep.greatest hm)⟩
  · have hcert₀ : ∀ p ∈ ({⟨0, 0⟩} : Set Start), Certified b limits p := by
      rintro _ rfl
      exact hacc.certified 0 hmins
    exact ⟨r, hr, isGreatest_boundaryHeights hcert₀ (hrep.greatest_first hmins hr)⟩

/-- The first two sources name each other, and the third hands the first two words. -/
def unevenBundle : Bundle :=
  ⟨[⟨[.ofRaw 0 1, .ofRaw 3 1]⟩, ⟨[.ofRaw 2 0]⟩, ⟨[.ofRaw 0 1, .ofRaw 0 1, .ofRaw 2 0x0200]⟩],
    [0#256]⟩

/-- The second report falls short of what the second source reaches, and the first makes up for it.
The greatest height of all is met in a frame that the third source opens. -/
theorem unevenBundle_covered :
    check unevenBundle .standard [0, 0, 0] = .ok [⟨0, 1, 1⟩, ⟨1, 0, 0⟩, ⟨2, 0, 3⟩] ∧
    IsGreatest (boundaryHeights unevenBundle (entrypoints [0, 0, 0])) 3 ∧
    IsGreatest (boundaryHeights unevenBundle {⟨0, 0⟩}) 1 := by
  have hcheck : check unevenBundle .standard [0, 0, 0] =
      .ok [⟨0, 1, 1⟩, ⟨1, 0, 0⟩, ⟨2, 0, 3⟩] := rfl
  obtain ⟨⟨m, hm, hall⟩, r, hr, hfirst⟩ := reports_cover_reachable hcheck
  cases hm
  cases hr
  exact ⟨hcheck, hall, hfirst⟩

end Integrity

end ExprMachine
