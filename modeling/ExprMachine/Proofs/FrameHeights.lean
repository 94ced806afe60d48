import ExprMachine.Proofs.Soundness

/-!
# How high frames get

The report on an entrypoint names the greatest height of a frame. It holds for the frames of an
evaluation with one exception (`frame_heights_le_report`): a frame that an earlier entrypoint opens
too, and that this one opens by way of sources that run each other (`Overlooked`). Such a frame is
within the report of the earlier entrypoint. A bundle in which the entrypoint reaches no such start
has no exception; that is enough and not needed, since a frame may be overlooked and low. It is so
for a first entrypoint, and for sources that do not run each other.

`frame_higher_than_report` is a bundle with the exception. Its first source only mentions the second
(in a `loop-n` of no rounds), so the second is walked while the first is, as part of a cycle, and is
entered without the first one's height. Its own report repeats the entry.
-/

namespace ExprMachine

open Integrity

/-- An earlier entrypoint reaches the start as well, and this one does so by way of a cycle. -/
def Overlooked (b : Bundle) (entrypoint : Nat) (q : Start) : Prop :=
  (∃ j < entrypoint, Reaches b ⟨j, 0⟩ q) ∧ ThroughCycle b ⟨entrypoint, 0⟩ q

/-- What an entrypoint reaches is as high as its report says at most, unless it is overlooked. -/
theorem Integrity.Reported.overlooked {b : Bundle} {mins : List Nat}
    {reports : List EntrypointReport} (h : Reported b mins reports) {i : Nat} {r : EntrypointReport}
    (hr : reports[i]? = some r) {q : Start} (hq : Reaches b ⟨i, 0⟩ q) :
    (∀ ip, q.heightAt b ip ≤ r.maxStack) ∨ Overlooked b i q := by
  have hi : i < mins.length := by
    rw [← h.length]
    exact (List.getElem?_eq_some_iff.mp hr).1
  obtain ⟨j, hj, r', hr', hreach, hle⟩ := h.first i hi q hq
  rcases Nat.lt_or_eq_of_le hj with hlt | rfl
  · exact (h.covers i r hr q hq).imp_right fun hcyc => ⟨⟨j, hlt, hreach⟩, hcyc⟩
  · rw [hr] at hr'
    cases hr'
    exact .inl hle

namespace Machine

/-- **Heights of frames.** Every frame of an evaluation of an entrypoint is, between any two ops, at
most as high as the report on that entrypoint or an earlier one says. The entrypoint's own report
bounds those that are not overlooked. It bounds them all if the entrypoint reaches no start that is
overlooked, a condition on the bundle alone that is sufficient. -/
theorem frame_heights_le_report {limits : Limits} {request : Request} {mins : List Nat}
    {reports : List EntrypointReport} {r : EntrypointReport}
    (hcheck : check request.bundle limits mins = .ok reports)
    (hr : reports[request.source]? = some r) (store : Store) (gasLimit : Nat) (traced : Bool) :
    (∀ v ∈ sightings limits request store gasLimit traced,
      ∃ j ≤ request.source, ∃ r', reports[j]? = some r' ∧ v.height ≤ r'.maxStack) ∧
    (∀ v ∈ sightings limits request store gasLimit traced,
      ¬ Overlooked request.bundle request.source v.start → v.height ≤ r.maxStack) ∧
    ((∀ q, Reaches request.bundle ⟨request.source, 0⟩ q →
        ¬ Overlooked request.bundle request.source q) →
      ∀ v ∈ sightings limits request store gasLimit traced, v.height ≤ r.maxStack) := by
  have hrep := (check_eq_ok hcheck).2
  have hsource : request.source < mins.length := by
    rw [← hrep.length]
    exact (List.getElem?_eq_some_iff.mp hr).1
  have hown : ∀ v ∈ sightings limits request store gasLimit traced,
      ¬ Overlooked request.bundle request.source v.start → v.height ≤ r.maxStack := by
    intro v hv hnot
    obtain ⟨hreach, hheight⟩ := sightings_static limits request store gasLimit traced hv
    rw [hheight]
    exact (hrep.overlooked hr hreach).resolve_right hnot v.ip
  refine ⟨fun v hv => ?_, hown, fun hnone v hv => ?_⟩
  · obtain ⟨hreach, hheight⟩ := sightings_static limits request store gasLimit traced hv
    obtain ⟨j, hj, r', hr', -, hle⟩ := hrep.first request.source hsource v.start hreach
    exact ⟨j, hj, r', hr', hheight ▸ hle v.ip⟩
  · obtain ⟨hreach, -⟩ := sightings_static limits request store gasLimit traced hv
    exact hown v hv (hnone v.start hreach)

/-- The first source pushes a word and names the second in a `loop-n` of no rounds; the second calls
the first. -/
def mutualBundle : Bundle := ⟨[⟨[.ofRaw 0 1, .ofRaw 3 1]⟩, ⟨[.ofRaw 2 0]⟩], [0#256]⟩

/-- The first source's frames are within its report, since no entrypoint comes before it; the second
one's are within the first one's. -/
theorem mutual_frame_heights_le_report :
    check mutualBundle .standard [0, 0] = .ok [⟨0, 1, 1⟩, ⟨1, 0, 0⟩] ∧
    (∀ v ∈ sightings .standard ⟨mutualBundle, 0, .empty, 0#256, none⟩ (.empty .none) 100 false,
      v.height ≤ 1) ∧
    ∀ v ∈ sightings .standard ⟨mutualBundle, 1, .empty, 0#256, none⟩ (.empty .none) 100 false,
      ∃ j ≤ 1, ∃ r', [⟨0, 1, 1⟩, ⟨1, 0, 0⟩][j]? = some (r' : EntrypointReport) ∧
        v.height ≤ r'.maxStack := by
  have hcheck : check mutualBundle .standard [0, 0] = .ok [⟨0, 1, 1⟩, ⟨1, 0, 0⟩] := rfl
  refine ⟨hcheck, ?_, (frame_heights_le_report (r := ⟨1, 0, 0⟩) hcheck rfl _ _ _).1⟩
  refine (frame_heights_le_report (r := ⟨0, 1, 1⟩) hcheck rfl _ _ _).2.2 fun q _ hover => ?_
  obtain ⟨⟨j, hlt, -⟩, -⟩ := hover
  exact absurd hlt (Nat.not_lt_zero j)

/-- **A frame higher than reported.** The report on the second source gives no frame a word, and an
evaluation that succeeds opens one that holds one. -/
theorem frame_higher_than_report :
    check mutualBundle .standard [0, 0] = .ok [⟨0, 1, 1⟩, ⟨1, 0, 0⟩] ∧
    (evaluate .standard ⟨mutualBundle, 1, .empty, 0#256, none⟩ (.empty .none) 100 false).outcome =
      .ok ⟨[], [], 21⟩ ∧
    ∃ v ∈ sightings .standard ⟨mutualBundle, 1, .empty, 0#256, none⟩ (.empty .none) 100 false,
      v = ⟨⟨0, 0⟩, 1, 1, 1⟩ ∧ 0 < v.height := by
  refine ⟨rfl, rfl, ⟨⟨0, 0⟩, 1, 1, 1⟩, ?_, rfl, Nat.one_pos⟩
  decide

end Machine

end ExprMachine
