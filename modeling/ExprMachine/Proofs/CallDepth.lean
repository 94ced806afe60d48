import ExprMachine.Proofs.Evaluation
import Mathlib.Data.List.Chain

/-!
# Nested too deep

An evaluation is cut off for its depth only where a chain of control-flow ops is really that long. A
path of the static graph (`Calls`) is a list of starts, each with an op that runs the next one
(`List.IsChain`); a path `p :: path` has `path.length` edges.

* `Arises.callDepth_path`: a run with room for `room` frames that stops for its depth has a path of
  `room + 1` edges. Loops do not lengthen it: each round opens its frame on the same edge.
* `path_length_le_of_rank`: a rank that falls along every edge bounds the paths. An acyclic graph
  has one, the height of a start above the starts that call nothing.
* `callDepth_means_path`: whole evaluations.
-/

namespace ExprMachine

open Integrity

/-- No op of its own fails for its depth. -/
theorem OpFault.ne_callDepth {env : Env} {F : StoreFault → Prop} {left h : Nat} {op : Op}
    {e : Fault} (he : OpFault env F left h op e) (d : Nat) : e ≠ .callDepth d := by
  rintro rfl
  cases he with
  | arithmetic _ harith => exact harith

/-- A run that stops for its depth has a path with one edge more than there was room for. -/
theorem Arises.callDepth_path {env : Env} {F : StoreFault → Prop} {room : Nat} {p : Start}
    {e : Fault} (h : Arises env F room p e) {d : Nat} (hd : e = .callDepth d) :
    d = env.limits.maxCallDepth ∧
      ∃ path : List Start, path.length = room + 1 ∧
        List.IsChain (Calls env.bundle) (p :: path) := by
  induction h with
  | missing _ => cases hd
  | own _ he => exact absurd hd (he.ne_callDepth d)
  | @full ip p op f hop ho =>
    have hcall : Calls env.bundle p (targetOf op.operand) := ⟨ip, op, f, hop, ho, rfl⟩
    cases hd
    exact ⟨rfl, [targetOf op.operand], rfl, List.isChain_pair.mpr hcall⟩
  | nested hcall _ ih =>
    obtain ⟨hlimit, path, hlength, hpath⟩ := ih hd
    refine ⟨hlimit, _ :: path, ?_, List.isChain_cons_cons.mpr ⟨hcall, hpath⟩⟩
    rw [List.length_cons, hlength]

/-- A path has no more edges than the rank of its first start, if the rank falls along every edge
that the start leads to. -/
theorem path_length_le_of_rank {b : Bundle} {rank : Start → Nat} {p : Start} {path : List Start}
    (hrank : ∀ q r, Reaches b p q → Calls b q r → rank r < rank q)
    (hpath : List.IsChain (Calls b) (p :: path)) : path.length ≤ rank p := by
  induction path generalizing p with
  | nil => exact Nat.zero_le _
  | cons q path ih =>
    obtain ⟨hcall, hrest⟩ := List.isChain_cons_cons.mp hpath
    have hfall : rank q < rank p := hrank p q (Reaches.refl p) hcall
    have hlength := ih (fun r s hr => hrank r s (hr.head hcall)) hrest
    rw [List.length_cons]
    omega

/-- **A fault for depth means a path.** An evaluation that fails for its depth names the limit in
force, and the static graph has a path from its source with one edge more than the limit. So an
evaluation never fails for its depth if every path from its source keeps to the limit, in particular
if a rank that is at most the limit at the source falls along every edge; how often loops go round
does not matter. -/
theorem callDepth_means_path (limits : Limits) (request : Machine.Request) (store : Store)
    (gasLimit : Nat) (traced : Bool) :
    (∀ d, (Machine.evaluate limits request store gasLimit traced).outcome = .error (.callDepth d) →
      d = min limits.maxCallDepth 128 ∧
      ∃ path : List Start, path.length = min limits.maxCallDepth 128 + 1 ∧
        List.IsChain (Calls request.bundle) (⟨request.source, 0⟩ :: path)) ∧
    ((∀ path : List Start, List.IsChain (Calls request.bundle) (⟨request.source, 0⟩ :: path) →
        path.length ≤ min limits.maxCallDepth 128) →
      ∀ d, (Machine.evaluate limits request store gasLimit traced).outcome ≠
        .error (.callDepth d)) ∧
    ∀ rank : Start → Nat,
      (∀ q r, Reaches request.bundle ⟨request.source, 0⟩ q → Calls request.bundle q r →
        rank r < rank q) →
      rank ⟨request.source, 0⟩ ≤ min limits.maxCallDepth 128 →
      ∀ d, (Machine.evaluate limits request store gasLimit traced).outcome ≠
        .error (.callDepth d) := by
  have hout := Machine.evaluate_outcome limits request store gasLimit traced
  have hpath (d : Nat) (hd : (Machine.evaluate limits request store gasLimit traced).outcome =
      .error (.callDepth d)) : d = min limits.maxCallDepth 128 ∧
      ∃ path : List Start, path.length = min limits.maxCallDepth 128 + 1 ∧
        List.IsChain (Calls request.bundle) (⟨request.source, 0⟩ :: path) := by
    rw [hd] at hout
    exact Arises.callDepth_path hout rfl
  have hshort (h : ∀ path : List Start,
      List.IsChain (Calls request.bundle) (⟨request.source, 0⟩ :: path) →
        path.length ≤ min limits.maxCallDepth 128) (d : Nat) :
      (Machine.evaluate limits request store gasLimit traced).outcome ≠
        .error (.callDepth d) := by
    intro hd
    obtain ⟨-, path, hlength, hchain⟩ := hpath d hd
    have hle := h path hchain
    omega
  refine ⟨hpath, hshort, fun rank hrank hstart => hshort fun path hchain => ?_⟩
  exact Nat.le_trans (path_length_le_of_rank hrank hchain) hstart

/-- The first source runs the second for as long as that leaves a constant other than zero. -/
def loopingBundle : Bundle :=
  ⟨[⟨[.ofRaw 0 1, .ofRaw 4 1]⟩, ⟨[.ofRaw 0 1]⟩], [1#256]⟩

/-- A source that calls itself has a path of any length. A loop that goes round for as long as there
is gas stays on one edge, so one nested frame is enough for it. -/
theorem loopingBundle_no_callDepth :
    ((Machine.evaluate ⟨4, 2⟩ ⟨⟨[⟨[.ofRaw 2 0]⟩], []⟩, 0, .empty, 0#256, none⟩ (.empty .none) 1000
      false).outcome = .error (.callDepth 2) ∧
    ∃ path : List Start, path.length = 3 ∧
      List.IsChain (Calls ⟨[⟨[.ofRaw 2 0]⟩], []⟩) (⟨0, 0⟩ :: path)) ∧
    (Machine.evaluate ⟨4, 1⟩ ⟨loopingBundle, 0, .empty, 0#256, none⟩ (.empty .none) 1000000000
      false).outcome ≠ .error (.callDepth 1) := by
  have hfault : (Machine.evaluate ⟨4, 2⟩ ⟨⟨[⟨[.ofRaw 2 0]⟩], []⟩, 0, .empty, 0#256, none⟩
      (.empty .none) 1000 false).outcome = .error (.callDepth 2) := rfl
  refine ⟨⟨hfault, ((callDepth_means_path _ _ _ _ _).1 2 hfault).2⟩, ?_⟩
  have hrank : ∀ q r : Start, Reaches loopingBundle ⟨0, 0⟩ q → Calls loopingBundle q r →
      1 - r.source < 1 - q.source := by
    rintro ⟨source, height⟩ r - ⟨ip, op, f, hop, ho, rfl⟩
    rcases source with _ | _ | source
    · rcases ip with _ | _ | ip
      · cases hop
        cases ho
      · cases hop
        exact Nat.zero_lt_one
      · cases hop
    · rcases ip with _ | ip
      · cases hop
        cases ho
      · cases hop
    · cases hop
  exact (callDepth_means_path _ _ _ _ _).2.2 (fun q => 1 - q.source) hrank (by decide) 1

end ExprMachine
