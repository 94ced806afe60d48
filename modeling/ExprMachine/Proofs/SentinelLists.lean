import ExprMachine.Sentinel
import Mathlib.Data.List.Induction

/-!
# Lists are read off a stack as they were pushed

A list on a stack is found by its sentinel alone, the one nearest to the top. What lies below may
hold the same word any number of times, and what lies above may not hold it at all.

* `splitAtLast?_append`: a stack has one place at which it can be split so. `split_cases`: it has
  none only if the sentinel is nowhere on it.
* `flatten_tuples`, `tuples_flatten`: words that come in tuples, and their tuples.
* `consume_eq_ok_iff`: a list is read exactly if it is on top of the stack. `consume_eq_error_iff`:
  which fault is reported otherwise (`Unreadable`).
* `Listing`: a list that can be pushed. `peel_listing` reads one off the stack that it was pushed
  on, and `peel_listings`, by induction, as many as were pushed, the last one first.
* `peel_faithful`: these together, and that a stack from which no list can be read stays as it is.
-/

namespace ExprMachine

namespace Sentinel

variable {s : Word} {size : Nat}

/-! ## The sentinel nearest to the top -/

theorem splitAtLast?_of_not_mem {ws : List Word} (h : s ∉ ws) : splitAtLast? s ws = none := by
  induction ws with
  | nil => rfl
  | cons w ws ih =>
    rw [List.mem_cons, not_or] at h
    obtain ⟨hw, hws⟩ := h
    simp only [splitAtLast?, ih hws, if_neg (Ne.symm hw)]

theorem splitAtLast?_append (below : List Word) {above : List Word} (h : s ∉ above) :
    splitAtLast? s (below ++ s :: above) = some (below, above) := by
  induction below with
  | nil => simp only [List.nil_append, splitAtLast?, splitAtLast?_of_not_mem h, ↓reduceIte]
  | cons w below ih => simp only [List.cons_append, splitAtLast?, ih]

/-- A stack holds the sentinel nowhere, or in a last place. -/
theorem split_cases (s : Word) (stack : List Word) :
    s ∉ stack ∨ ∃ below above, stack = below ++ s :: above ∧ s ∉ above := by
  by_cases h : s ∈ stack
  · obtain ⟨above, below, hsplit, habove⟩ :=
      List.eq_append_cons_of_mem (List.mem_reverse.mpr h)
    refine .inr ⟨below.reverse, above.reverse, ?_, fun hmem => habove (List.mem_reverse.mp hmem)⟩
    calc stack = stack.reverse.reverse := stack.reverse_reverse.symm
      _ = below.reverse ++ s :: above.reverse := by rw [hsplit]; simp
  · exact .inl h

/-! ## Tuples -/

theorem length_flatten_of_uniform {ts : List (List Word)} (h : ∀ t ∈ ts, t.length = size) :
    ts.flatten.length = size * ts.length := by
  induction ts with
  | nil => rfl
  | cons t ts ih =>
    have ht : t.length = size := h t List.mem_cons_self
    have hts := ih fun u hu => h u (List.mem_cons_of_mem t hu)
    rw [List.flatten_cons, List.length_append, ht, hts, List.length_cons]
    exact Nat.add_comm _ _

theorem tuples_flatten {ts : List (List Word)} (h : ∀ t ∈ ts, t.length = size) :
    tuples size ts.length ts.flatten = ts := by
  induction ts with
  | nil => rfl
  | cons t ts ih =>
    have ht : t.length = size := h t List.mem_cons_self
    rw [List.length_cons, tuples, List.flatten_cons, List.take_left' ht, List.drop_left' ht,
      ih fun u hu => h u (List.mem_cons_of_mem t hu)]

theorem flatten_tuples {count : Nat} {ws : List Word} (h : ws.length = size * count) :
    (tuples size count ws).flatten = ws ∧ ∀ t ∈ tuples size count ws, t.length = size := by
  induction count generalizing ws with
  | zero =>
    rw [List.length_eq_zero_iff.mp h]
    exact ⟨rfl, fun t ht => absurd ht List.not_mem_nil⟩
  | succ count ih =>
    rw [Nat.mul_succ] at h
    have hrest : (ws.drop size).length = size * count := by
      rw [List.length_drop]
      omega
    obtain ⟨hflat, hsize⟩ := ih hrest
    refine ⟨?_, fun t ht => ?_⟩
    · rw [tuples, List.flatten_cons, hflat, List.take_append_drop]
    · rcases List.mem_cons.mp ht with rfl | ht
      · rw [List.length_take]
        omega
      · exact hsize t ht

/-! ## Reading one list -/

theorem consume_of_zero (stack : List Word) (s : Word) :
    consume stack s 0 = .error .zeroTupleSize := rfl

theorem consume_of_not_mem {stack : List Word} (hsize : size ≠ 0) (h : s ∉ stack) :
    consume stack s size = .error .missing := by
  simp only [consume, if_neg hsize, splitAtLast?_of_not_mem h]

theorem consume_append (below : List Word) {above : List Word} (hsize : size ≠ 0)
    (h : s ∉ above) : consume (below ++ s :: above) s size =
      if above.length % size ≠ 0 then .error (.ragged above.length size)
      else .ok (tuples size (above.length / size) above, below) := by
  simp only [consume, if_neg hsize, splitAtLast?_append below h]

/-- A list is read exactly if it is on top of the stack, behind its sentinel. -/
theorem consume_eq_ok_iff {stack below : List Word} {ts : List (List Word)} :
    consume stack s size = .ok (ts, below) ↔
      size ≠ 0 ∧ stack = below ++ s :: ts.flatten ∧ ∀ t ∈ ts, t.length = size ∧ s ∉ t := by
  constructor
  · intro h
    by_cases hsize : size = 0
    · rw [hsize, consume_of_zero] at h
      cases h
    rcases split_cases s stack with hmem | ⟨below', above, rfl, habove⟩
    · rw [consume_of_not_mem hsize hmem] at h
      cases h
    rw [consume_append below' hsize habove] at h
    split at h
    · cases h
    · rename_i hmod
      cases h
      have hlen : above.length = size * (above.length / size) :=
        (Nat.mul_div_cancel' (Nat.dvd_of_mod_eq_zero (not_not.mp hmod))).symm
      obtain ⟨hflat, huniform⟩ := flatten_tuples hlen
      refine ⟨hsize, by rw [hflat], fun t ht => ⟨huniform t ht, fun hst => habove ?_⟩⟩
      rw [← hflat]
      exact List.mem_flatten_of_mem ht hst
  · rintro ⟨hsize, rfl, hts⟩
    have hlen := length_flatten_of_uniform fun t ht => (hts t ht).1
    have hnot : s ∉ ts.flatten := fun hmem => by
      obtain ⟨t, ht, hst⟩ := List.mem_flatten.mp hmem
      exact (hts t ht).2 hst
    rw [consume_append below hsize hnot, hlen, Nat.mul_mod_right,
      Nat.mul_div_cancel_left _ (Nat.pos_of_ne_zero hsize), if_neg (not_not.mpr rfl),
      tuples_flatten fun t ht => (hts t ht).1]

/-- Which fault is reported: each is looked for only if those before it do not apply. -/
inductive Unreadable (stack : List Word) (s : Word) (size : Nat) : Fault → Prop where
  | zeroTupleSize : size = 0 → Unreadable stack s size .zeroTupleSize
  | missing : size ≠ 0 → s ∉ stack → Unreadable stack s size .missing
  | ragged {below above : List Word} : size ≠ 0 → stack = below ++ s :: above → s ∉ above →
      ¬ size ∣ above.length → Unreadable stack s size (.ragged above.length size)

theorem consume_eq_error_iff {stack : List Word} {e : Fault} :
    consume stack s size = .error e ↔ Unreadable stack s size e := by
  constructor
  · intro h
    by_cases hsize : size = 0
    · rw [hsize, consume_of_zero] at h
      cases h
      exact .zeroTupleSize hsize
    rcases split_cases s stack with hmem | ⟨below, above, rfl, habove⟩
    · rw [consume_of_not_mem hsize hmem] at h
      cases h
      exact .missing hsize hmem
    · rw [consume_append below hsize habove] at h
      split at h
      · rename_i hmod
        cases h
        exact .ragged hsize rfl habove fun hdvd => hmod (Nat.mod_eq_zero_of_dvd hdvd)
      · cases h
  · rintro (rfl | ⟨hsize, hmem⟩ | ⟨hsize, rfl, habove, hdvd⟩)
    · exact consume_of_zero stack s
    · exact consume_of_not_mem hsize hmem
    · rw [consume_append _ hsize habove,
        if_pos fun hmod => hdvd (Nat.dvd_of_mod_eq_zero hmod)]

/-! ## Reading lists off a stack -/

/-- The stack is changed last, when nothing can fail any more. -/
theorem peel_run (stack : List Word) : (peel s size).run stack =
    match consume stack s size with
    | .ok (ts, below) => .ok ts below
    | .error e => .error e stack := by
  show (match consume stack s size with
    | .ok (ts, below) => (do set below; return ts : EStateM Fault (List Word) (List (List Word)))
    | .error e => throw e).run stack = _
  cases consume stack s size <;> rfl

theorem peel_eq_ok_iff {stack rest : List Word} {ts : List (List Word)} :
    (peel s size).run stack = .ok ts rest ↔ consume stack s size = .ok (ts, rest) := by
  rw [peel_run]
  cases consume stack s size <;> simp [Prod.ext_iff]

theorem peel_eq_error_iff {stack rest : List Word} {e : Fault} :
    (peel s size).run stack = .error e rest ↔ rest = stack ∧ consume stack s size = .error e := by
  rw [peel_run]
  cases consume stack s size <;> simp [eq_comm, and_comm]

/-- A list that can be pushed: its tuples are of one size, and none holds the sentinel. -/
structure Listing where
  sentinel : Word
  tupleSize : Nat
  tuples : List (List Word)
  tupleSize_ne_zero : tupleSize ≠ 0
  uniform : ∀ t ∈ tuples, t.length = tupleSize
  apart : ∀ t ∈ tuples, sentinel ∉ t

/-- What is pushed: the sentinel, then the tuples one after the other. -/
def Listing.words (l : Listing) : List Word := l.sentinel :: l.tuples.flatten

theorem peel_listing (base : List Word) (l : Listing) :
    (peel l.sentinel l.tupleSize).run (base ++ l.words) = .ok l.tuples base := by
  refine peel_eq_ok_iff.mpr (consume_eq_ok_iff.mpr ⟨l.tupleSize_ne_zero, rfl, fun t ht => ?_⟩)
  exact ⟨l.uniform t ht, l.apart t ht⟩

/-- By induction on the lists, from the one that was pushed last: reading it leaves the stack on
which it was pushed. -/
theorem peel_listings (base : List Word) (lists : List Listing) :
    (lists.reverse.mapM fun l => peel l.sentinel l.tupleSize).run
      (base ++ lists.flatMap Listing.words) = .ok (lists.reverse.map Listing.tuples) base := by
  induction lists using List.reverseRecOn with
  | nil => simp
  | append_singleton lists l ih =>
    have htop := peel_listing (base ++ lists.flatMap Listing.words) l
    rw [List.reverse_append, List.reverse_singleton, List.singleton_append, List.mapM_cons,
      List.flatMap_append, List.flatMap_singleton, ← List.append_assoc, EStateM.run_bind, htop]
    simp only [EStateM.run_bind, ih]
    rfl

/-- **Lists behind sentinels.** Lists that were pushed one after the other are read back, the last
one first, and what they were pushed on is left. Reading gives tuples exactly if they are on top of
the stack, each of the size asked for and without the sentinel. Whatever else is asked leaves the
stack as it was, and the fault says why. -/
theorem peel_faithful (base : List Word) (lists : List Listing) (stack : List Word)
    (s : Word) (size : Nat) :
    (lists.reverse.mapM fun l => peel l.sentinel l.tupleSize).run
        (base ++ lists.flatMap Listing.words) = .ok (lists.reverse.map Listing.tuples) base ∧
    (∀ ts rest, (peel s size).run stack = .ok ts rest ↔
      size ≠ 0 ∧ stack = rest ++ s :: ts.flatten ∧ ∀ t ∈ ts, t.length = size ∧ s ∉ t) ∧
    (∀ e rest, (peel s size).run stack = .error e rest ↔
      rest = stack ∧ Unreadable stack s size e) := by
  refine ⟨peel_listings base lists, fun ts rest => ?_, fun e rest => ?_⟩
  · exact peel_eq_ok_iff.trans consume_eq_ok_iff
  · exact peel_eq_error_iff.trans (and_congr_right fun _ => consume_eq_error_iff)

/-- One word behind the sentinel 7. -/
def oneWord : Listing := ⟨7#256, 1, [[1#256]], by decide, by decide, by decide⟩

/-- One pair of words behind the same sentinel. -/
def onePair : Listing := ⟨7#256, 2, [[2#256, 3#256]], by decide, by decide, by decide⟩

/-- The sentinel lies on the base as well. -/
example : ([onePair, oneWord].mapM fun l => peel l.sentinel l.tupleSize).run
    ([7#256] ++ [oneWord, onePair].flatMap Listing.words) =
      .ok [onePair.tuples, oneWord.tuples] [7#256] := rfl

end Sentinel

end ExprMachine
