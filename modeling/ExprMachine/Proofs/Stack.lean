import ExprMachine.Proofs.Outcome
import ExprMachine.Stack

/-!
# Stacks of a known height

What an op does to the height of a stack does not depend on the words. `Stack.Sized c n s` says
that `s` holds `n` words of the `c` that fit, and each operation of a stack has one lemma on it:

* `Sized.pop`, `Sized.popN`: words that are there can be taken off;
* `Sized.push`, `Sized.extend`: words are put on top unless they do not fit, and then the fault is
  a stack overflow;
* `Sized.topN`, `Sized.get`: words are read unless they are not there.

Where it matters what the words are, a stack is written as the words that an op leaves alone and
those on top of them, `⟨below ++ top, c⟩` (`pop_append`, `popN_append`, `extend_eq`).
-/

namespace ExprMachine

namespace Stack

/-- A stack of `n` words, of which `c` fit. -/
structure Sized (c n : Nat) (s : Stack) : Prop where
  height : s.height = n
  capacity : s.capacity = c
  fits : n ≤ c

theorem sized_empty (c : Nat) : (Stack.empty c).Sized c 0 := ⟨rfl, rfl, Nat.zero_le c⟩

/-- A frame holds the words that it is seeded with. -/
theorem seeded_eq_ok {ws : List Word} {c : Nat} (h : ws.length ≤ c) :
    ∃ s, Stack.seeded ws c = .ok s ∧ s.Sized c ws.length :=
  ⟨⟨ws, c⟩, by simp only [Stack.seeded, h, ↓reduceIte], rfl, rfl, h⟩

variable {s : Stack} {c n : Nat}

theorem Sized.push (h : s.Sized c n) (w : Word) :
    Outcome (s.push w) (Sized c (n + 1)) (fun e => c < n + 1 ∧ e = .stackOverflow c) := by
  obtain ⟨hn, hc, -⟩ := h
  unfold Stack.push
  split
  · rename_i hlt
    refine ⟨?_, hc, by omega⟩
    simp only [Stack.height, List.length_append, List.length_singleton] at hn ⊢
    omega
  · exact ⟨by omega, by rw [hc]⟩

theorem Sized.pushAll (h : s.Sized c n) (ws : List Word) :
    match s.pushAll ws with
    | (.ok _, s') => s'.Sized c (n + ws.length)
    | (.error e, _) => c < n + ws.length ∧ e = .stackOverflow c := by
  induction ws generalizing s n with
  | nil => exact h
  | cons w ws ih =>
    have hpush := h.push w
    unfold Stack.pushAll
    rw [List.length_cons]
    cases hw : s.push w with
    | error e =>
      rw [hw] at hpush
      obtain ⟨hlt, rfl⟩ := hpush
      exact ⟨by omega, rfl⟩
    | ok s' =>
      rw [hw] at hpush
      have := ih (n := n + 1) hpush
      rwa [Nat.add_right_comm, Nat.add_assoc] at this

theorem Sized.extend (h : s.Sized c n) (ws : List Word) :
    Outcome (s.extend ws) (Sized c (n + ws.length))
      (fun e => c < n + ws.length ∧ e = .stackOverflow c) := by
  have hall := h.pushAll ws
  unfold Stack.extend
  cases hw : s.pushAll ws with
  | mk outcome s' =>
    rw [hw] at hall
    cases outcome with
    | ok _ => exact hall
    | error e => exact hall

theorem Sized.pop (h : s.Sized c n) (hn : 0 < n) (who : String) :
    ∃ w s', s.pop who = .ok (w, s') ∧ s'.Sized c (n - 1) := by
  obtain ⟨hh, hc, hle⟩ := h
  cases hw : s.words.getLast? with
  | none =>
    rw [List.getLast?_eq_none_iff] at hw
    simp only [Stack.height, hw, List.length_nil] at hh
    omega
  | some w =>
    refine ⟨w, { s with words := s.words.dropLast }, by simp only [Stack.pop, hw], ?_, hc, by omega⟩
    simp only [Stack.height, List.length_dropLast] at hh ⊢
    omega

theorem Sized.popN (h : s.Sized c n) {k : Nat} (hk : k ≤ n) (who : String) :
    ∃ ws s', s.popN who k = .ok (ws, s') ∧ ws.length = k ∧ s'.Sized c (n - k) := by
  obtain ⟨hh, hc, hle⟩ := h
  refine ⟨s.words.drop (n - k), { s with words := s.words.take (n - k) },
    by simp only [Stack.popN, hh, hk, ↓reduceIte], ?_, ?_, hc, by omega⟩
  · simp only [Stack.height] at hh
    rw [List.length_drop]
    omega
  · simp only [Stack.height] at hh ⊢
    rw [List.length_take]
    omega

theorem Sized.topN (h : s.Sized c n) (who : String) (k : Nat) :
    Outcome (s.topN who k) (fun ws => ws.length = k)
      (fun e => n < k ∧ e = .stackUnderflow who k n) := by
  obtain ⟨hh, -, -⟩ := h
  unfold Stack.topN
  rw [hh]
  split
  · simp only [Stack.height] at hh
    simp only [Outcome, List.length_drop]
    omega
  · exact ⟨by omega, rfl⟩

theorem Sized.get (h : s.Sized c n) (i : Nat) :
    Outcome (s.get i) (fun _ => True) (fun e => n ≤ i ∧ e = .stackReadOutOfRange i n) := by
  obtain ⟨hh, -, -⟩ := h
  unfold Stack.get
  cases hw : s.words[i]? with
  | some w => trivial
  | none =>
    rw [List.getElem?_eq_none_iff] at hw
    rw [hh]
    exact ⟨hh ▸ hw, rfl⟩

/-! ## Words on top of others -/

theorem pop_append (below : List Word) (w : Word) (c : Nat) (who : String) :
    (Stack.mk (below ++ [w]) c).pop who = .ok (w, ⟨below, c⟩) := by
  simp [Stack.pop]

theorem popN_append (below top : List Word) (c : Nat) (who : String) :
    (Stack.mk (below ++ top) c).popN who top.length = .ok (top, ⟨below, c⟩) := by
  simp [Stack.popN, Stack.height]

theorem extend_nil (s : Stack) : s.extend [] = .ok s := rfl

theorem extend_singleton (s : Stack) (w : Word) : s.extend [w] = s.push w := by
  simp only [Stack.extend, Stack.pushAll]
  cases s.push w with
  | ok s' => rfl
  | error e => rfl

theorem extend_cons (below : List Word) (w : Word) (ws : List Word) (c : Nat) :
    (Stack.mk below c).extend (w :: ws) =
      if below.length < c then (Stack.mk (below ++ [w]) c).extend ws
      else .error (.stackOverflow c) := by
  by_cases hlt : below.length < c
  · simp [Stack.extend, Stack.pushAll, Stack.push, Stack.height, hlt]
  · simp [Stack.extend, Stack.pushAll, Stack.push, Stack.height, hlt]

/-- Words are put on top if they all fit. No words always do, also on a stack that is too high. -/
theorem extend_eq (below words : List Word) (c : Nat) :
    (Stack.mk below c).extend words =
      if words = [] ∨ below.length + words.length ≤ c then .ok ⟨below ++ words, c⟩
      else .error (.stackOverflow c) := by
  induction words generalizing below with
  | nil => simp [extend_nil]
  | cons w ws ih =>
    rw [extend_cons, ih]
    simp only [List.length_append, List.length_cons, List.length_nil, List.append_assoc,
      List.cons_append, List.nil_append, reduceCtorEq, false_or]
    by_cases hlt : below.length < c
    · rw [if_pos hlt]
      by_cases hfits : below.length + (ws.length + 1) ≤ c
      · rw [if_pos hfits, if_pos (.inr (by omega))]
      · have hne : ws ≠ [] := by
          rintro rfl
          simp only [List.length_nil] at hfits
          omega
        rw [if_neg hfits, if_neg (by simp only [hne, false_or]; omega)]
    · rw [if_neg hlt, if_neg (by omega)]

end Stack

end ExprMachine
