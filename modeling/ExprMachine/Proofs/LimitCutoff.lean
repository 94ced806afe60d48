import ExprMachine.Proofs.Integrity.Tracking
import ExprMachine.Proofs.Locality
import ExprMachine.Proofs.Termination

/-!
# Limits only cut runs off

No op reads the limits. They stop a frame that would get too high and a chain of frames that would
get too long, and otherwise a run does not know them. So an evaluation that met no limit is the same
under all larger ones, and a bundle that was accepted under some limits is accepted with the same
report under larger ones (`limits_only_cut_off`).

The two runs are compared from the same machine, which holds no limits. What differs is the frames:
those of the second have the same words and at least as much room (`Stack.Roomier`), so what their
ops return is related and not the same.

* `Fault.OfLimit`: the faults that a limit is the cause of.
* `UnlessCut V x y`: from any machine, `y` does what `x` does and returns a value that `V` relates
  to what `x` returns, unless `x` meets a limit.
* `compute_unlessCut`: an op makes the same of its inputs. A capacity matters only where its results
  go (`extend_unlessCut`) and where a frame is opened (`openFrame_unlessCut`).
* `runSource_unlessCut`: a whole run, by induction on the room that the first has for frames.
-/

namespace ExprMachine

open Integrity

/-- A frame was too high, or too many were open. -/
def Fault.OfLimit : Fault → Prop
  | .stackOverflow _ | .callDepth _ => True
  | _ => False

/-- The same words, with at least as much room above them. -/
structure Stack.Roomier (s s' : Stack) : Prop where
  words : s'.words = s.words
  capacity : s.capacity ≤ s'.capacity

namespace Stack.Roomier

variable {s s' : Stack}

theorem height_eq (h : s.Roomier s') : s'.height = s.height := congrArg List.length h.words

theorem topN_eq (h : s.Roomier s') (who : String) (n : Nat) : s'.topN who n = s.topN who n := by
  unfold Stack.topN
  rw [h.height_eq, h.words]

theorem get_eq (h : s.Roomier s') (index : Nat) : s'.get index = s.get index := by
  unfold Stack.get
  rw [h.height_eq, h.words]

end Stack.Roomier

/-! ## Runs that may be cut -/

/-- `y` does what `x` does unless `x` meets a limit (module doc). -/
def UnlessCut {σ α β : Type} (V : α → β → Prop) (x : Run σ α) (y : Run σ β) : Prop :=
  ∀ m, Ends (x m) (fun a m' => ∃ b, V a b ∧ y m = .ok b m')
    (fun e m' => e.OfLimit ∨ y m = .error e m')

namespace UnlessCut

variable {σ α β γ δ : Type} {V : α → β → Prop} {W : γ → δ → Prop}

theorem refl (x : Run σ α) : UnlessCut Eq x x := by
  intro m
  cases x m with
  | ok a m' => exact ⟨a, rfl, rfl⟩
  | error e m' => exact .inr rfl

theorem ret {a : α} {b : β} (h : V a b) : UnlessCut V (pure a : Run σ α) (pure b) :=
  fun _ => ⟨b, h, rfl⟩

theorem fail (e : Fault) : UnlessCut V (throw e : Run σ α) (throw e) := fun _ => .inr rfl

/-- Nothing is asked where the first run met a limit. -/
theorem cut (e : Fault) (h : e.OfLimit) (y : Run σ β) : UnlessCut V (throw e : Run σ α) y :=
  fun _ => .inl h

theorem bind {x : Run σ α} {y : Run σ β} {f : α → Run σ γ} {g : β → Run σ δ}
    (hx : UnlessCut V x y) (hf : ∀ a b, V a b → UnlessCut W (f a) (g b)) :
    UnlessCut W (x >>= f) (y >>= g) := by
  intro m
  have hend := hx m
  show Ends (EStateM.bind x f m) (fun c m' => ∃ d, W c d ∧ EStateM.bind y g m = .ok d m')
    (fun e m' => e.OfLimit ∨ EStateM.bind y g m = .error e m')
  unfold EStateM.bind
  revert hend
  cases x m with
  | ok a m' =>
    rintro ⟨b, hab, hy⟩
    rw [hy]
    exact hf a b hab m'
  | error e m' =>
    rintro (hlimit | hy)
    · exact .inl hlimit
    · rw [hy]
      exact .inr rfl

/-- A step that both runs take alike. -/
theorem bind_refl (x : Run σ α) {f : α → Run σ γ} {g : α → Run σ δ}
    (hf : ∀ a, UnlessCut W (f a) (g a)) : UnlessCut W (x >>= f) (x >>= g) :=
  (refl x).bind fun a _ hab => hab ▸ hf a

/-- The same for a step that changes nothing, the value of which is known. -/
theorem lift_bind {y : Except Fault α} {f : α → Run σ γ} {g : α → Run σ δ}
    (hf : ∀ a, y = .ok a → UnlessCut W (f a) (g a)) :
    UnlessCut W (liftM y >>= f) (liftM y >>= g) := by
  cases y with
  | ok a => exact hf a rfl
  | error e => exact fail e

end UnlessCut

namespace Machine

/-- The results fit the roomier frame if they fit the other. -/
theorem extend_unlessCut {σ : Type} (below words : List Word) {c c' : Nat} (hc : c ≤ c') :
    UnlessCut Stack.Roomier (liftM (Stack.extend ⟨below, c⟩ words) : Run σ Stack)
      (liftM (Stack.extend ⟨below, c'⟩ words)) := by
  rw [Stack.extend_eq, Stack.extend_eq]
  by_cases hfits : words = [] ∨ below.length + words.length ≤ c
  · have hfits' : words = [] ∨ below.length + words.length ≤ c' :=
      hfits.imp_right fun hle => Nat.le_trans hle hc
    rw [if_pos hfits, if_pos hfits']
    exact .ret ⟨rfl, hc⟩
  · rw [if_neg hfits]
    exact .cut (.stackOverflow c) trivial _

section Frames

-- What the ops of a frame are given to run others with, on either side.
variable {σ : Type} {nested nested' : Nested σ}
  (hn : ∀ source inputs, UnlessCut Stack.Roomier (nested source inputs) (nested' source inputs))

include hn

/-! ## Loops -/

theorem repeatN_unlessCut (source carried n : Nat) (words : List Word) :
    UnlessCut Eq (repeatN nested source carried n words)
      (repeatN nested' source carried n words) := by
  induction n generalizing words with
  | zero => exact .ret rfl
  | succ n ih =>
    refine .bind (hn source words) fun frame frame' hframe => ?_
    rw [hframe.topN_eq]
    exact .lift_bind fun top _ => ih top

theorem repeatWhile_unlessCut (source carried rounds : Nat) (condition : Word)
    (words : List Word) :
    UnlessCut Eq (repeatWhile nested source carried rounds condition words)
      (repeatWhile nested' source carried rounds condition words) := by
  induction rounds generalizing condition words with
  | zero =>
    unfold repeatWhile
    split
    · exact .ret rfl
    · exact .fail _
  | succ rounds ih =>
    unfold repeatWhile
    split
    · exact .ret rfl
    refine .bind (hn source words) fun frame frame' hframe => ?_
    rw [hframe.topN_eq]
    refine .lift_bind fun top _ => ?_
    cases top.getLast? with
    | some next => exact ih next top.dropLast
    | none => exact .fail _

/-! ## Ops -/

variable [Storage σ] {env : Env} {limits : Limits} {stack stack' : Stack}

/-- **What an op makes of its inputs** does not depend on the limits. -/
theorem compute_unlessCut (rounds : Nat) (site : Site) (opcode : Opcode) (operand : Operand)
    (hstack : stack.Roomier stack') (inputs : List Word) :
    UnlessCut Eq (compute env nested rounds site opcode operand stack inputs)
      (compute { env with limits := limits } nested' rounds site opcode operand stack' inputs) := by
  cases opcode with
  | readMemory =>
    have hfetch : fetch { env with limits := limits } operand stack' =
        fetch env operand stack := by
      unfold fetch
      rw [hstack.get_eq]
    simp only [compute, hfetch]
    exact .refl _
  | flow f =>
    cases f with
    | call =>
      refine .bind (hn _ inputs) fun frame frame' hframe => ?_
      rw [hframe.topN_eq]
      exact .refl _
    | loopN => exact repeatN_unlessCut hn _ _ _ inputs
    | doWhile =>
      simp only [compute]
      cases inputs.getLast? with
      | some condition => exact repeatWhile_unlessCut hn _ _ rounds condition _
      | none => exact .fail _
  | debug =>
    have hsnapshot (mode : DebugMode) : snapshot { env with limits := limits } site stack' mode =
        snapshot env site stack mode := by
      unfold snapshot
      rw [hstack.words]
    simp only [compute, hsnapshot]
    exact .refl _
  | context | ensure | set | get | «calc» => exact .refl _

theorem perform_unlessCut (rounds : Nat) (site : Site) {opcode : Opcode} {operand : Operand}
    (hstack : stack.Roomier stack') (hin : opcode.inputs operand ≤ stack.height) :
    UnlessCut Stack.Roomier (perform env nested rounds site opcode operand stack)
      (perform { env with limits := limits } nested' rounds site opcode operand stack') := by
  obtain ⟨words, c⟩ := stack
  obtain ⟨words', c'⟩ := stack'
  obtain ⟨hwords, hc⟩ := hstack
  obtain ⟨below, top, heq, hlen⟩ := Stack.eq_append hin
  obtain rfl : words = below ++ top := congrArg Stack.words heq
  obtain rfl : words' = below ++ top := hwords
  have hframe : Stack.Roomier ⟨below ++ top, c⟩ ⟨below ++ top, c'⟩ := ⟨rfl, hc⟩
  rw [perform_append env nested rounds site below c hlen,
    perform_append { env with limits := limits } nested' rounds site below c' hlen]
  refine .bind (compute_unlessCut hn rounds site opcode operand hframe top) ?_
  rintro results _ rfl
  exact extend_unlessCut below results hc

/-- **One op.** -/
theorem step_unlessCut (rounds : Nat) (site : Site) (op : Op) (hstack : stack.Roomier stack') :
    UnlessCut Stack.Roomier (step env nested rounds site op stack)
      (step { env with limits := limits } nested' rounds site op stack') := by
  unfold step
  rw [hstack.height_eq]
  refine .lift_bind fun opcode _ => .bind_refl _ fun _ => .lift_bind fun _ hpassed => ?_
  refine .bind_refl _ fun _ => ?_
  refine .bind (perform_unlessCut hn rounds site hstack (inputs_le_of_checkInputs hpassed)) ?_
  intro after after' hafter
  unfold checkOutputs
  rw [hafter.height_eq]
  simp only
  split
  · exact .ret hafter
  · exact .fail _

theorem runOps_unlessCut (rounds source depth ip : Nat) (ops : List Op)
    (hstack : stack.Roomier stack') :
    UnlessCut Stack.Roomier (runOps env nested rounds source depth ip ops stack)
      (runOps { env with limits := limits } nested' rounds source depth ip ops stack') := by
  induction ops generalizing ip stack stack' with
  | nil => exact .ret hstack
  | cons op ops ih =>
    exact .bind (step_unlessCut hn rounds _ op hstack) fun after after' hafter => ih (ip + 1) hafter

theorem runFrame_unlessCut (rounds depth source : Nat) (hstack : stack.Roomier stack') :
    UnlessCut Stack.Roomier (runFrame env nested rounds depth source stack)
      (runFrame { env with limits := limits } nested' rounds depth source stack') :=
  .lift_bind fun target _ => runOps_unlessCut hn rounds source depth 0 target.ops hstack

end Frames

/-! ## Runs -/

variable {σ : Type} {env : Env} {limits : Limits}

/-- A frame is paid for alike, and holds its words if the other does. -/
theorem openFrame_unlessCut (hmax : env.limits.maxStack ≤ limits.maxStack)
    {run run' : (source : Nat) → Stack → Run σ Stack}
    (hrun : ∀ source frame frame', frame.Roomier frame' →
      UnlessCut Stack.Roomier (run source frame) (run' source frame')) (source : Nat)
    (inputs : List Word) :
    UnlessCut Stack.Roomier (openFrame env run source inputs)
      (openFrame { env with limits := limits } run' source inputs) := by
  refine .bind_refl _ fun _ => ?_
  unfold Stack.seeded
  by_cases hfits : inputs.length ≤ env.limits.maxStack
  · rw [if_pos hfits, if_pos (Nat.le_trans hfits hmax)]
    exact hrun source _ _ ⟨rfl, hmax⟩
  · rw [if_neg hfits]
    exact .cut (.stackOverflow _) trivial _

/-- **A whole run.** By induction on the room that the first run has for frames; the second has at
least as much. -/
theorem runSource_unlessCut [Storage σ] (env : Env) (limits : Limits)
    (hmax : env.limits.maxStack ≤ limits.maxStack) (rounds : Nat) {room room' : Nat}
    (hroom : room ≤ room') (depth source : Nat) {stack stack' : Stack}
    (hstack : stack.Roomier stack') :
    UnlessCut Stack.Roomier (runSource (σ := σ) env rounds room depth source stack)
      (runSource { env with limits := limits } rounds room' depth source stack') := by
  induction room generalizing room' depth source stack stack' with
  | zero =>
    rw [runSource_eq, runSource_eq]
    exact runFrame_unlessCut (fun _ _ => .cut (.callDepth _) trivial _) rounds depth source hstack
  | succ room ih =>
    cases room' with
    | zero => omega
    | succ room' =>
      refine runFrame_unlessCut (openFrame_unlessCut hmax fun source frame frame' hframe => ?_)
        rounds depth source hstack
      exact ih (Nat.le_of_succ_le_succ hroom) (depth + 1) source hframe

/-! ## Evaluations -/

theorem maxCallDepth_clamped_mono {limits limits' : Limits}
    (h : limits.maxCallDepth ≤ limits'.maxCallDepth) :
    limits.clamped.maxCallDepth ≤ limits'.clamped.maxCallDepth := by
  simp only [Limits.clamped, Nat.min_def]
  split <;> split <;> omega

theorem evaluate_of_larger_limits {limits limits' : Limits}
    (hmax : limits.maxStack ≤ limits'.maxStack)
    (hdepth : limits.maxCallDepth ≤ limits'.maxCallDepth) (request : Request) (store : Store)
    (gasLimit : Nat) (traced : Bool)
    (huncut : ∀ fault, (evaluate limits request store gasLimit traced).outcome = .error fault →
      ¬ fault.OfLimit) :
    evaluate limits' request store gasLimit traced =
      evaluate limits request store gasLimit traced := by
  have hempty : (Stack.empty limits.maxStack).Roomier (.empty limits'.maxStack) := ⟨rfl, hmax⟩
  have hrun : UnlessCut Stack.Roomier
      (runSource (σ := Overlay) (envOf limits request traced) (gasLimit + 1)
        limits.clamped.maxCallDepth 0 request.source (.empty limits.maxStack))
      (runSource (envOf limits' request traced) (gasLimit + 1)
        limits'.clamped.maxCallDepth 0 request.source (.empty limits'.maxStack)) :=
    runSource_unlessCut (envOf limits request traced) limits'.clamped hmax (gasLimit + 1)
      (maxCallDepth_clamped_mono hdepth) 0 request.source hempty
  have hend := hrun (fresh request store gasLimit)
  rw [evaluate, evaluateWithin_eq] at huncut
  rw [evaluate, evaluate, evaluateWithin_eq, evaluateWithin_eq]
  revert hend huncut
  generalize runSource (envOf limits request traced) _ _ _ _ _ (fresh request store gasLimit) =
    ended
  cases ended with
  | ok stack m =>
    rintro - ⟨stack', hstack, hended⟩
    rw [hended]
    simp only [concluded, hstack.words]
  | error fault m =>
    rintro huncut (hlimit | hended)
    · exact absurd hlimit (huncut fault rfl)
    · rw [hended]

/-- **Limits only cut off.** An evaluation that met no limit is the same under all limits that are
at least as large: its outcome, the gas it used and the trail it left. A bundle that is accepted is
accepted with the same reports where frames may be higher, however many may be open. -/
theorem limits_only_cut_off {limits limits' : Limits}
    (hmax : limits.maxStack ≤ limits'.maxStack) :
    (limits.maxCallDepth ≤ limits'.maxCallDepth →
      ∀ (request : Request) (store : Store) (gasLimit : Nat) (traced : Bool),
      (∀ fault, (evaluate limits request store gasLimit traced).outcome = .error fault →
        ¬ fault.OfLimit) →
      evaluate limits' request store gasLimit traced =
        evaluate limits request store gasLimit traced) ∧
    ∀ (bundle : Bundle) (mins : List Nat) (reports : List EntrypointReport),
      check bundle limits mins = .ok reports → check bundle limits' mins = .ok reports := by
  refine ⟨evaluate_of_larger_limits hmax, fun bundle mins reports hcheck => ?_⟩
  have hroom : Roomier bundle bundle limits limits' := ⟨Nat.le_refl _, Nat.le_refl _, hmax⟩
  exact check_of_roomier hroom (fun _ _ => rfl) hcheck

/-- The first source calls the second with a constant. The second copies the word that it is handed,
takes a snapshot and adds the two. -/
def snugBundle : Bundle :=
  ⟨[⟨[.ofRaw 0 1, .ofRaw 2 0x1101]⟩, ⟨[.ofRaw 0 0, .ofRaw 5 0, .ofRaw 10 2]⟩], [5#256]⟩

/-- Two words and one frame are just enough for it, so it makes no use of any more. -/
theorem snugBundle_not_cut_off :
    (evaluate ⟨2, 0⟩ ⟨snugBundle, 0, .empty, 0#256, none⟩ (.empty .none) 50 false).outcome =
      .error (.callDepth 0) ∧
    (evaluate ⟨1, 1⟩ ⟨snugBundle, 0, .empty, 0#256, none⟩ (.empty .none) 50 false).outcome =
      .error (.stackOverflow 1) ∧
    evaluate .standard ⟨snugBundle, 0, .empty, 0#256, none⟩ (.empty .none) 50 false =
      ⟨.ok ⟨[10#256], [], 22⟩, 22, [.debug ⟨.stack, ⟨1, 1, 1⟩, [5#256, 5#256]⟩]⟩ ∧
    check snugBundle ⟨1024, 0⟩ [1] = .ok [⟨0, 1, 2⟩] := by
  have hfits : evaluate ⟨2, 1⟩ ⟨snugBundle, 0, .empty, 0#256, none⟩ (.empty .none) 50 false =
      ⟨.ok ⟨[10#256], [], 22⟩, 22, [.debug ⟨.stack, ⟨1, 1, 1⟩, [5#256, 5#256]⟩]⟩ := by cbv
  have hcheck : check snugBundle ⟨2, 1⟩ [1] = .ok [⟨0, 1, 2⟩] := rfl
  have huncut (fault : Fault) : (evaluate ⟨2, 1⟩ ⟨snugBundle, 0, .empty, 0#256, none⟩ (.empty .none)
      50 false).outcome = .error fault → ¬ fault.OfLimit := by
    rw [hfits]
    rintro ⟨⟩
  refine ⟨rfl, rfl, ?_, ?_⟩
  · rw [← hfits]
    exact (limits_only_cut_off (by decide)).1 (by decide) _ _ _ _ huncut
  · exact (limits_only_cut_off (by decide)).2 _ _ _ hcheck

end Machine

end ExprMachine
