import ExprMachine.Proofs.Scenes
import ExprMachine.Proofs.Step

/-!
# What an evaluation does

For every bundle, checked or not, an evaluation follows the static heights: each frame is seen at
the height that its start has at that place (`watch_placed`, `sightings_static`), above frames that
a chain of control-flow ops has opened, and a source that ends leaves its final height
(`evaluate_outcome`). If the evaluation fails, its fault arises somewhere along such a chain
(`Arises`): it is a fault of an op at a place that the first source reaches, at that place's height,
or the chain is too long, or it leads to a source that does not exist.

The run is followed once, watched (`watchSource_triple`); that watching changes nothing gives the
rest.
-/

namespace ExprMachine

open Integrity

/-- A fault that a run from a start can end with, with room for `room` frames above its own. -/
inductive Arises (env : Env) (F : StoreFault → Prop) : (room : Nat) → Start → Fault → Prop
  /-- There is no such source. -/
  | missing {room : Nat} {p : Start} : env.bundle.sources.length ≤ p.source →
      Arises env F room p (.sourceOutOfRange p.source)
  /-- An op of the source fails. -/
  | own {room ip : Nat} {p : Start} {op : Op} {e : Fault} : (p.ops env.bundle)[ip]? = some op →
      OpFault env F ((targetOf op.operand).final env.bundle) (p.heightAt env.bundle ip) op e →
      Arises env F room p e
  /-- A control-flow op has no room for its frame. -/
  | full {ip : Nat} {p : Start} {op : Op} {f : Flow} : (p.ops env.bundle)[ip]? = some op →
      Opcode.ofId? op.opcode = some (.flow f) →
      Arises env F 0 p (.callDepth env.limits.maxCallDepth)
  /-- The source that a control-flow op runs fails. -/
  | nested {room : Nat} {p q : Start} {e : Fault} : Calls env.bundle p q → Arises env F room q e →
      Arises env F (room + 1) p e

/-- A read that the store refuses. -/
def Store.RefusesRead (store : Store) (cause : StoreFault) : Prop :=
  ∃ key ∈ store.refusals.reads, cause = .readRefused key

namespace Machine

/-- The overlay stands on the given store, and every scene so far is placed. -/
structure Faithful (b : Bundle) (limits : Limits) (first : Start) (store : Store)
    (m : Machine (Watched Overlay)) : Prop where
  base : m.storage.storage.base = store
  placed : ∀ v ∈ m.storage.scenes, v.Placed b limits first

variable {b : Bundle} {limits : Limits} {first : Start} {store : Store}

theorem ambient_faithful : Ambient (Faithful b limits first store) store.RefusesRead where
  gas h := ⟨h.base, h.placed⟩
  note h := ⟨h.base, h.placed⟩
  write h := ⟨h.base, h.placed⟩
  read {m key cause} h hr := by
    have hbase := h.base
    change m.storage.storage.get key = .error cause at hr
    unfold Overlay.get at hr
    split at hr
    · cases hr
    · rw [hbase] at hr
      unfold Store.get at hr
      split at hr
      · rename_i hmem
        cases hr
        exact ⟨key, hmem, rfl⟩
      · cases hr

theorem triple_shoot {L k : Nat} {E : Fault → Machine (Watched Overlay) → Prop} {v : Scene}
    (hv : v.Placed b limits first) :
    Triple (Spent (Faithful b limits first store) L k) (shoot v)
      (fun _ => Spent (Faithful b limits first store) L k) E := by
  intro m hm
  refine ⟨hm.limit, hm.least, hm.most, hm.rest.base, fun w hw => ?_⟩
  rcases List.mem_append.mp hw with hw | hw
  · exact hm.rest.placed w hw
  · rw [List.mem_singleton.mp hw]
    exact hv

variable {env : Env} {nested : Nested (Watched Overlay)} {L k rounds room : Nat}
  {below : List Start} {q : Start} {stack : Stack}

/-- A frame that has as many words as its place is placed. -/
theorem placed_of_sized (hframes : Stacked env.bundle first (q :: below))
    (hdepth : below.length ≤ env.limits.maxCallDepth) {ip : Nat}
    (hs : stack.Sized env.limits.maxStack (q.heightAt env.bundle ip)) :
    Scene.Placed env.bundle env.limits first ⟨below, q, ip, stack.words⟩ :=
  ⟨hframes, hdepth, hs.height, Nat.le_trans (Nat.le_of_eq hs.height) hs.fits⟩

section Frame

variable (hframes : Stacked env.bundle first (q :: below))
  (hdepth : below.length ≤ env.limits.maxCallDepth)
  (hn : ∀ (ip : Nat) (op : Op) (f : Flow), (q.ops env.bundle)[ip]? = some op →
    Opcode.ofId? op.opcode = some (.flow f) → op.operand.lowCount ≤ env.limits.maxStack →
    Opens (Faithful env.bundle env.limits first store) L env.limits.maxStack nested
      (Arises env store.RefusesRead room q) op.operand.lowByte op.operand.lowCount
      ((targetOf op.operand).final env.bundle))
  (hr : L < k + rounds)

include hframes hdepth hn hr

/-- The ops of a start, from any place on. -/
theorem watchOps_triple (ip : Nat) (ops : List Op) (hops : (q.ops env.bundle).drop ip = ops)
    (hs : stack.Sized env.limits.maxStack (q.heightAt env.bundle ip)) :
    Triple (Spent (Faithful env.bundle env.limits first store) L k)
      (watchOps env nested rounds below q ip ops stack)
      (fun after m => Spent (Faithful env.bundle env.limits first store) L k m ∧
        after.Sized env.limits.maxStack (q.final env.bundle))
      (fun e m => Spent (Faithful env.bundle env.limits first store) L k m ∧
        Arises env store.RefusesRead room q e) := by
  induction ops generalizing ip stack with
  | nil =>
    refine Triple.bind (triple_shoot (placed_of_sized hframes hdepth hs)) fun _ => ?_
    rw [Start.heightAt_of_le (List.drop_eq_nil_iff.mp hops)] at hs
    exact Triple.ret fun m hm => ⟨hm, hs⟩
  | cons op ops ih =>
    obtain ⟨hop, hrest⟩ := getElem?_of_drop hops
    refine Triple.bind (triple_shoot (placed_of_sized hframes hdepth hs)) fun _ => ?_
    refine Triple.bind ((step_triple ambient_faithful hs (hn ip op · hop) hr).conseq
      (fun _ h => h) (fun _ _ h => h) ?_) fun after => Triple.assume fun hafter => ?_
    · rintro e m ⟨hm, he | he⟩
      · exact ⟨hm, .own hop he⟩
      · exact ⟨hm, he⟩
    · rw [← Start.heightAt_succ hop] at hafter
      exact ih (ip + 1) hrest hafter

theorem watchFrame_triple (hs : stack.Sized env.limits.maxStack q.height) :
    Triple (Spent (Faithful env.bundle env.limits first store) L k)
      (watchFrame env nested rounds below q stack)
      (fun after m => Spent (Faithful env.bundle env.limits first store) L k m ∧
        after.Sized env.limits.maxStack (q.final env.bundle))
      (fun e m => Spent (Faithful env.bundle env.limits first store) L k m ∧
        Arises env store.RefusesRead room q e) :=
  watchFrame_of_ops (fun hlen _ hm => ⟨hm, .missing hlen⟩)
    (watchOps_triple hframes hdepth hn hr 0 _ List.drop_zero hs)

end Frame

theorem frameCost_pos (words : Nat) : 1 ≤ Gas.frameCost words := by
  simp only [Gas.frameCost, Gas.costCap, Nat.min_def]
  split <;> omega

/-- **A run, watched.** By induction on the room that is left for frames. -/
theorem watchSource_triple (room : Nat) (hroom : below.length + room ≤ env.limits.maxCallDepth)
    (hr : L < rounds) (hframes : Stacked env.bundle first (q :: below))
    (hs : stack.Sized env.limits.maxStack q.height) :
    Triple (Spent (Faithful env.bundle env.limits first store) L k)
      (watchSource env rounds room below q.source stack)
      (fun after m => Spent (Faithful env.bundle env.limits first store) L k m ∧
        after.Sized env.limits.maxStack (q.final env.bundle))
      (fun e m => Spent (Faithful env.bundle env.limits first store) L k m ∧
        Arises env store.RefusesRead room q e) := by
  induction room generalizing k below q stack with
  | zero =>
    unfold watchSource
    rw [hs.height]
    refine watchFrame_triple hframes (by omega) (fun ip op f hop ho _ inputs _ k => ?_) (by omega)
      hs
    exact Triple.fail fun m hm => ⟨hm, .full hop ho⟩
  | succ room ih =>
    unfold watchSource
    rw [hs.height]
    refine watchFrame_triple hframes (by omega) (fun ip op f hop ho hfit inputs hlen k => ?_)
      (by omega) hs
    have hcall : Calls env.bundle q (targetOf op.operand) := ⟨ip, op, f, hop, ho, rfl⟩
    -- The frame is paid for before anything of it runs, which is what bounds the loops.
    refine Triple.bind ((Run.triple_charge ambient_faithful
      fun m hm => ⟨hm, .own hop .outOfGas⟩).conseq (fun _ h => h)
      (fun _ _ h => h.weaken (Nat.add_le_add_left (frameCost_pos inputs.length) k))
      fun _ _ h => h) fun _ => ?_
    obtain ⟨frame, hseed, hframe⟩ := Stack.seeded_eq_ok (c := env.limits.maxStack)
      (by rw [hlen]; exact hfit)
    rw [hseed, lift_ok_bind]
    rw [hlen] at hframe
    have hdeeper : (q :: below).length + room ≤ env.limits.maxCallDepth := by
      rw [List.length_cons]
      omega
    exact (ih (k := k + 1) (q := targetOf op.operand) hdeeper (hframes.push hcall) hframe).conseq
      (fun _ h => h) (fun _ _ h => h) fun e m h => ⟨h.1.weaken (Nat.le_succ k), .nested hcall h.2⟩

/-! ## Whole evaluations -/

variable (limits : Limits) (request : Request) (store : Store) (gasLimit : Nat) (traced : Bool)

theorem watchedEnd_spec :
    Ends (watchedEnd limits request store gasLimit traced)
      (fun after m => Spent (Faithful request.bundle limits.clamped ⟨request.source, 0⟩ store)
          gasLimit 0 m ∧
        after.Sized limits.maxStack (Start.final request.bundle ⟨request.source, 0⟩))
      (fun e m => Spent (Faithful request.bundle limits.clamped ⟨request.source, 0⟩ store)
          gasLimit 0 m ∧
        Arises (envOf limits request traced) store.RefusesRead limits.clamped.maxCallDepth
          ⟨request.source, 0⟩ e) := by
  have hstart : Spent (Faithful request.bundle limits.clamped ⟨request.source, 0⟩ store) gasLimit 0
      (watchedStart request store gasLimit) :=
    ⟨rfl, Nat.le_refl 0, Nat.zero_le gasLimit, rfl, fun _ hv => absurd hv List.not_mem_nil⟩
  have hframes : Stacked (envOf limits request traced).bundle ⟨request.source, 0⟩
      [⟨request.source, 0⟩] := Stacked.single _ _
  have hempty : (Stack.empty limits.clamped.maxStack).Sized
      (envOf limits request traced).limits.maxStack 0 := Stack.sized_empty _
  exact watchSource_triple limits.clamped.maxCallDepth (Nat.le_of_eq (Nat.zero_add _))
    (Nat.lt_succ_self gasLimit) hframes hempty _ hstart

/-- **Where an evaluation is.** Between any two ops of an evaluation the open frames are a chain of
control-flow ops from the source that was asked for, within the limits. -/
theorem watch_placed {v : Scene} (hv : v ∈ (watch limits request store gasLimit traced).2) :
    v.Placed request.bundle limits.clamped ⟨request.source, 0⟩ := by
  have hend := watchedEnd_spec limits request store gasLimit traced
  obtain ⟨m, hm, -, hscenes⟩ := watch_ends limits request store gasLimit traced
    (I := Faithful request.bundle limits.clamped ⟨request.source, 0⟩ store)
    (hend.imp (fun _ _ h => h.1.rest) fun _ _ h => h.1.rest)
  exact hm.placed v (hscenes ▸ hv)

/-- **Heights are static.** A frame that is seen during an evaluation was started with words that a
chain of control-flow ops hands on, and stands at the height that its place has. -/
theorem sightings_static {v : Sighting}
    (hv : v ∈ sightings limits request store gasLimit traced) :
    Reaches request.bundle ⟨request.source, 0⟩ v.start ∧
      v.height = v.start.heightAt request.bundle v.ip := by
  obtain ⟨scene, hscene, rfl⟩ := List.mem_map.mp hv
  have hplaced := watch_placed limits request store gasLimit traced hscene
  exact ⟨hplaced.frames.reaches, hplaced.height⟩

/-- **What comes of an evaluation.** The final height of the source in words, or a fault that arises
along a chain of control-flow ops. -/
theorem evaluate_outcome :
    Outcome (evaluate limits request store gasLimit traced).outcome
      (fun output => ∃ words, words.length = Start.final request.bundle ⟨request.source, 0⟩ ∧
        output.stack = keepTop request.maxOutputs words)
      (Arises (envOf limits request traced) store.RefusesRead limits.clamped.maxCallDepth
        ⟨request.source, 0⟩) := by
  have hend := watchedEnd_spec limits request store gasLimit traced
  rw [← watch_evaluation]
  unfold watch
  cases hw : watchedEnd limits request store gasLimit traced with
  | ok after m =>
    rw [hw] at hend
    exact ⟨after.words, hend.2.height, rfl⟩
  | error e m =>
    rw [hw] at hend
    exact hend.2

end Machine

/-- Where a fault can arise: at a source that does not exist, at an op of what the start reaches,
or where the frames get too many. -/
theorem Arises.cases_reach {env : Env} {F : StoreFault → Prop} {room : Nat} {p : Start} {e : Fault}
    (h : Arises env F room p e) :
    (∃ q, Reaches env.bundle p q ∧ env.bundle.sources.length ≤ q.source) ∨
    (∃ q ip op, Reaches env.bundle p q ∧ (q.ops env.bundle)[ip]? = some op ∧
      OpFault env F ((targetOf op.operand).final env.bundle) (q.heightAt env.bundle ip) op e) ∨
    e = .callDepth env.limits.maxCallDepth := by
  induction h with
  | missing hlen => exact .inl ⟨_, Reaches.refl _, hlen⟩
  | own hop he => exact .inr (.inl ⟨_, _, _, Reaches.refl _, hop, he⟩)
  | full _ _ => exact .inr (.inr rfl)
  | nested hc _ ih =>
    rcases ih with ⟨q, hq, hlen⟩ | ⟨q, ip, op, hq, hop, he⟩ | rfl
    · exact .inl ⟨q, hq.head hc, hlen⟩
    · exact .inr (.inl ⟨q, ip, op, hq.head hc, hop, he⟩)
    · exact .inr (.inr rfl)

end ExprMachine
