import ExprMachine.Proofs.Integrity.Ledger

/-!
# What the walk of an op asks for

The analysis of a bundle is recursive in one place only: the walk of an op may consult the start
that the op runs. Nothing else is consulted, and what is done before and after changes no more of
the ledger than the ops that were put off.

* `Still`: a step leaves the walks as they are, and is not cut off.
* `Asks b target x`: of all starts, the step `x` consults at most `target`, and only if that exists.
* `walkOp_asks`: an op asks for its target. What holds of every walk follows from this without
  another look at the opcodes.
-/

namespace ExprMachine

namespace Integrity

section Asks

variable {α β : Type}

/-- The step leaves the walks as they are, and is not cut off. -/
def Still (x : Analysis α) : Prop :=
  ∀ l, Outcome (x l) (fun r => r.2.finished = l.finished ∧ r.2.active = l.active)
    (fun d => d ≠ .unfinished)

theorem Still.ret (a : α) : Still (pure a) := fun _ => ⟨rfl, rfl⟩

theorem Still.fail {d : Defect} (hd : d ≠ .unfinished) : Still (throw d : Analysis α) := fun _ => hd

theorem Still.bind {x : Analysis α} {f : α → Analysis β} (hx : Still x) (hf : ∀ a, Still (f a)) :
    Still (x >>= f) := fun l =>
  outcome_bind (hx l) fun a l' hl' => (hf a l').mono
    (fun _ h => ⟨h.1.trans hl'.1, h.2.trans hl'.2⟩) fun _ h => h

/-- Of all starts a step consults at most `target`, and only if that exists. -/
def Asks (b : Bundle) (target : Start)
    (x : (Start → Analysis (Option Summary)) → Analysis α) : Prop :=
  (∃ y, Still y ∧ ∀ c, x c = y) ∨
    target.source < b.sources.length ∧
      ∃ resume, (∀ found, Still (resume found)) ∧ ∀ c, x c = c target >>= resume

variable {b : Bundle} {target : Start}

theorem Asks.still {y : Analysis α} (hy : Still y) : Asks b target fun _ => y :=
  .inl ⟨y, hy, fun _ => rfl⟩

theorem Asks.bind {x : (Start → Analysis (Option Summary)) → Analysis α} {f : α → Analysis β}
    (hx : Asks b target x) (hf : ∀ a, Still (f a)) : Asks b target fun c => x c >>= f := by
  rcases hx with ⟨y, hy, hxy⟩ | ⟨htarget, resume, hresume, hx⟩
  · exact .inl ⟨y >>= f, hy.bind hf, fun c => congrArg (· >>= f) (hxy c)⟩
  · refine .inr ⟨htarget, fun found => resume found >>= f, fun found => (hresume found).bind hf,
      fun c => ?_⟩
    simp only [hx, bind_assoc]

end Asks

variable {b : Bundle}

theorem followFlow_asks (source ip : Nat) (f : Flow) (operand : Operand) :
    Asks b (targetOf operand) fun c => followFlow b c source ip f operand := by
  unfold followFlow
  by_cases hlen : b.sources.length ≤ (targetOf operand).source
  · simp only [hlen, ↓reduceIte]
    exact .still (.fail nofun)
  · simp only [hlen, ↓reduceIte]
    refine .inr ⟨Nat.lt_of_not_le hlen, _, fun found => ?_, fun c => rfl⟩
    cases found with
    | none => exact fun l => ⟨rfl, rfl⟩
    | some s =>
      simp only
      split
      · exact .fail nofun
      · exact .ret s.peak

theorem examine_asks (source ip : Nat) (opcode : Opcode) (operand : Operand) (height : Nat) :
    Asks b (targetOf operand) fun c => examine b c source ip opcode operand height := by
  cases opcode with
  | readMemory =>
    unfold examine
    cases operand.region with
    | constants =>
      by_cases hlt : operand.index < b.constants.length
      · simp only [hlt, ↓reduceIte]
        exact .still (.ret 0)
      · simp only [hlt, ↓reduceIte]
        exact .still (.fail nofun)
    | stack =>
      by_cases hlt : operand.index < height
      · simp only [hlt, ↓reduceIte]
        exact .still (.ret 0)
      · simp only [hlt, ↓reduceIte]
        exact .still (.fail nofun)
  | debug =>
    unfold examine
    cases DebugMode.ofCode? operand.raw with
    | some mode => exact .still (.ret 0)
    | none => exact .still (.fail nofun)
  | flow f => exact followFlow_asks source ip f operand
  | context | ensure | set | get | «calc» c => exact .still (.ret 0)

theorem walkOp_asks (limits : Limits) (source ip : Nat) (op : Op) (height peak : Nat) :
    Asks b (targetOf op.operand) fun c => walkOp b limits c source ip op height peak := by
  unfold walkOp
  cases Opcode.ofId? op.opcode with
  | none => exact .still (.fail nofun)
  | some opcode =>
    by_cases hadmits : (!opcode.admits op.operand) = true
    · simp only [hadmits, ↓reduceIte]
      exact .still (.fail nofun)
    by_cases hinputs : height < opcode.inputs op.operand
    · simp only [hadmits, hinputs, ↓reduceIte]
      exact .still (.fail nofun)
    · simp only [hadmits, hinputs, ↓reduceIte]
      refine (examine_asks source ip opcode op.operand height).bind fun nested => ?_
      split
      · exact .fail nofun
      · exact .ret _

end Integrity

end ExprMachine
