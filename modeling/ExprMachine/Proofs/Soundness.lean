import ExprMachine.Proofs.Evaluation
import ExprMachine.Proofs.Integrity.Check

/-!
# Integrity analysis is sound

A source that is certified never fails for a reason that the analysis looks at
(`evaluate_certified`): what remains is gas, depth, the context, the store, an `ensure` that does
not hold, and arithmetic.

* `Fault.Structural`: the faults that the analysis is there to rule out.
* `Fault.Operational`: those that are left. A store fault is one of the store itself: a read of a
  key that it refuses.

`Arises` says where a fault comes from, and each constructor of `OpFault` under what condition.
Certification contradicts the condition of every structural one.
-/

namespace ExprMachine

open Integrity

/-- What the form of a bundle decides. -/
def Fault.Structural : Fault → Prop
  | .unknownOpcode _ | .invalidOperand _ _ | .stackUnderflow _ _ _ | .stackOverflow _
  | .arityMismatch _ _ _ | .sourceOutOfRange _ | .constantOutOfRange _
  | .stackReadOutOfRange _ _ => True
  | _ => False

/-- What gas, depth, context, store and words decide. -/
def Fault.Operational (store : Store) : Fault → Prop
  | .outOfGas | .contextOutOfBounds _ _ | .callDepth _ | .ensureFailed _ | .overflow _
  | .underflow _ | .divisionByZero _ => True
  | .store cause => store.RefusesRead cause
  | _ => False

theorem Fault.Operational.not_structural {store : Store} {e : Fault} (h : e.Operational store) :
    ¬ e.Structural := by
  intro hs
  cases e <;> first | exact h | exact hs

theorem Fault.Arithmetic.operational {e : Fault} (h : e.Arithmetic) (store : Store) :
    e.Operational store := by
  cases e <;> first | exact h | trivial

variable {env : Env} {limits : Limits} {store : Store}

/-- An op that fits and is answered fails for no structural reason. -/
theorem OpFault.operational {left h : Nat} {op : Op} {opcode : Opcode} {e : Fault}
    (he : OpFault env store.RefusesRead left h op e)
    (hmax : env.limits.maxStack = limits.maxStack) (ho : Opcode.ofId? op.opcode = some opcode)
    (hfits : OpFits env.bundle limits h op opcode)
    (hans : ∀ f, Opcode.ofId? op.opcode = some (.flow f) → f.needed op.operand ≤ left) :
    e.Operational store := by
  -- The opcode that the fault speaks of is the one that fits.
  have same {o : Opcode} (ho' : Opcode.ofId? op.opcode = some o) : o = opcode :=
    Option.some.inj (ho'.symm.trans ho)
  cases he with
  | unknownOpcode hnone =>
    rw [ho] at hnone
    cases hnone
  | invalidOperand ho' hadm =>
    rw [same ho', hfits.admits] at hadm
    cases hadm
  | stackUnderflow ho' hlt =>
    rw [same ho'] at hlt
    exact absurd hfits.inputs (Nat.not_le.mpr hlt)
  | stackOverflow _ hlt =>
    rw [hmax] at hlt
    exact absurd hfits.limit (Nat.not_le.mpr hlt)
  | constantOutOfRange ho' hreg hle =>
    exact absurd (hfits.constants (same ho').symm hreg) (Nat.not_lt.mpr hle)
  | stackReadOutOfRange ho' hreg hle =>
    exact absurd (hfits.stack (same ho').symm hreg) (Nat.not_lt.mpr hle)
  | invalidMode ho' hmode => exact absurd hmode (hfits.mode (same ho').symm)
  | shortCallee ho' hlt => exact absurd (hans _ ho') (Nat.not_le.mpr hlt)
  | store _ hcause => exact hcause
  | arithmetic _ harith => exact harith.operational store
  | outOfGas | contextOutOfBounds | ensureFailed => trivial

theorem Arises.operational {room : Nat} {p : Start} {e : Fault}
    (h : Arises env store.RefusesRead room p e) (hmax : env.limits.maxStack = limits.maxStack)
    (hc : Certified env.bundle limits p) : e.Operational store := by
  rcases h.cases_reach with ⟨q, hq, hlen⟩ | ⟨q, ip, op, hq, hop, he⟩ | rfl
  · exact absurd (hc q hq).1 (Nat.not_lt.mpr hlen)
  · obtain ⟨-, hfits, hans⟩ := hc q hq
    obtain ⟨opcode, ho, hop'⟩ := hfits ip op hop
    exact he.operational hmax ho hop' fun f hf => hans ip op f hop hf
  · trivial

namespace Machine

theorem maxStack_envOf (limits : Limits) (request : Request) (traced : Bool) :
    (envOf limits request traced).limits.maxStack = limits.maxStack := rfl

/-- **What a certified source comes to.** As many words as its static final height, or an
operational fault. -/
theorem evaluate_certified (request : Request)
    (hc : Certified request.bundle limits ⟨request.source, 0⟩) (store : Store) (gasLimit : Nat)
    (traced : Bool) :
    Outcome (evaluate limits request store gasLimit traced).outcome
      (fun output => ∃ words, words.length = Start.final request.bundle ⟨request.source, 0⟩ ∧
        output.stack = keepTop request.maxOutputs words)
      (Fault.Operational store) :=
  (evaluate_outcome limits request store gasLimit traced).mono (fun _ h => h)
    fun _ he => he.operational (maxStack_envOf limits request traced) hc

/-- **Soundness.** An entrypoint of a bundle that was checked fails for no structural reason,
whatever it is evaluated with. -/
theorem checked_fault_operational {limits : Limits} {request : Request} {mins : List Nat}
    {reports : List EntrypointReport} (hcheck : check request.bundle limits mins = .ok reports)
    (hsource : request.source < mins.length) (store : Store) (gasLimit : Nat) (traced : Bool)
    {fault : Fault}
    (hfault : (evaluate limits request store gasLimit traced).outcome = .error fault) :
    ¬ fault.Structural ∧ fault.Operational store := by
  have hc := (check_eq_ok hcheck).1.certified request.source hsource
  have hout := evaluate_certified request hc store gasLimit traced
  rw [hfault] at hout
  exact ⟨hout.not_structural, hout⟩

/-- A source that calls itself is accepted, and is cut off where its frames get too many. -/
theorem self_call_fault_operational :
    (evaluate ⟨4, 1⟩ ⟨⟨[⟨[.ofRaw 2 0]⟩], []⟩, 0, .empty, 0#256, none⟩ (.empty .none) 1000
      false).outcome = .error (.callDepth 1) ∧
    ¬ (Fault.callDepth 1).Structural ∧ (Fault.callDepth 1).Operational (.empty .none) := by
  have hcheck : check ⟨[⟨[.ofRaw 2 0]⟩], []⟩ ⟨4, 1⟩ [0] = .ok [⟨0, 0, 0⟩] := rfl
  have hfault : (evaluate ⟨4, 1⟩ ⟨⟨[⟨[.ofRaw 2 0]⟩], []⟩, 0, .empty, 0#256, none⟩ (.empty .none)
      1000 false).outcome = .error (.callDepth 1) := rfl
  exact ⟨hfault, checked_fault_operational hcheck (by decide) _ _ _ hfault⟩

end Machine

end ExprMachine
