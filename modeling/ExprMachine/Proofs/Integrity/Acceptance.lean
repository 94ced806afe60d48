import ExprMachine.Proofs.Integrity.Nesting

/-!
# What integrity analysis accepts

A description of the bundles that are accepted which mentions no walk and no order of walks
(`WellFormed`), and that it is the right one (`check_accepts_iff_wellFormed`).

Heights are sums here: what a start begins with and what the ops before a place gain, each its
outputs less its inputs (`Start.balance`). A sum may be negative and then means nothing. The height
that the analysis follows never is, since it stops at an op whose inputs are not there; up to such
an op the two are the same (`Start.heightAt_eq_balance`).
-/

namespace ExprMachine

/-- What an op adds to the height of a stack: its outputs less its inputs. -/
def Op.gain (op : Op) : Int :=
  match Opcode.ofId? op.opcode with
  | some opcode => (opcode.outputs op.operand : Int) - opcode.inputs op.operand
  | none => 0

/-- Where the inputs of an op are there, its gain is added to the height. -/
theorem Op.after_eq_add_gain {op : Op} {h : Nat}
    (hin : ∀ opcode, Opcode.ofId? op.opcode = some opcode → opcode.inputs op.operand ≤ h) :
    (op.after h : Int) = h + op.gain := by
  unfold Op.after Op.gain
  cases ho : Opcode.ofId? op.opcode with
  | none => simp
  | some opcode =>
    have := hin opcode ho
    simp only
    omega

/-- An operand is admitted exactly if it gives a variadic opcode its least number of inputs. -/
theorem Opcode.admits_iff {opcode : Opcode} {operand : Operand} :
    opcode.admits operand = true ↔
      ∀ min, opcode.variadicMin? = some min → min ≤ opcode.inputs operand := by
  unfold Opcode.admits
  cases opcode.variadicMin? with
  | none => simp
  | some min => simp

/-- The operands 0 to 3 choose a mode, and no others. -/
theorem DebugMode.ofCode?_ne_none_iff {code : UInt16} :
    DebugMode.ofCode? code ≠ none ↔ code.toNat ≤ 3 := by
  unfold DebugMode.ofCode?
  match code.toNat with
  | 0 | 1 | 2 | 3 => simp
  | n + 4 => simp

namespace Integrity

variable (b : Bundle) (limits : Limits)

namespace Start

/-- The initial height, and what the ops before the given one gain. -/
def balance (p : Start) (ip : Nat) : Int :=
  ((p.ops b).take ip).foldl (fun balance op => balance + op.gain) p.height

/-- The initial height, and what all ops gain. -/
def finalBalance (p : Start) : Int := p.balance b (p.ops b).length

end Start

/-- What is asked of an op that is met at the given balance. -/
structure OpWellFormed (balance : Int) (op : Op) (opcode : Opcode) : Prop where
  variadic : ∀ min, opcode.variadicMin? = some min → min ≤ opcode.inputs op.operand
  inputs : opcode.inputs op.operand ≤ balance
  constants : opcode = .readMemory → op.operand.region = .constants →
    op.operand.index < b.constants.length
  stack : opcode = .readMemory → op.operand.region = .stack → op.operand.index < balance
  mode : opcode = .debug → op.operand.raw.toNat ≤ 3
  target : ∀ f, opcode = .flow f → op.operand.lowByte < b.sources.length
  limit : balance + op.gain ≤ limits.maxStack

/-- What is asked of a bundle whose first sources, one for each number, are entrypoints that leave
at least so many words. -/
structure WellFormed (mins : List Nat) : Prop where
  declared : 1 ≤ mins.length
  sources : mins.length ≤ b.sources.length
  /-- Every op of what an entrypoint reaches is known and has what it asks for. -/
  ops : ∀ i < mins.length, ∀ p, Reaches b ⟨i, 0⟩ p →
    ∀ (ip : Nat) (op : Op), (p.ops b)[ip]? = some op →
    ∃ opcode, Opcode.ofId? op.opcode = some opcode ∧
      OpWellFormed b limits (p.balance b ip) op opcode
  /-- Every control-flow op of what an entrypoint reaches is left as many words as it needs. -/
  edges : ∀ i < mins.length, ∀ p, Reaches b ⟨i, 0⟩ p → ∀ (ip : Nat) (op : Op) (f : Flow),
    (p.ops b)[ip]? = some op → Opcode.ofId? op.opcode = some (.flow f) →
    f.needed op.operand ≤ (targetOf op.operand).finalBalance b
  outputs : ∀ (i min : Nat), mins[i]? = some min → min ≤ Start.finalBalance b ⟨i, 0⟩

variable {b limits}

/-! ## Heights and balances -/

namespace Start

variable {p : Start}

theorem balance_succ {ip : Nat} {op : Op} (h : (p.ops b)[ip]? = some op) :
    p.balance b (ip + 1) = p.balance b ip + op.gain := by
  obtain ⟨hlt, rfl⟩ := List.getElem?_eq_some_iff.mp h
  simp only [balance, List.take_succ_eq_append_getElem hlt, List.foldl_append, List.foldl_cons,
    List.foldl_nil]

/-- The inputs of every op of a start are there, as far as heights and balances are the same. -/
def Supplied (b : Bundle) (p : Start) : Prop :=
  ∀ ip op opcode, (p.ops b)[ip]? = some op → Opcode.ofId? op.opcode = some opcode →
    (p.heightAt b ip : Int) = p.balance b ip → opcode.inputs op.operand ≤ p.heightAt b ip

/-- A start that is supplied has everywhere the height that its balance gives. -/
theorem heightAt_eq_balance (h : Supplied b p) (ip : Nat) :
    (p.heightAt b ip : Int) = p.balance b ip := by
  induction ip with
  | zero => simp [heightAt, balance]
  | succ ip ih =>
    cases hop : (p.ops b)[ip]? with
    | some op =>
      rw [heightAt_succ hop, balance_succ hop, ← ih]
      exact Op.after_eq_add_gain fun opcode ho => h ip op opcode hop ho ih
    | none =>
      have hend := List.getElem?_eq_none_iff.mp hop
      simp only [heightAt, balance, List.take_of_length_le hend,
        List.take_of_length_le (Nat.le_succ_of_le hend)] at ih ⊢
      exact ih

theorem supplied_of_fits (h : Fits b limits p) : Supplied b p := by
  intro ip op opcode hop ho _
  obtain ⟨opcode', ho', hfits⟩ := h ip op hop
  rw [ho] at ho'
  cases ho'
  exact hfits.inputs

end Start

/-! ## Ops -/

variable {op : Op} {opcode : Opcode} {height : Nat}

theorem opWellFormed_iff_fits (ho : Opcode.ofId? op.opcode = some opcode) :
    OpWellFormed b limits height op opcode ↔ OpFits b limits height op opcode := by
  have hafter (hin : opcode.inputs op.operand ≤ height) : (op.after height : Int) =
      height + op.gain := by
    refine Op.after_eq_add_gain fun opcode' ho' => ?_
    rw [ho] at ho'
    cases ho'
    exact hin
  constructor
  · intro h
    have hin : opcode.inputs op.operand ≤ height := Int.ofNat_le.mp h.inputs
    refine ⟨Opcode.admits_iff.mpr h.variadic, hin, h.constants, fun hr hreg => ?_, fun hd => ?_,
      h.target, ?_⟩
    · exact Int.ofNat_lt.mp (h.stack hr hreg)
    · exact DebugMode.ofCode?_ne_none_iff.mpr (h.mode hd)
    · have hlimit := h.limit
      rw [← hafter hin] at hlimit
      exact Int.ofNat_le.mp hlimit
  · intro h
    refine ⟨Opcode.admits_iff.mp h.admits, Int.ofNat_le.mpr h.inputs, h.constants,
      fun hr hreg => ?_, fun hd => ?_, h.target, ?_⟩
    · exact Int.ofNat_lt.mpr (h.stack hr hreg)
    · exact DebugMode.ofCode?_ne_none_iff.mp (h.mode hd)
    · rw [← hafter h.inputs]
      exact Int.ofNat_le.mpr h.limit

/-! ## Bundles -/

variable {mins : List Nat}

namespace WellFormed

variable (h : WellFormed b limits mins) {i : Nat} (hi : i < mins.length) {p : Start}
  (hp : Reaches b ⟨i, 0⟩ p)

include h hi hp

theorem supplied : Start.Supplied b p := by
  intro ip op opcode hop ho heq
  obtain ⟨opcode', ho', hop'⟩ := h.ops i hi p hp ip op hop
  rw [ho] at ho'
  cases ho'
  have hin := hop'.inputs
  rw [← heq] at hin
  exact Int.ofNat_le.mp hin

theorem fits : Fits b limits p := by
  intro ip op hop
  obtain ⟨opcode, ho, hop'⟩ := h.ops i hi p hp ip op hop
  rw [← Start.heightAt_eq_balance (h.supplied hi hp) ip] at hop'
  exact ⟨opcode, ho, (opWellFormed_iff_fits ho).mp hop'⟩

/-- Only sources that exist are reached: an entrypoint does, and so does what an op names. -/
theorem source_lt : p.source < b.sources.length := by
  cases hp with
  | refl => exact Nat.lt_of_lt_of_le hi h.sources
  | tail hq hc =>
    obtain ⟨ip, op, f, hop, ho, rfl⟩ := hc
    obtain ⟨opcode, ho', hop'⟩ := h.ops i hi _ hq ip op hop
    rw [ho] at ho'
    cases ho'
    exact hop'.target f rfl

theorem answered : Answered b p := by
  intro ip op f hop ho
  have hneed := h.edges i hi p hp ip op f hop ho
  have hq := hp.tail ⟨ip, op, f, hop, ho, rfl⟩
  rw [Start.finalBalance, ← Start.heightAt_eq_balance (h.supplied hi hq)] at hneed
  exact Int.ofNat_le.mp hneed

end WellFormed

/-- Final heights of acceptable bundles are final balances. -/
theorem Acceptable.final_eq (h : Acceptable b limits mins) {i : Nat} (hi : i < mins.length)
    {p : Start} (hp : Reaches b ⟨i, 0⟩ p) : (p.final b : Int) = p.finalBalance b :=
  Start.heightAt_eq_balance (Start.supplied_of_fits (h.certified i hi p hp).2.1) _

theorem wellFormed_iff_acceptable : WellFormed b limits mins ↔ Acceptable b limits mins := by
  constructor
  · intro h
    refine ⟨List.length_pos_iff.mp h.declared, h.sources, fun i hi p hp => ?_, fun i min hm => ?_⟩
    · exact ⟨h.source_lt hi hp, h.fits hi hp, h.answered hi hp⟩
    · have hi := (List.getElem?_eq_some_iff.mp hm).1
      have hout := h.outputs i min hm
      rw [Start.finalBalance,
        ← Start.heightAt_eq_balance (h.supplied hi (Reaches.refl _))] at hout
      exact Int.ofNat_le.mp hout
  · intro h
    refine ⟨List.length_pos_iff.mpr h.declared, h.sources, fun i hi p hp ip op hop => ?_,
      fun i hi p hp ip op f hop ho => ?_, fun i min hm => ?_⟩
    · have hfits := (h.certified i hi p hp).2.1
      obtain ⟨opcode, ho, hop'⟩ := hfits ip op hop
      rw [← Start.heightAt_eq_balance (Start.supplied_of_fits hfits) ip]
      exact ⟨opcode, ho, (opWellFormed_iff_fits ho).mpr hop'⟩
    · rw [← h.final_eq hi (hp.tail ⟨ip, op, f, hop, ho, rfl⟩)]
      exact Int.ofNat_le.mpr ((h.certified i hi p hp).2.2 ip op f hop ho)
    · rw [← h.final_eq (List.getElem?_eq_some_iff.mp hm).1 (Reaches.refl _)]
      exact Int.ofNat_le.mpr (h.outputs i min hm)

/-- **Acceptance.** A check accepts exactly the well-formed bundles, and there is one report for
each entrypoint, which names the source and its final balance. -/
theorem check_accepts_iff_wellFormed (b : Bundle) (limits : Limits) (mins : List Nat) :
    ((∃ reports, check b limits mins = .ok reports) ↔ WellFormed b limits mins) ∧
    ∀ reports, check b limits mins = .ok reports → reports.length = mins.length ∧
      ∀ i r, reports[i]? = some r → r.source = i ∧
        (r.outputs : Int) = Start.finalBalance b ⟨i, 0⟩ := by
  refine ⟨check_eq_ok_iff.trans wellFormed_iff_acceptable.symm, fun reports hcheck => ?_⟩
  obtain ⟨hacc, hrep⟩ := check_eq_ok hcheck
  refine ⟨hrep.length, fun i r hr => ?_⟩
  obtain ⟨hsource, hout⟩ := hrep.outputs i r hr
  have hi : i < mins.length := by
    rw [← hrep.length]
    exact (List.getElem?_eq_some_iff.mp hr).1
  rw [hout]
  exact ⟨hsource, hacc.final_eq hi (Reaches.refl _)⟩

/-- The first source runs the second, and the second runs itself. -/
def cycleBundle : Bundle :=
  ⟨[⟨[.ofRaw 2 0x1001]⟩, ⟨[.ofRaw 2 0x1001, .ofRaw 0 1, .ofRaw 10 2]⟩], [1#256]⟩

/-- A source that runs itself is well-formed if it leaves what it needs. -/
theorem cycleBundle_wellFormed :
    check cycleBundle .standard [1] = .ok [⟨0, 1, 2⟩] ∧ WellFormed cycleBundle .standard [1] ∧
      Start.finalBalance cycleBundle ⟨0, 0⟩ = 1 := by
  have hcheck : check cycleBundle .standard [1] = .ok [⟨0, 1, 2⟩] := rfl
  obtain ⟨hiff, hreports⟩ := check_accepts_iff_wellFormed cycleBundle .standard [1]
  exact ⟨hcheck, hiff.mp ⟨_, hcheck⟩, ((hreports _ hcheck).2 0 _ rfl).2.symm⟩

end Integrity

end ExprMachine
