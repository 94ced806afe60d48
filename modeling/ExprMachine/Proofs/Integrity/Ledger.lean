import ExprMachine.Proofs.Heights
import ExprMachine.Proofs.Outcome

/-!
# The ledger of an analysis

What integrity analysis keeps while it walks, and what one step of it does.

* `Ledger.Sound`: a start is walked or being walked, not both; every walk that has ended found the
  static heights of its start (`Ledger.Entry`); every op that was put off has a target that is being
  walked or has been.
* `Ledger.Keeps`: what a later ledger still holds.
* `Walking`: how far the walk of one start has come. `walkOp_outcome` takes it one op further and
  `walkOps_outcome` to the end.
* `Visited`: what consulting a start does. `analyze_analyzes` is the induction on how deep walks may
  nest.

The analysis is described whether it succeeds or not: if it stops with a defect, something that the
start reaches is not as it should be, unless the nesting was cut off.
-/

namespace ExprMachine

namespace Integrity

theorem outcome_bind {α β : Type} {x : Analysis α} {f : α → Analysis β} {l : Ledger}
    {R : α × Ledger → Prop} {Q : β × Ledger → Prop} {E : Defect → Prop} (hx : Outcome (x l) R E)
    (hf : ∀ a l', R (a, l') → Outcome (f a l') Q E) : Outcome ((x >>= f) l) Q E := by
  show Outcome (x l >>= fun r => f r.1 r.2) Q E
  exact hx.bind fun r hr => hf r.1 r.2 hr

/-- What an earlier walk of a start found. -/
def Ledger.found (l : Ledger) (p : Start) : Option Summary := l.finished.lookup p

/-- A control-flow op that needs so many words of its target was checked, or will be. -/
def Ledger.Answers (l : Ledger) (target : Start) (needed : Nat) : Prop :=
  (∃ s, l.found target = some s ∧ needed ≤ s.final) ∨
    ∃ d ∈ l.deferred, d.target = target ∧ d.needed = needed

variable (b : Bundle) (limits : Limits)

/-- What was found of a target went into the greatest height that `p` is said to have, unless the
target leads back to `p`. -/
def Ledger.Covers (l : Ledger) (p : Start) (peak : Nat) (target : Start) : Prop :=
  (∃ s, l.found target = some s ∧ s.peak ≤ peak) ∨ Reaches b target p

/-- The op of `p` at place `ip` was walked: it fits, what it needs of its target was checked or will
be, and the target's heights went into `peak`. -/
def Ledger.Walked (l : Ledger) (p : Start) (peak ip : Nat) (op : Op) : Prop :=
  ∃ opcode, Opcode.ofId? op.opcode = some opcode ∧ OpFits b limits (p.heightAt b ip) op opcode ∧
    ∀ f, opcode = .flow f → l.Answers (targetOf op.operand) (f.needed op.operand) ∧
      l.Covers b p peak (targetOf op.operand)

/-- What a walk that has ended found is so. -/
structure Ledger.Entry (l : Ledger) (p : Start) (s : Summary) : Prop where
  source : p.source < b.sources.length
  final : s.final = p.final b
  own : ∀ ip, p.heightAt b ip ≤ s.peak
  attained : Attains b p s.peak
  walked : ∀ ip op, (p.ops b)[ip]? = some op → l.Walked b limits p s.peak ip op

/-- The invariant of the analysis (module doc). -/
structure Ledger.Sound (l : Ledger) : Prop where
  apart : ∀ p ∈ l.active, l.found p = none
  entry : ∀ p s, l.found p = some s → l.Entry b limits p s
  deferred : ∀ d ∈ l.deferred, d.target ∈ l.active ∨ ∃ s, l.found d.target = some s

/-- Nothing that `l` holds is lost in `l'`, and the same walks are under way. -/
structure Ledger.Keeps (l l' : Ledger) : Prop where
  active : l'.active = l.active
  found : ∀ p s, l.found p = some s → l'.found p = some s
  deferred : ∀ d ∈ l.deferred, d ∈ l'.deferred

/-- An op of `p` that is put off is entered like this. -/
def Defers (p : Start) (d : Deferred) : Prop :=
  ∃ ip op f, (p.ops b)[ip]? = some op ∧ Opcode.ofId? op.opcode = some (.flow f) ∧
    d = ⟨p.source, ip, targetOf op.operand, f.needed op.operand⟩

/-- The walk of `p` that began with the ledger `l₀` has come to the op with index `ip`. -/
structure Walking (p : Start) (l₀ : Ledger) (ip peak : Nat) (l : Ledger) : Prop where
  sound : l.Sound b limits
  keeps : l₀.Keeps l
  ancestors : ∀ a ∈ l₀.active, Reaches b a p
  own : ∀ j ≤ ip, p.heightAt b j ≤ peak
  attained : Attains b p peak
  walked : ∀ j < ip, ∀ op, (p.ops b)[j]? = some op → l.Walked b limits p peak j op
  fresh : ∀ q s, l₀.found q = none → l.found q = some s →
    Reaches b p q ∧ ∀ j, q.heightAt b j ≤ peak
  deferrals : ∀ d ∈ l.deferred, d ∈ l₀.deferred ∨ ∃ q, Reaches b p q ∧ Defers b q d

/-- Consulting `p` gave `found` and took the ledger from `l` to `l'`. -/
structure Visited (p : Start) (l : Ledger) (found : Option Summary) (l' : Ledger) : Prop where
  sound : l'.Sound b limits
  keeps : l.Keeps l'
  known : ∀ s, found = some s → l'.found p = some s
  active : found = none → p ∈ l.active ∧ l' = l
  fresh : ∀ q s, l.found q = none → l'.found q = some s →
    Reaches b p q ∧ ∃ t, found = some t ∧ ∀ ip, q.heightAt b ip ≤ t.peak
  deferrals : ∀ d ∈ l'.deferred, d ∈ l.deferred ∨ ∃ q, Reaches b p q ∧ Defers b q d

/-- Why the analysis of a start stops. -/
def Refused (p : Start) (d : Defect) : Prop := d = .unfinished ∨ ¬ Certified b limits p

/-- The ledger is as it is when a start is turned to: the start is of a source that exists, and all
that is being walked reaches it. -/
structure Ledger.Ready (l : Ledger) (p : Start) : Prop where
  sound : l.Sound b limits
  source : p.source < b.sources.length
  ancestors : ∀ a ∈ l.active, Reaches b a p

/-- The step walks a start to its end. -/
def Walks (fresh : Start → Analysis Summary) : Prop :=
  ∀ p l, l.Ready b limits p → Outcome (fresh p l)
    (fun r => r.1.final = p.final b ∧
      ∃ ip, (p.ops b).length ≤ ip ∧ Walking b limits p l ip r.1.peak r.2)
    (Refused b limits p)

/-- The step consults a start. -/
def Analyzes (consult : Start → Analysis (Option Summary)) : Prop :=
  ∀ p l, l.Ready b limits p → Outcome (consult p l)
    (fun r => Visited b limits p l r.1 r.2) (Refused b limits p)

variable {b limits}

/-! ## Ledgers that grow -/

namespace Ledger

variable {l l' l'' : Ledger}

theorem Keeps.refl (l : Ledger) : l.Keeps l := ⟨rfl, fun _ _ h => h, fun _ h => h⟩

theorem Keeps.trans (h : l.Keeps l') (h' : l'.Keeps l'') : l.Keeps l'' :=
  ⟨h'.active.trans h.active, fun p s hp => h'.found p s (h.found p s hp),
    fun d hd => h'.deferred d (h.deferred d hd)⟩

theorem Walked.mono {p : Start} {peak peak' ip : Nat} {op : Op}
    (hw : l.Walked b limits p peak ip op) (hf : ∀ p s, l.found p = some s → l'.found p = some s)
    (hd : ∀ d ∈ l.deferred, d ∈ l'.deferred) (hle : peak ≤ peak') :
    l'.Walked b limits p peak' ip op := by
  obtain ⟨opcode, ho, hfits, hflow⟩ := hw
  refine ⟨opcode, ho, hfits, fun f hop => ?_⟩
  obtain ⟨hans, hcov⟩ := hflow f hop
  constructor
  · rcases hans with ⟨s, hs, hneed⟩ | ⟨d, hmem, hd'⟩
    · exact .inl ⟨s, hf _ s hs, hneed⟩
    · exact .inr ⟨d, hd d hmem, hd'⟩
  · exact hcov.imp_left fun ⟨s, hs, hpeak⟩ => ⟨s, hf _ s hs, Nat.le_trans hpeak hle⟩

theorem Entry.mono {p : Start} {s : Summary} (he : l.Entry b limits p s)
    (hf : ∀ p s, l.found p = some s → l'.found p = some s)
    (hd : ∀ d ∈ l.deferred, d ∈ l'.deferred) : l'.Entry b limits p s :=
  ⟨he.source, he.final, he.own, he.attained,
    fun ip op hop => (he.walked ip op hop).mono hf hd (Nat.le_refl _)⟩

theorem sound_blank : Ledger.blank.Sound b limits :=
  ⟨fun _ hp => absurd hp List.not_mem_nil, fun _ _ hs => (nomatch hs),
    fun _ hd => absurd hd List.not_mem_nil⟩

/-- The ledger once an op is put off. -/
def defer (l : Ledger) (d : Deferred) : Ledger := { l with deferred := l.deferred ++ [d] }

theorem keeps_defer (l : Ledger) (d : Deferred) : l.Keeps (l.defer d) :=
  ⟨rfl, fun _ _ h => h, fun _ h => List.mem_append_left _ h⟩

theorem Sound.defer (h : l.Sound b limits) {d : Deferred} (hd : d.target ∈ l.active) :
    (l.defer d).Sound b limits := by
  refine ⟨h.apart, fun p s hs => (h.entry p s hs).mono (fun _ _ h => h)
    fun _ h => List.mem_append_left _ h, fun d' hd' => ?_⟩
  rcases List.mem_append.mp hd' with hd' | hd'
  · exact h.deferred d' hd'
  · rw [List.mem_singleton.mp hd']
    exact .inl hd

/-- The ledger once a walk begins. -/
def opened (l : Ledger) (p : Start) : Ledger := { l with active := p :: l.active }

/-- The ledger once a walk has ended. -/
def closed (l : Ledger) (p : Start) (s : Summary) : Ledger :=
  { l with finished := (p, s) :: l.finished, active := l.active.erase p }

theorem found_closed (l : Ledger) (p : Start) (s : Summary) (q : Start) :
    (l.closed p s).found q = if q = p then some s else l.found q := by
  unfold found closed
  rw [List.lookup_cons]
  by_cases hq : q = p
  · simp only [hq, BEq.rfl, ↓reduceIte]
  · simp only [hq, beq_eq_false_iff_ne.mpr hq, ↓reduceIte]

theorem Sound.opened (h : l.Sound b limits) {p : Start} (hp : l.found p = none) :
    (l.opened p).Sound b limits := by
  refine ⟨fun q hq => ?_, fun q s hs => (h.entry q s hs).mono (fun _ _ h => h) fun _ h => h,
    fun d hd => (h.deferred d hd).imp_left (List.mem_cons_of_mem p)⟩
  rcases List.mem_cons.mp hq with rfl | hq
  · exact hp
  · exact h.apart q hq

/-- A start that is being walked has no entry, so its own hides none. -/
theorem found_closed_of_found (h : l.Sound b limits) {p : Start} (hp : p ∈ l.active) (s : Summary)
    (q : Start) (t : Summary) (hq : l.found q = some t) : (l.closed p s).found q = some t := by
  have hne : q ≠ p := by
    rintro rfl
    rw [h.apart q hp] at hq
    cases hq
  rw [found_closed, if_neg hne]
  exact hq

theorem Sound.closed (h : l.Sound b limits) {p : Start} {s : Summary} (hp : p ∈ l.active)
    (hn : p ∉ l.active.erase p) (he : l.Entry b limits p s) :
    (l.closed p s).Sound b limits := by
  have hf := found_closed_of_found h hp s
  refine ⟨fun q hq => ?_, fun q t hq => ?_, fun d hd => ?_⟩
  · have hne : q ≠ p := fun heq => hn (heq ▸ hq)
    rw [found_closed, if_neg hne]
    exact h.apart q (List.mem_of_mem_erase hq)
  · rw [found_closed] at hq
    split at hq
    · rename_i heq
      cases hq
      exact heq ▸ he.mono hf fun _ h => h
    · exact (h.entry q t hq).mono hf fun _ h => h
  · by_cases heq : d.target = p
    · exact .inr ⟨s, by rw [found_closed, if_pos heq]⟩
    · rcases h.deferred d hd with hact | ⟨t, ht⟩
      · exact .inl ((List.mem_erase_of_ne heq).mpr hact)
      · exact .inr ⟨t, hf _ t ht⟩

end Ledger

/-! ## One walk -/

namespace Walking

variable {p : Start} {l₀ l l' : Ledger} {ip peak : Nat}

theorem start (h : l.Ready b limits p) : Walking b limits p l 0 p.height l where
  sound := h.sound
  keeps := Ledger.Keeps.refl l
  ancestors := h.ancestors
  own j hj := by rw [Nat.le_zero.mp hj]; exact Nat.le_refl _
  attained := ⟨p, 0, Reaches.refl p, rfl⟩
  walked j hj := absurd hj (Nat.not_lt_zero j)
  fresh q s hn hs := by rw [hn] at hs; cases hs
  deferrals d hd := .inl hd

/-- The walk has passed an op. -/
theorem advance (h : Walking b limits p l₀ ip peak l) {op : Op} (hop : (p.ops b)[ip]? = some op)
    (hw : l.Walked b limits p peak ip op) :
    Walking b limits p l₀ (ip + 1) (Nat.max peak (op.after (p.heightAt b ip))) l where
  sound := h.sound
  keeps := h.keeps
  ancestors := h.ancestors
  own j hj := by
    rcases Nat.lt_or_eq_of_le hj with hlt | rfl
    · exact Nat.le_trans (h.own j (Nat.lt_succ_iff.mp hlt)) (Nat.le_max_left _ _)
    · rw [Start.heightAt_succ hop]
      exact Nat.le_max_right _ _
  attained := h.attained.max ⟨p, ip + 1, Reaches.refl p, (Start.heightAt_succ hop).symm⟩
  walked j hj op' hop' := by
    refine Ledger.Walked.mono ?_ (fun _ _ h => h) (fun _ h => h) (Nat.le_max_left _ _)
    rcases Nat.lt_or_eq_of_le (Nat.lt_succ_iff.mp hj) with hlt | rfl
    · exact h.walked j hlt op' hop'
    · rw [hop] at hop'
      cases hop'
      exact hw
  fresh q s hn hs :=
    (h.fresh q s hn hs).imp_right fun hle j => Nat.le_trans (hle j) (Nat.le_max_left _ _)
  deferrals := h.deferrals

/-- An op was put off. -/
theorem defer (h : Walking b limits p l₀ ip peak l) {d : Deferred} (ht : d.target ∈ l.active)
    (hd : Defers b p d) : Walking b limits p l₀ ip peak (l.defer d) where
  sound := h.sound.defer ht
  keeps := h.keeps.trans (l.keeps_defer d)
  ancestors := h.ancestors
  own := h.own
  attained := h.attained
  walked j hj op hop := (h.walked j hj op hop).mono (fun _ _ h => h)
    (fun _ h => List.mem_append_left _ h) (Nat.le_refl peak)
  fresh := h.fresh
  deferrals d' hd' := by
    rcases List.mem_append.mp hd' with hd' | hd'
    · exact h.deferrals d' hd'
    · rw [List.mem_singleton.mp hd']
      exact .inr ⟨p, Reaches.refl p, hd⟩

/-- A start that the walk calls was consulted. -/
theorem visit (h : Walking b limits p l₀ ip peak l) {q : Start} (hc : Calls b p q) {s : Summary}
    (hv : Visited b limits q l (some s) l') :
    Walking b limits p l₀ ip (Nat.max peak s.peak) l' where
  sound := hv.sound
  keeps := h.keeps.trans hv.keeps
  ancestors := h.ancestors
  own j hj := Nat.le_trans (h.own j hj) (Nat.le_max_left _ _)
  attained := by
    obtain ⟨r, j, hr, heq⟩ := (hv.sound.entry q s (hv.known s rfl)).attained
    exact h.attained.max ⟨r, j, hr.head hc, heq⟩
  walked j hj op hop := (h.walked j hj op hop).mono hv.keeps.found hv.keeps.deferred
    (Nat.le_max_left _ _)
  fresh r t hn ht := by
    cases hl : l.found r with
    | some u =>
      exact (h.fresh r u hn hl).imp_right
        fun hle j => Nat.le_trans (hle j) (Nat.le_max_left _ _)
    | none =>
      obtain ⟨hr, u, hu, hle⟩ := hv.fresh r t hl ht
      cases hu
      exact ⟨hr.head hc, fun j => Nat.le_trans (hle j) (Nat.le_max_right _ _)⟩
  deferrals d hd := by
    rcases hv.deferrals d hd with hd | ⟨r, hr, hd⟩
    · exact h.deferrals d hd
    · exact .inr ⟨r, hr.head hc, hd⟩

end Walking

variable {p : Start} {l₀ l : Ledger} {ip peak : Nat} {op : Op}
  {consult : Start → Analysis (Option Summary)}

/-- A start is refused if an op of its own does not fit. -/
theorem refused_of_not_fits (hop : (p.ops b)[ip]? = some op) {opcode : Opcode}
    (ho : Opcode.ofId? op.opcode = some opcode)
    (h : ¬ OpFits b limits (p.heightAt b ip) op opcode) (d : Defect) : Refused b limits p d := by
  refine .inr fun hc => ?_
  obtain ⟨opcode', ho', hfits⟩ := (hc p (Reaches.refl p)).2.1 ip op hop
  rw [ho] at ho'
  cases ho'
  exact h hfits

theorem Refused.of_calls {q : Start} {d : Defect} (h : Refused b limits q d) (hc : Calls b p q) :
    Refused b limits p d :=
  h.imp_right fun hq hp => hq fun r hr => hp r (hr.head hc)

theorem followFlow_outcome (hn : Analyzes b limits consult) (h : Walking b limits p l₀ ip peak l)
    (hop : (p.ops b)[ip]? = some op) {f : Flow} (ho : Opcode.ofId? op.opcode = some (.flow f)) :
    Outcome (followFlow b consult p.source ip f op.operand l)
      (fun r => Walking b limits p l₀ ip (Nat.max peak r.1) r.2 ∧
        (targetOf op.operand).source < b.sources.length ∧
        r.2.Answers (targetOf op.operand) (f.needed op.operand) ∧
        r.2.Covers b p (Nat.max peak r.1) (targetOf op.operand))
      (Refused b limits p) := by
  have hc : Calls b p (targetOf op.operand) := ⟨ip, op, f, hop, ho, rfl⟩
  unfold followFlow
  by_cases hlen : b.sources.length ≤ (targetOf op.operand).source
  · simp only [hlen, ↓reduceIte]
    exact refused_of_not_fits hop ho
      (fun hfits => absurd (hfits.target f rfl) (Nat.not_lt.mpr hlen)) _
  · simp only [hlen, ↓reduceIte]
    have hlt := Nat.lt_of_not_le hlen
    -- All that is being walked reaches `p`, and so the target.
    have hanc : ∀ a ∈ l.active, Reaches b a p := by
      rw [h.keeps.active]
      exact h.ancestors
    have hready : l.Ready b limits (targetOf op.operand) :=
      ⟨h.sound, hlt, fun a ha => (hanc a ha).tail hc⟩
    refine outcome_bind ((hn _ l hready).mono (fun _ h => h) fun d hd => hd.of_calls hc)
      fun found l' hv => ?_
    cases found with
    | none =>
      obtain ⟨hact, rfl⟩ := hv.active rfl
      refine ⟨?_, hlt, .inr ⟨_, List.mem_append_right _ (List.mem_singleton.mpr rfl), rfl, rfl⟩,
        .inr (hanc _ hact)⟩
      rw [show Nat.max peak 0 = peak from Nat.max_eq_left (Nat.zero_le peak)]
      exact h.defer hact ⟨ip, op, f, hop, ho, rfl⟩
    | some s =>
      have hs := hv.known s rfl
      by_cases hneed : s.final < f.needed op.operand
      · simp only [hneed, ↓reduceIte]
        refine .inr fun hcert => ?_
        have hans := (hcert p (Reaches.refl p)).2.2 ip op f hop ho
        rw [← (hv.sound.entry _ s hs).final] at hans
        omega
      · simp only [hneed, ↓reduceIte]
        exact ⟨h.visit hc hv, hlt, .inl ⟨s, hs, Nat.le_of_not_lt hneed⟩,
          .inl ⟨s, hs, Nat.le_max_right _ _⟩⟩

/-- Everything that an op asks for but room on the stack. -/
theorem examine_outcome (hn : Analyzes b limits consult) (h : Walking b limits p l₀ ip peak l)
    (hop : (p.ops b)[ip]? = some op) {opcode : Opcode} (ho : Opcode.ofId? op.opcode = some opcode)
    (ha : opcode.admits op.operand = true) (hin : opcode.inputs op.operand ≤ p.heightAt b ip) :
    Outcome (examine b consult p.source ip opcode op.operand (p.heightAt b ip) l)
      (fun r => Walking b limits p l₀ ip (Nat.max peak r.1) r.2 ∧
        (op.after (p.heightAt b ip) ≤ limits.maxStack →
          r.2.Walked b limits p (Nat.max peak r.1) ip op))
      (Refused b limits p) := by
  have hzero : Walking b limits p l₀ ip (Nat.max peak 0) l := by
    rw [show Nat.max peak 0 = peak from Nat.max_eq_left (Nat.zero_le peak)]
    exact h
  cases opcode with
  | readMemory =>
    unfold examine
    cases hreg : op.operand.region with
    | constants =>
      by_cases hlt : op.operand.index < b.constants.length
      · simp only [hlt, ↓reduceIte]
        exact ⟨hzero, fun hlim =>
          ⟨_, ho, ⟨ha, hin, fun _ _ => hlt, by simp [hreg], nofun, nofun, hlim⟩, nofun⟩⟩
      · simp only [hlt, ↓reduceIte]
        exact refused_of_not_fits hop ho (fun hfits => hlt (hfits.constants rfl hreg)) _
    | stack =>
      by_cases hlt : op.operand.index < p.heightAt b ip
      · simp only [hlt, ↓reduceIte]
        exact ⟨hzero, fun hlim =>
          ⟨_, ho, ⟨ha, hin, by simp [hreg], fun _ _ => hlt, nofun, nofun, hlim⟩, nofun⟩⟩
      · simp only [hlt, ↓reduceIte]
        exact refused_of_not_fits hop ho (fun hfits => hlt (hfits.stack rfl hreg)) _
  | debug =>
    unfold examine
    cases hmode : DebugMode.ofCode? op.operand.raw with
    | some mode =>
      exact ⟨hzero, fun hlim =>
        ⟨_, ho, ⟨ha, hin, nofun, nofun, by simp [hmode], nofun, hlim⟩, nofun⟩⟩
    | none => exact refused_of_not_fits hop ho (fun hfits => hfits.mode rfl hmode) _
  | flow f =>
    refine (followFlow_outcome hn h hop ho).mono (fun r hr => ?_) fun _ h => h
    obtain ⟨hw, hlt, hflow⟩ := hr
    refine ⟨hw, fun hlim => ⟨_, ho, ⟨ha, hin, nofun, nofun, nofun, fun _ _ => hlt, hlim⟩, ?_⟩⟩
    intro f' hf
    cases hf
    exact hflow
  | context | ensure | set | get | «calc» c =>
    exact ⟨hzero, fun hlim => ⟨_, ho, ⟨ha, hin, nofun, nofun, nofun, nofun, hlim⟩, nofun⟩⟩

/-- **One op of a walk.** -/
theorem walkOp_outcome (hn : Analyzes b limits consult) (h : Walking b limits p l₀ ip peak l)
    (hop : (p.ops b)[ip]? = some op) :
    Outcome (walkOp b limits consult p.source ip op (p.heightAt b ip) peak l)
      (fun r => r.1.1 = p.heightAt b (ip + 1) ∧ Walking b limits p l₀ (ip + 1) r.1.2 r.2)
      (Refused b limits p) := by
  rw [Start.heightAt_succ hop]
  unfold walkOp
  cases ho : Opcode.ofId? op.opcode with
  | none =>
    refine .inr fun hc => ?_
    obtain ⟨opcode, ho', -⟩ := (hc p (Reaches.refl p)).2.1 ip op hop
    rw [ho] at ho'
    cases ho'
  | some opcode =>
    have hafter := Op.after_eq ho (p.heightAt b ip)
    cases ha : opcode.admits op.operand with
    | false =>
      simp only [ha, Bool.not_false, ↓reduceIte]
      exact refused_of_not_fits hop ho (fun hfits => by simp [hfits.admits] at ha) _
    | true =>
      simp only [ha, Bool.not_true, Bool.false_eq_true, ↓reduceIte]
      by_cases hin : p.heightAt b ip < opcode.inputs op.operand
      · simp only [hin, ↓reduceIte]
        exact refused_of_not_fits hop ho (fun hfits => absurd hfits.inputs (Nat.not_le.mpr hin)) _
      · simp only [hin, ↓reduceIte]
        refine outcome_bind (examine_outcome hn h hop ho ha (Nat.le_of_not_lt hin))
          fun nested l' hr => ?_
        rw [← hafter]
        by_cases hlim : limits.maxStack < op.after (p.heightAt b ip)
        · simp only [hlim, ↓reduceIte]
          exact refused_of_not_fits hop ho (fun hfits => absurd hfits.limit (Nat.not_le.mpr hlim)) _
        · simp only [hlim, ↓reduceIte]
          exact ⟨rfl, hr.1.advance hop (hr.2 (Nat.le_of_not_lt hlim))⟩

/-- **A walk to the end.** By induction on the ops that are left. -/
theorem walkOps_outcome (hn : Analyzes b limits consult) (ops : List Op)
    (hops : (p.ops b).drop ip = ops) (h : Walking b limits p l₀ ip peak l) :
    Outcome (walkOps b limits consult p.source ip ops (p.heightAt b ip) peak l)
      (fun r => r.1.final = p.final b ∧
        ∃ ip, (p.ops b).length ≤ ip ∧ Walking b limits p l₀ ip r.1.peak r.2)
      (Refused b limits p) := by
  induction ops generalizing ip peak l with
  | nil =>
    have hend := List.drop_eq_nil_iff.mp hops
    exact ⟨Start.heightAt_of_le hend, ip, hend, h⟩
  | cons op ops ih =>
    obtain ⟨hop, hrest⟩ := getElem?_of_drop hops
    refine outcome_bind (walkOp_outcome hn h hop) fun r l' hr => ?_
    obtain ⟨height, peak'⟩ := r
    obtain ⟨rfl, hw⟩ := hr
    exact ih hrest hw

theorem walk_walks (hn : Analyzes b limits consult) : Walks b limits (walk b limits consult) := by
  intro p l h
  have hsrc : b.sources[p.source]? = some _ := List.getElem?_eq_getElem h.source
  unfold walk
  rw [hsrc]
  simp only [← Start.ops_eq hsrc]
  exact walkOps_outcome hn (p.ops b) List.drop_zero (Walking.start h)

/-- A walk that has come to its end gives the entry of its start. -/
theorem Walking.entry {s : Summary} (h : Walking b limits p l₀ ip s.peak l)
    (hp : p.source < b.sources.length) (hf : s.final = p.final b) (hip : (p.ops b).length ≤ ip) :
    l.Entry b limits p s where
  source := hp
  final := hf
  own j := by
    rcases Nat.le_total j ip with hle | hle
    · exact h.own j hle
    · rw [Start.heightAt_of_le (Nat.le_trans hip hle), ← Start.heightAt_of_le hip]
      exact h.own ip (Nat.le_refl ip)
  attained := h.attained
  walked j op hop :=
    h.walked j (Nat.lt_of_lt_of_le (List.getElem?_eq_some_iff.mp hop).1 hip) op hop

/-! ## One consultation -/

/-- A start that was walked before, or is being walked, is only looked up. -/
theorem Visited.lookup (h : l.Sound b limits) (p : Start) (found : Option Summary)
    (hs : ∀ s, found = some s → l.found p = some s) (ha : found = none → p ∈ l.active) :
    Visited b limits p l found l where
  sound := h
  keeps := Ledger.Keeps.refl l
  known := hs
  active hn := ⟨ha hn, rfl⟩
  fresh q s hn hq := by rw [hn] at hq; cases hq
  deferrals d hd := .inl hd

/-- A new start is walked, and what the walk found is kept. -/
theorem Visited.close {s : Summary} (hp : p.source < b.sources.length) (hnone : l₀.found p = none)
    (hact : p ∉ l₀.active) (h : Walking b limits p (l₀.opened p) ip s.peak l)
    (hf : s.final = p.final b) (hip : (p.ops b).length ≤ ip) :
    Visited b limits p l₀ (some s) (l.closed p s) := by
  have hactive : l.active = p :: l₀.active := h.keeps.active
  have herase : l.active.erase p = l₀.active := by
    rw [hactive, List.erase_cons_head]
  have hmem : p ∈ l.active := by
    rw [hactive]
    exact List.mem_cons_self
  have hentry := h.entry hp hf hip
  refine ⟨h.sound.closed hmem (by rw [herase]; exact hact) hentry,
    ⟨herase, fun q t hq => ?_, h.keeps.deferred⟩, ?_, nofun, fun q t hn hq => ?_, h.deferrals⟩
  · exact Ledger.found_closed_of_found h.sound hmem s q t (h.keeps.found q t hq)
  · rintro t ⟨⟩
    rw [Ledger.found_closed, if_pos rfl]
  · rw [Ledger.found_closed] at hq
    split at hq
    · rename_i heq
      subst heq
      exact ⟨Reaches.refl q, s, rfl, hentry.own⟩
    · exact (h.fresh q t hn hq).imp_right fun hle => ⟨s, rfl, hle⟩

theorem Ledger.Ready.opened (h : l.Ready b limits p) (hnone : l.found p = none) :
    (l.opened p).Ready b limits p := by
  refine ⟨h.sound.opened hnone, h.source, fun a ha => ?_⟩
  rcases List.mem_cons.mp ha with rfl | ha
  · exact Reaches.refl a
  · exact h.ancestors a ha

theorem consult_analyzes {fresh : Start → Analysis Summary} (hfresh : Walks b limits fresh) :
    Analyzes b limits (Integrity.consult fresh) := by
  intro p l h
  refine outcome_bind (R := fun r => r = (l, l)) rfl fun _ _ hget => ?_
  cases hget
  cases hs : l.finished.lookup p with
  | some s =>
    refine Visited.lookup h.sound p (some s) (fun t ht => ?_) nofun
    cases ht
    exact hs
  | none =>
    by_cases hact : p ∈ l.active
    · simp only [hact, ↓reduceIte]
      exact Visited.lookup h.sound p none nofun fun _ => hact
    · simp only [hact, ↓reduceIte]
      refine outcome_bind (R := fun r => r.2 = l.opened p) rfl fun _ l₀ hl => ?_
      subst hl
      refine outcome_bind (hfresh p _ (h.opened hs)) fun s l' hr => ?_
      obtain ⟨hf, ip, hip, hw⟩ := hr
      exact Visited.close h.source hs hact hw hf hip

/-- **The analysis of a start.** By induction on how deep walks may nest. -/
theorem analyze_analyzes (depth : Nat) : Analyzes b limits (analyze b limits depth) := by
  induction depth with
  | zero => exact consult_analyzes fun p l _ => .inl rfl
  | succ depth ih => exact consult_analyzes (walk_walks ih)

end Integrity

end ExprMachine
