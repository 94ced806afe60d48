import ExprMachine.Proofs.Integrity.Ledger

/-!
# Two analyses side by side

What one analysis accepts another accepts with the same reports, if the second asks for no more than
the first and its walks follow those of the first (`check_tracks`). The two may be of different
bundles under different limits, and the ops of their sources may stand at different places. If they
stand at the same ones, it is enough that the second asks for no more (`check_of_roomier`).

* `Ledger.Similar`: the ledgers differ at most in where the ops that were put off stand.
* `Tracks x y`: where `x` returns a value, `y` returns the same, from and to similar ledgers. If `x`
  stops with a defect, nothing is said of `y`.
* `Roomier`: all that an op asks for is there under the second limits if it is under the first.
* `Comparable`: a start that both analyses may turn to. Its words fit, since the op that hands them
  over had them.
-/

namespace ExprMachine

/-- The words that a control-flow op hands on are among its inputs. -/
theorem Flow.lowCount_le_inputs (f : Flow) (operand : Operand) :
    operand.lowCount ≤ f.inputs operand := by
  cases f <;> simp [Flow.inputs]

namespace Integrity

/-- What an op that was put off asks, and of which start. -/
def Deferred.demand (d : Deferred) : Start × Nat := (d.target, d.needed)

/-- Ledgers that differ at most in where the ops that were put off stand. -/
structure Ledger.Similar (l l' : Ledger) : Prop where
  finished : l'.finished = l.finished
  active : l'.active = l.active
  demands : l'.deferred.map Deferred.demand = l.deferred.map Deferred.demand

/-- Where `x` returns a value, `y` returns the same (module doc). -/
def Tracks {α : Type} (x y : Analysis α) : Prop :=
  ∀ l l', l.Similar l' → ∀ a k, x l = .ok (a, k) → ∃ k', y l' = .ok (a, k') ∧ k.Similar k'

/-- The second bundle and limits have at least what the first have. -/
structure Roomier (b b' : Bundle) (limits limits' : Limits) : Prop where
  sources : b.sources.length ≤ b'.sources.length
  constants : b.constants.length ≤ b'.constants.length
  maxStack : limits.maxStack ≤ limits'.maxStack

/-- A start of a source that exists, with words that fit. -/
structure Comparable (b : Bundle) (limits : Limits) (p : Start) : Prop where
  source : p.source < b.sources.length
  height : p.height ≤ limits.maxStack

theorem Ledger.Similar.refl (l : Ledger) : l.Similar l := ⟨rfl, rfl, rfl⟩

theorem analysis_bind_eq_ok {α β : Type} {x : Analysis α} {f : α → Analysis β} {l : Ledger}
    {r : β × Ledger} : (x >>= f) l = .ok r ↔ ∃ a l', x l = .ok (a, l') ∧ f a l' = .ok r := by
  show Except.bind (x l) (fun s => f s.1 s.2) = .ok r ↔ _
  cases x l with
  | error d => simp [Except.bind]
  | ok s =>
    constructor
    · exact fun h => ⟨s.1, s.2, rfl, h⟩
    · rintro ⟨a, l', hs, h⟩
      cases hs
      exact h

/-! ## Steps -/

namespace Tracks

variable {α β : Type} {x y : Analysis α}

theorem ret (a : α) : Tracks (pure a) (pure a) := by
  intro l l' hl b k h
  cases h
  exact ⟨l', rfl, hl⟩

/-- Nothing is asked where the first analysis stops. -/
theorem fail (d : Defect) (y : Analysis α) : Tracks (throw d) y := by
  intro l l' _ a k h
  cases h

/-- What follows a step may rely on the value being one that the step returns. -/
theorem bind_of_returns {f g : α → Analysis β} (hx : Tracks x y)
    (hf : ∀ a l k, x l = .ok (a, k) → Tracks (f a) (g a)) : Tracks (x >>= f) (y >>= g) := by
  intro l l' hl b k h
  obtain ⟨a, l₁, hx₁, hf₁⟩ := analysis_bind_eq_ok.mp h
  obtain ⟨l₁', hy₁, hl₁⟩ := hx l l' hl a l₁ hx₁
  obtain ⟨k', hg, hk⟩ := hf a l l₁ hx₁ l₁ l₁' hl₁ b k hf₁
  exact ⟨k', analysis_bind_eq_ok.mpr ⟨a, l₁', hy₁, hg⟩, hk⟩

theorem bind {f g : α → Analysis β} (hx : Tracks x y) (hf : ∀ a, Tracks (f a) (g a)) :
    Tracks (x >>= f) (y >>= g) := hx.bind_of_returns fun a _ _ _ => hf a

/-- The second analysis passes a test that the first passes. -/
theorem guard {c c' : Prop} [Decidable c] [Decidable c'] {d d' : Defect} (hc : ¬ c → ¬ c')
    (h : ¬ c → Tracks x y) :
    Tracks (if c then throw d else x) (if c' then throw d' else y) := by
  by_cases hcond : c
  · simp only [hcond, ↓reduceIte]
    exact fail d _
  · simp only [hcond, hc hcond, ↓reduceIte]
    exact h hcond

/-- An op is put off in both analyses. -/
theorem defer (d d' : Deferred) (hd : d'.demand = d.demand) :
    Tracks (modify fun l => l.defer d) (modify fun l => l.defer d') := by
  intro l l' hl a k h
  cases h
  refine ⟨l'.defer d', rfl, hl.finished, hl.active, ?_⟩
  simp only [Ledger.defer, List.map_append, hl.demands, List.map_cons, List.map_nil, hd]

end Tracks

/-! ## Walks -/

variable {b b' : Bundle} {limits limits' : Limits}
  {consult consult' : Start → Analysis (Option Summary)}

theorem followFlow_tracks (hroom : Roomier b b' limits limits')
    (hn : ∀ q, Comparable b limits q → Tracks (consult q) (consult' q)) (source ip ip' : Nat)
    (f : Flow) (operand : Operand) (hfit : operand.lowCount ≤ limits.maxStack) :
    Tracks (followFlow b consult source ip f operand)
      (followFlow b' consult' source ip' f operand) := by
  refine Tracks.guard (fun hlen hlen' => hlen (Nat.le_trans hroom.sources hlen')) fun hlen => ?_
  refine (hn _ ⟨Nat.lt_of_not_le hlen, hfit⟩).bind fun found => ?_
  cases found with
  | some s => exact Tracks.guard id fun _ => Tracks.ret s.peak
  | none =>
    exact (Tracks.defer ⟨source, ip, targetOf operand, f.needed operand⟩
      ⟨source, ip', targetOf operand, f.needed operand⟩ rfl).bind fun _ => Tracks.ret 0

theorem examine_tracks (hroom : Roomier b b' limits limits')
    (hn : ∀ q, Comparable b limits q → Tracks (consult q) (consult' q)) (source ip ip' : Nat)
    (opcode : Opcode) (operand : Operand) {height : Nat} (hin : opcode.inputs operand ≤ height)
    (hfit : height ≤ limits.maxStack) :
    Tracks (examine b consult source ip opcode operand height)
      (examine b' consult' source ip' opcode operand height) := by
  cases opcode with
  | readMemory =>
    unfold examine
    cases operand.region with
    | constants =>
      by_cases hlt : operand.index < b.constants.length
      · simp only [hlt, Nat.lt_of_lt_of_le hlt hroom.constants, ↓reduceIte]
        exact Tracks.ret 0
      · simp only [hlt, ↓reduceIte]
        exact Tracks.fail _ _
    | stack =>
      by_cases hlt : operand.index < height
      · simp only [hlt, ↓reduceIte]
        exact Tracks.ret 0
      · simp only [hlt, ↓reduceIte]
        exact Tracks.fail _ _
  | debug =>
    unfold examine
    cases DebugMode.ofCode? operand.raw with
    | some mode => exact Tracks.ret 0
    | none => exact Tracks.fail _ _
  | flow f =>
    have hcount := Flow.lowCount_le_inputs f operand
    simp only [Opcode.inputs] at hin
    exact followFlow_tracks hroom hn source ip ip' f operand (by omega)
  | context | ensure | set | get | «calc» c => exact Tracks.ret 0

theorem walkOp_tracks (hroom : Roomier b b' limits limits')
    (hn : ∀ q, Comparable b limits q → Tracks (consult q) (consult' q)) (source ip ip' : Nat)
    (op : Op) {height : Nat} (peak : Nat) (hfit : height ≤ limits.maxStack) :
    Tracks (walkOp b limits consult source ip op height peak)
      (walkOp b' limits' consult' source ip' op height peak) := by
  unfold walkOp
  cases Opcode.ofId? op.opcode with
  | none => exact Tracks.fail _ _
  | some opcode =>
    refine Tracks.guard id fun _ => Tracks.guard id fun hin => ?_
    refine (examine_tracks hroom hn source ip ip' opcode op.operand (Nat.le_of_not_lt hin)
      hfit).bind fun nested => ?_
    exact Tracks.guard (fun hlim hlim' => hlim (Nat.lt_of_le_of_lt hroom.maxStack hlim'))
      fun _ => Tracks.ret _

/-- What an op is left at fits, and went into the greatest height. -/
theorem walkOp_returns {source ip height peak : Nat} {op : Op} {l k : Ledger} {r : Nat × Nat}
    (h : walkOp b limits consult source ip op height peak l = .ok (r, k)) :
    r.1 ≤ limits.maxStack ∧ r.1 ≤ r.2 := by
  unfold walkOp at h
  cases ho : Opcode.ofId? op.opcode with
  | none =>
    rw [ho] at h
    cases h
  | some opcode =>
    simp only [ho] at h
    split at h
    · cases h
    · split at h
      · cases h
      · obtain ⟨nested, l', -, h'⟩ := analysis_bind_eq_ok.mp h
        split at h'
        · cases h'
        · rename_i hlim
          cases h'
          exact ⟨Nat.le_of_not_lt hlim, Nat.le_max_right _ _⟩

/-- The same ops in both analyses. -/
theorem walkOps_tracks_self (hroom : Roomier b b' limits limits')
    (hn : ∀ q, Comparable b limits q → Tracks (consult q) (consult' q)) (source ip : Nat)
    (ops : List Op) {height : Nat} (peak : Nat) (hfit : height ≤ limits.maxStack) :
    Tracks (walkOps b limits consult source ip ops height peak)
      (walkOps b' limits' consult' source ip ops height peak) := by
  induction ops generalizing ip height peak with
  | nil => exact Tracks.ret _
  | cons op ops ih =>
    refine (walkOp_tracks hroom hn source ip ip op peak hfit).bind_of_returns fun r l k hr => ?_
    exact ih (ip + 1) r.2 (walkOp_returns hr).1

/-! ## Consultations -/

theorem Ledger.Similar.opened {l l' : Ledger} (h : l.Similar l') (p : Start) :
    (l.opened p).Similar (l'.opened p) :=
  ⟨h.finished, congrArg (p :: ·) h.active, h.demands⟩

theorem Ledger.Similar.closed {l l' : Ledger} (h : l.Similar l') (p : Start) (s : Summary) :
    (l.closed p s).Similar (l'.closed p s) :=
  ⟨congrArg ((p, s) :: ·) h.finished, congrArg (List.erase · p) h.active, h.demands⟩

/-- A consultation, by what the ledger holds of the start. -/
theorem consult_apply (fresh : Start → Analysis Summary) (p : Start) (l : Ledger) :
    Integrity.consult fresh p l =
      match l.finished.lookup p with
      | some s => .ok (some s, l)
      | none =>
        if p ∈ l.active then .ok (none, l)
        else (fresh p (l.opened p)).bind fun r => .ok (some r.1, r.2.closed p r.1) := by
  unfold Integrity.consult
  simp only [bind, StateT.bind, get, getThe, MonadStateOf.get, StateT.get, pure, Except.pure,
    Except.bind]
  cases l.finished.lookup p with
  | some s => rfl
  | none =>
    by_cases hact : p ∈ l.active
    · simp only [hact, ↓reduceIte]
      rfl
    · simp only [hact, ↓reduceIte]
      rfl

theorem consult_tracks {fresh fresh' : Start → Analysis Summary} {p : Start}
    (hfresh : Tracks (fresh p) (fresh' p)) :
    Tracks (Integrity.consult fresh p) (Integrity.consult fresh' p) := by
  intro l l' hl found k h
  rw [consult_apply] at h ⊢
  rw [hl.finished, hl.active]
  cases hs : l.finished.lookup p with
  | some s =>
    simp only [hs] at h ⊢
    cases h
    exact ⟨l', rfl, hl⟩
  | none =>
    simp only [hs] at h ⊢
    by_cases hact : p ∈ l.active
    · simp only [hact, ↓reduceIte] at h ⊢
      cases h
      exact ⟨l', rfl, hl⟩
    · simp only [hact, ↓reduceIte] at h ⊢
      cases hf : fresh p (l.opened p) with
      | error d =>
        rw [hf] at h
        cases h
      | ok r =>
        rw [hf] at h
        cases h
        obtain ⟨k', hf', hk⟩ := hfresh _ _ (hl.opened p) r.1 r.2 hf
        exact ⟨k'.closed p r.1, by rw [hf']; rfl, hk.closed p r.1⟩

/-- **Analyses side by side.** By induction on how deep the walks of the first may nest; those of
the second may nest at least as deep. -/
theorem analyze_tracks
    (hwalk : ∀ consult consult', (∀ q, Comparable b limits q → Tracks (consult q) (consult' q)) →
      ∀ p, Comparable b limits p → Tracks (walk b limits consult p) (walk b' limits' consult' p))
    {depth depth' : Nat} (hdepth : depth ≤ depth') {p : Start} (hp : Comparable b limits p) :
    Tracks (analyze b limits depth p) (analyze b' limits' depth' p) := by
  induction depth generalizing depth' p with
  | zero =>
    cases depth' with
    | zero => exact consult_tracks (Tracks.fail _ _)
    | succ depth' => exact consult_tracks (Tracks.fail _ _)
  | succ depth ih =>
    cases depth' with
    | zero => omega
    | succ depth' =>
      exact consult_tracks (hwalk _ _ (fun q hq => ih (Nat.le_of_succ_le_succ hdepth) hq) p hp)

/-! ## Bundles -/

theorem checkEntrypoints_tracks (index : Nat) (mins : List Nat)
    (hlen : index + mins.length ≤ b.sources.length)
    (hn : ∀ q, Comparable b limits q → Tracks (consult q) (consult' q)) :
    Tracks (checkEntrypoints consult index mins) (checkEntrypoints consult' index mins) := by
  induction mins generalizing index with
  | nil => exact Tracks.ret _
  | cons min mins ih =>
    rw [List.length_cons] at hlen
    refine (hn ⟨index, 0⟩ ⟨by simp only; omega, Nat.zero_le _⟩).bind fun found => ?_
    refine Tracks.guard id fun _ => ?_
    exact (ih (index + 1) (by omega)).bind fun reports => Tracks.ret _

theorem settle_congr {finished : List (Start × Summary)} {ds ds' : List Deferred}
    (hd : ds'.map Deferred.demand = ds.map Deferred.demand) (h : settle finished ds = .ok ()) :
    settle finished ds' = .ok () := by
  induction ds generalizing ds' with
  | nil =>
    rw [List.map_nil, List.map_eq_nil_iff] at hd
    rw [hd]
    rfl
  | cons d ds ih =>
    obtain ⟨d', ds', rfl, hd₁, hd₂⟩ := List.map_eq_cons_iff.mp hd
    obtain ⟨htarget, hneeded⟩ := Prod.mk.inj hd₁
    unfold settle at h ⊢
    rw [htarget, hneeded]
    cases hs : finished.lookup d.target with
    | none =>
      simp only [hs] at h ⊢
      exact ih hd₂ h
    | some s =>
      simp only [hs] at h ⊢
      by_cases hlt : s.final < d.needed
      · simp only [hlt, ↓reduceIte] at h
        cases h
      · simp only [hlt, ↓reduceIte] at h ⊢
        exact ih hd₂ h

/-- **What the one accepts the other accepts.** -/
theorem check_tracks (hroom : Roomier b b' limits limits')
    (hwalk : ∀ consult consult', (∀ q, Comparable b limits q → Tracks (consult q) (consult' q)) →
      ∀ p, Comparable b limits p → Tracks (walk b limits consult p) (walk b' limits' consult' p))
    {mins : List Nat} {reports : List EntrypointReport}
    (h : check b limits mins = .ok reports) : check b' limits' mins = .ok reports := by
  have hdepth : nestingBound b ≤ nestingBound b' := by
    have := hroom.sources
    simp only [nestingBound, Nat.min_def]
    split <;> split <;> omega
  unfold check checkWithin at h ⊢
  by_cases hempty : mins.isEmpty = true
  · simp only [hempty, ↓reduceIte] at h
    cases h
  simp only [hempty, Bool.false_eq_true, ↓reduceIte] at h ⊢
  by_cases hlen : b.sources.length < mins.length
  · simp only [hlen, ↓reduceIte] at h
    cases h
  have hlen' : ¬ b'.sources.length < mins.length := by
    have := hroom.sources
    omega
  simp only [hlen, hlen', ↓reduceIte] at h ⊢
  have hentry := checkEntrypoints_tracks 0 mins (by omega)
    (fun q hq => analyze_tracks hwalk hdepth hq) .blank .blank (Ledger.Similar.refl _)
  unfold StateT.run at h ⊢
  cases hc : checkEntrypoints (analyze b limits (nestingBound b)) 0 mins .blank with
  | error d =>
    rw [hc] at h
    cases h
  | ok r =>
    obtain ⟨reports₁, l⟩ := r
    obtain ⟨l', hc', hl⟩ := hentry reports₁ l hc
    rw [hc] at h
    rw [hc']
    simp only [bind, Except.bind] at h ⊢
    cases hsettle : settle l.finished l.deferred with
    | error d =>
      rw [hsettle] at h
      cases h
    | ok _ =>
      rw [hsettle] at h
      rw [hl.finished, settle_congr hl.demands hsettle]
      exact h

/-- What is accepted stays accepted, with the same reports, where there is more room and every
source is what it was. -/
theorem check_of_roomier (hroom : Roomier b b' limits limits')
    (hsources : ∀ i < b.sources.length, b'.sources[i]? = b.sources[i]?) {mins : List Nat}
    {reports : List EntrypointReport} (h : check b limits mins = .ok reports) :
    check b' limits' mins = .ok reports := by
  refine check_tracks hroom (fun consult consult' hn p hp => ?_) h
  unfold walk
  rw [hsources p.source hp.source, List.getElem?_eq_getElem hp.source]
  exact walkOps_tracks_self hroom hn p.source 0 _ p.height hp.height

end Integrity

end ExprMachine
