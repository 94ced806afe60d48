import ExprMachine.Integrity
import Mathlib.Logic.Relation

/-!
# Static heights

Before anything runs, an op changes the height of a stack by what the table says, so every place of
a source has one height for each height that the source is started with.

* `Start.heightAt`, `Start.final`: the height of a start on reaching an op, and at the end.
* `Calls`, `Reaches`: a start has a control-flow op that runs another; chains of such ops.
* `Attains`: a height that is met somewhere along such a chain.
* `Fits`: every op of a start has a known opcode, an operand that it admits, its inputs, the words
  that it reads and its target, and leaves no more words than fit.
* `Answered`: every control-flow op is left at least as many words as it needs.
* `Certified`: all of this, of everything that a start reaches.

An op that is not in the table changes no height. It is met only in starts that do not fit.
-/

namespace ExprMachine

/-- The height after an op that is met at height `h`. -/
def Op.after (op : Op) (h : Nat) : Nat :=
  match Opcode.ofId? op.opcode with
  | some opcode => h - opcode.inputs op.operand + opcode.outputs op.operand
  | none => h

theorem Op.after_eq {op : Op} {opcode : Opcode} (h : Opcode.ofId? op.opcode = some opcode)
    (n : Nat) : op.after n = n - opcode.inputs op.operand + opcode.outputs op.operand := by
  simp only [Op.after, h]

namespace Integrity

variable (b : Bundle)

namespace Start

/-- The ops of a start; none if there is no such source. -/
def ops (p : Start) : List Op :=
  match b.sources[p.source]? with
  | some source => source.ops
  | none => []

/-- The height on reaching the op with the given index. -/
def heightAt (p : Start) (ip : Nat) : Nat :=
  ((p.ops b).take ip).foldl (fun h op => op.after h) p.height

/-- The height at the end. -/
def final (p : Start) : Nat := p.heightAt b (p.ops b).length

variable {b}

theorem ops_eq {p : Start} {source : Source} (h : b.sources[p.source]? = some source) :
    p.ops b = source.ops := by
  simp only [ops, h]

theorem heightAt_succ {p : Start} {ip : Nat} {op : Op} (h : (p.ops b)[ip]? = some op) :
    p.heightAt b (ip + 1) = op.after (p.heightAt b ip) := by
  obtain ⟨hlt, rfl⟩ := List.getElem?_eq_some_iff.mp h
  simp only [heightAt, List.take_succ_eq_append_getElem hlt, List.foldl_append, List.foldl_cons,
    List.foldl_nil]

/-- Past the end the height stays what it is there. -/
theorem heightAt_of_le {p : Start} {ip : Nat} (h : (p.ops b).length ≤ ip) :
    p.heightAt b ip = p.final b := by
  simp only [final, heightAt, List.take_of_length_le h, List.take_length]

end Start

/-- The first op of what is left of a list stands at the place where the rest begins. -/
theorem getElem?_of_drop {α : Type} {xs ys : List α} {x : α} {i : Nat} (h : xs.drop i = x :: ys) :
    xs[i]? = some x ∧ xs.drop (i + 1) = ys := by
  constructor
  · rw [← List.head?_drop, h, List.head?_cons]
  · rw [← List.drop_drop, h, List.drop_one, List.tail_cons]

/-- `p` has a control-flow op that runs `q`. -/
def Calls (p q : Start) : Prop :=
  ∃ (ip : Nat) (op : Op) (f : Flow), (p.ops b)[ip]? = some op ∧
    Opcode.ofId? op.opcode = some (.flow f) ∧ targetOf op.operand = q

/-- A chain of control-flow ops leads from the one start to the other. -/
def Reaches : Start → Start → Prop := Relation.ReflTransGen (Calls b)

variable (limits : Limits)

/-- What an op asks for when it is met at height `h`. -/
structure OpFits (h : Nat) (op : Op) (opcode : Opcode) : Prop where
  admits : opcode.admits op.operand = true
  inputs : opcode.inputs op.operand ≤ h
  constants : opcode = .readMemory → op.operand.region = .constants →
    op.operand.index < b.constants.length
  stack : opcode = .readMemory → op.operand.region = .stack → op.operand.index < h
  mode : opcode = .debug → DebugMode.ofCode? op.operand.raw ≠ none
  target : ∀ f, opcode = .flow f → (targetOf op.operand).source < b.sources.length
  limit : op.after h ≤ limits.maxStack

/-- Every op of a start has what it asks for. -/
def Fits (p : Start) : Prop :=
  ∀ (ip : Nat) (op : Op), (p.ops b)[ip]? = some op →
    ∃ opcode, Opcode.ofId? op.opcode = some opcode ∧ OpFits b limits (p.heightAt b ip) op opcode

/-- Every control-flow op of a start is left as many words as it needs. -/
def Answered (p : Start) : Prop :=
  ∀ (ip : Nat) (op : Op) (f : Flow), (p.ops b)[ip]? = some op →
    Opcode.ofId? op.opcode = some (.flow f) →
    f.needed op.operand ≤ (targetOf op.operand).final b

/-- Some place of what a start reaches has the given height. -/
def Attains (p : Start) (n : Nat) : Prop := ∃ q ip, Reaches b p q ∧ n = q.heightAt b ip

/-- Everything that a start reaches exists, fits and is answered. -/
def Certified (p : Start) : Prop :=
  ∀ q, Reaches b p q → q.source < b.sources.length ∧ Fits b limits q ∧ Answered b q

variable {b limits}

theorem Reaches.refl (p : Start) : Reaches b p p := Relation.ReflTransGen.refl

theorem Reaches.tail {p q r : Start} (h : Reaches b p q) (hc : Calls b q r) : Reaches b p r :=
  Relation.ReflTransGen.tail h hc

theorem Reaches.head {p q r : Start} (h : Reaches b q r) (hc : Calls b p q) : Reaches b p r :=
  Relation.ReflTransGen.head hc h

theorem Attains.max {p : Start} {m n : Nat} (hm : Attains b p m) (hn : Attains b p n) :
    Attains b p (Nat.max m n) := by
  rcases Nat.le_total n m with hle | hle
  · rwa [show Nat.max m n = m from Nat.max_eq_left hle]
  · rwa [show Nat.max m n = n from Nat.max_eq_right hle]

/-- A set of starts that is closed under calls holds all that its members reach. -/
theorem Reaches.mem_of_closed {S : Start → Prop} (hS : ∀ p q, S p → Calls b p q → S q)
    {p q : Start} (h : Reaches b p q) (hp : S p) : S q := by
  induction h with
  | refl => exact hp
  | tail _ hc ih => exact hS _ _ ih hc

end Integrity

end ExprMachine
