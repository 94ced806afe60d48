/-!
# Outcomes

What holds of the value and what holds of the fault of something that may fail. Statements about a
whole run, an analysis or a deployed bundle are of this form, so that a failure is described as
closely as a success.
-/

namespace ExprMachine

/-- `Q` holds of the value, or `E` of the fault. -/
def Outcome {ε α : Type} (x : Except ε α) (Q : α → Prop) (E : ε → Prop) : Prop :=
  match x with
  | .ok a => Q a
  | .error e => E e

theorem Outcome.mono {ε α : Type} {x : Except ε α} {Q Q' : α → Prop} {E E' : ε → Prop}
    (h : Outcome x Q E) (hq : ∀ a, Q a → Q' a) (he : ∀ e, E e → E' e) : Outcome x Q' E' := by
  cases x with
  | ok a => exact hq a h
  | error e => exact he e h

theorem Outcome.bind {ε α β : Type} {x : Except ε α} {f : α → Except ε β} {R : α → Prop}
    {Q : β → Prop} {E : ε → Prop} (hx : Outcome x R E) (hf : ∀ a, R a → Outcome (f a) Q E) :
    Outcome (x >>= f) Q E := by
  cases x with
  | ok a => exact hf a hx
  | error e => exact hx

end ExprMachine
