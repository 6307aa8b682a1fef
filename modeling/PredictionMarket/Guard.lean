/-!
# Guards

Operations test their arguments one after another and stop at the first that fails. A guard is one
such test.
-/

namespace PredictionMarket

/-- Stops with the error if the condition holds. -/
def refuseIf {ε : Type} (condition : Prop) [Decidable condition] (e : ε) : Except ε Unit :=
  if condition then .error e else .ok ()

/-- A guard in front of a computation is a choice between the error and the computation. -/
theorem refuseIf_bind {ε α : Type} (condition : Prop) [Decidable condition] (e : ε)
    (next : Unit → Except ε α) :
    (refuseIf condition e >>= next) = if condition then .error e else next () := by
  unfold refuseIf
  split <;> rfl

/-- A computation after a value is the computation at the value. -/
theorem ok_bind {ε α β : Type} (a : α) (next : α → Except ε β) :
    ((Except.ok a : Except ε α) >>= next) = next a := rfl

/-- Nothing is computed after an error. -/
theorem error_bind {ε α β : Type} (e : ε) (next : α → Except ε β) :
    ((Except.error e : Except ε α) >>= next) = .error e := rfl

/-- A guard is passed exactly when its condition fails. -/
theorem refuseIf_eq_ok {ε : Type} (condition : Prop) [Decidable condition] (e : ε) (u : Unit) :
    refuseIf condition e = .ok u ↔ ¬condition := by
  unfold refuseIf
  split <;> simp_all

/-- What stands behind a guard succeeds where the condition fails. -/
theorem refuseIf_bind_eq_ok {ε α : Type} (condition : Prop) [Decidable condition] (e : ε)
    (next : Unit → Except ε α) (b : α) :
    (refuseIf condition e >>= next) = .ok b ↔ ¬condition ∧ next () = .ok b := by
  rw [refuseIf_bind]
  split <;> simp_all

/-- What succeeds in two stages succeeds in both. -/
theorem bind_eq_ok {ε α β : Type} (first : Except ε α) (next : α → Except ε β) (b : β) :
    (first >>= next) = .ok b ↔ ∃ a, first = .ok a ∧ next a = .ok b := by
  cases first with
  | error e => simp [error_bind]
  | ok a => simp [ok_bind]

/-- A changed result is the change of a result. -/
theorem map_eq_ok {ε α β : Type} (x : Except ε α) (f : α → β) (b : β) :
    x.map f = .ok b ↔ ∃ a, x = .ok a ∧ f a = b := by
  cases x with
  | error e => simp [Except.map]
  | ok a => simp [Except.map]

/-- Renaming an error changes no success. -/
theorem mapError_eq_ok {ε δ α : Type} (x : Except ε α) (f : ε → δ) (a : α) :
    x.mapError f = .ok a ↔ x = .ok a := by
  cases x with
  | error e => exact ⟨nofun, nofun⟩
  | ok b =>
    show Except.ok b = Except.ok a ↔ _
    rw [Except.ok.injEq, Except.ok.injEq]

end PredictionMarket
