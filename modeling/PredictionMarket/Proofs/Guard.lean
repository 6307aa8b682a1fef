import PredictionMarket.Guard
import Mathlib.Data.List.Forall2

/-!
# Computations that may fail

A computation on all items of a list succeeds if it succeeds on each. Two computations agree if they
fail with the same error, or succeed with results that are related. Agreement is built up along the
computation, stage by stage, and so is what is known of its errors.
-/

namespace PredictionMarket

/-- A computation on the items of a list succeeds if it succeeds on each of them. -/
theorem mapM_eq_ok {ε α β : Type} {f : α → Except ε β} {items : List α} {results : List β} :
    items.mapM f = .ok results ↔ List.Forall₂ (fun a b => f a = .ok b) items results := by
  induction items generalizing results with
  | nil =>
    rw [List.mapM_nil, List.forall₂_nil_left_iff]
    exact ⟨fun h => (Except.ok.inj h).symm, fun h => congrArg Except.ok h.symm⟩
  | cons a items ih =>
    simp only [List.mapM_cons, bind_eq_ok, ih, List.forall₂_cons_left_iff, pure, Except.pure,
      Except.ok.injEq]
    constructor
    · rintro ⟨b, hb, rest, hrest, rfl⟩
      exact ⟨b, rest, hb, hrest, rfl⟩
    · rintro ⟨b, rest, hb, hrest, rfl⟩
      exact ⟨b, hb, rest, hrest, rfl⟩

/-- Every result of a computation on the items of a list is that of an item. -/
theorem exists_mem_of_mapM {ε α β : Type} {f : α → Except ε β} {items : List α} {results : List β}
    (h : items.mapM f = .ok results) {b : β} (hb : b ∈ results) : ∃ a ∈ items, f a = .ok b := by
  have hall := mapM_eq_ok.1 h
  clear h
  induction hall with
  | nil => cases hb
  | cons ha _ ih =>
    rcases List.mem_cons.1 hb with rfl | hb
    · exact ⟨_, List.mem_cons_self, ha⟩
    · obtain ⟨a, hmem, ha⟩ := ih hb
      exact ⟨a, List.mem_cons_of_mem _ hmem, ha⟩

/-- What may be missing is there for all items of a list if it is for each of them. -/
theorem mapM_eq_some {α β : Type} {f : α → Option β} {items : List α} {results : List β} :
    items.mapM f = some results ↔ List.Forall₂ (fun a b => f a = some b) items results := by
  induction items generalizing results with
  | nil =>
    rw [List.mapM_nil, List.forall₂_nil_left_iff]
    exact ⟨fun h => (Option.some.inj h).symm, fun h => congrArg some h.symm⟩
  | cons a items ih =>
    simp only [List.mapM_cons, Option.bind_eq_bind, Option.bind_eq_some_iff, ih,
      List.forall₂_cons_left_iff, Option.pure_def, Option.some.injEq]
    constructor
    · rintro ⟨b, hb, rest, hrest, rfl⟩
      exact ⟨b, rest, hb, hrest, rfl⟩
    · rintro ⟨b, rest, hb, hrest, rfl⟩
      exact ⟨b, hb, rest, hrest, rfl⟩

/-- Lists with the same results are related if items with the same result are. -/
theorem forall₂_of_mapM {ε α β : Type} {R : α → α → Prop} {f : α → Except ε β}
    (hf : ∀ {a b result}, f a = .ok result → f b = .ok result → R a b) {xs ys : List α}
    {results : List β} (hx : xs.mapM f = .ok results) (hy : ys.mapM f = .ok results) :
    List.Forall₂ R xs ys := by
  rw [mapM_eq_ok] at hx hy
  induction hx generalizing ys with
  | nil =>
    cases hy
    exact .nil
  | cons ha _ ih =>
    cases hy with
    | cons hb hrest => exact .cons (hf ha hb) (ih hrest)

/-- Two computations that fail with the same error, or succeed with related results. -/
inductive Agree {ε α β : Type} (R : α → β → Prop) : Except ε α → Except ε β → Prop
  /-- Both fail, with the same error. -/
  | error (e : ε) : Agree R (.error e) (.error e)
  /-- Both succeed, with related results. -/
  | ok {a : α} {b : β} (related : R a b) : Agree R (.ok a) (.ok b)

namespace Agree

variable {ε α β γ δ : Type} {R : α → β → Prop} {S : γ → δ → Prop}

/-- Computations agree if they agree in their first stage and go on alike from related results. -/
theorem bind {x : Except ε α} {y : Except ε β} {f : α → Except ε γ} {g : β → Except ε δ}
    (h : Agree R x y) (hnext : ∀ {a b}, R a b → Agree S (f a) (g b)) :
    Agree S (x >>= f) (y >>= g) := by
  cases h with
  | error e => exact .error e
  | ok hrelated => exact hnext hrelated

/-- Computations agree if their first stage is the same and they go on alike from what it gives. -/
theorem bind_of_ok (x : Except ε α) {f : α → Except ε γ} {g : α → Except ε δ}
    (hnext : ∀ a, x = .ok a → Agree S (f a) (g a)) : Agree S (x >>= f) (x >>= g) := by
  cases x with
  | error e => exact .error e
  | ok a => exact hnext a rfl

/-- Computations agree if their first stage is the same and they go on alike from all results. -/
theorem bind_same (x : Except ε α) {f : α → Except ε γ} {g : α → Except ε δ}
    (hnext : ∀ a, Agree S (f a) (g a)) : Agree S (x >>= f) (x >>= g) :=
  bind_of_ok x fun a _ => hnext a

/-- Renaming the errors of computations that agree leaves them in agreement. -/
theorem mapError {η : Type} {x : Except ε α} {y : Except ε β} (f : ε → η) (h : Agree R x y) :
    Agree R (x.mapError f) (y.mapError f) := by
  cases h with
  | error e => exact .error (f e)
  | ok hrelated => exact .ok hrelated

/-- A computation agrees with itself. -/
theorem refl (x : Except ε α) : Agree (· = ·) x x := by
  cases x with
  | error e => exact .error e
  | ok a => exact .ok rfl

/-- Computations that agree in all of their results are the same. -/
theorem eq {x y : Except ε α} (h : Agree (· = ·) x y) : x = y := by
  cases h with
  | error e => rfl
  | ok hrelated => rw [hrelated]

end Agree

/-- A computation whose error, if it has one, has a property. -/
def FailsIn {ε α : Type} (P : ε → Prop) (x : Except ε α) : Prop :=
  ∀ e, x = .error e → P e

namespace FailsIn

variable {ε δ α β : Type} {P : ε → Prop}

/-- What succeeds has no error. -/
theorem of_ok {x : Except ε α} {a : α} (h : x = .ok a) : FailsIn P x := by
  rintro e he
  cases he.symm.trans h

/-- A computation that is an error has that one. -/
theorem of_error {x : Except ε α} {e : ε} (h : x = .error e) (he : P e) : FailsIn P x := by
  intro other hother
  obtain rfl : e = other := Except.error.inj (h.symm.trans hother)
  exact he

/-- A property of the error may be weakened. -/
theorem imp {Q : ε → Prop} {x : Except ε α} (h : FailsIn P x) (hPQ : ∀ e, P e → Q e) :
    FailsIn Q x :=
  fun e he => hPQ e (h e he)

/-- A guard has its error, where its condition holds. -/
theorem refuse {condition : Prop} [Decidable condition] {e : ε} (he : condition → P e) :
    FailsIn P (refuseIf condition e) := by
  unfold refuseIf
  split
  · next h => exact of_error rfl (he h)
  · exact of_ok rfl

/-- The error of a computation in two stages is one of either stage. -/
theorem bind {x : Except ε α} {f : α → Except ε β} (h : FailsIn P x)
    (hnext : ∀ a, x = .ok a → FailsIn P (f a)) : FailsIn P (x >>= f) := by
  cases x with
  | error e => exact of_error rfl (h e rfl)
  | ok a => exact hnext a rfl

/-- The error of a computation on the items of a list is one for an item. -/
theorem mapM {f : α → Except ε β} {items : List α} (h : ∀ a ∈ items, FailsIn P (f a)) :
    FailsIn P (items.mapM f) := by
  induction items with
  | nil => exact of_ok rfl
  | cons a items ih =>
    obtain ⟨ha, hitems⟩ := List.forall_mem_cons.1 h
    rw [List.mapM_cons]
    exact ha.bind fun _ _ => (ih hitems).bind fun _ _ => of_ok rfl

/-- The error of a computation whose errors are renamed has a new name. -/
theorem mapError {Q : δ → Prop} {f : ε → δ} {x : Except ε α} (h : FailsIn (fun e => Q (f e)) x) :
    FailsIn Q (x.mapError f) := by
  cases x with
  | error e => exact of_error rfl (h e rfl)
  | ok a => exact of_ok rfl

end FailsIn

/-- A computation whose error, if it has one, has a property, and whose result, if it succeeds, has
another. -/
structure Ends {ε α : Type} (P : ε → Prop) (Q : α → Prop) (x : Except ε α) : Prop where
  /-- The error has the first property. -/
  error : FailsIn P x
  /-- The result has the second property. -/
  ok : ∀ a, x = .ok a → Q a

namespace Ends

variable {ε α β : Type} {P : ε → Prop} {Q : α → Prop} {R : β → Prop}

/-- A computation with a result that has the property. -/
theorem of_ok {x : Except ε α} {a : α} (h : x = .ok a) (ha : Q a) : Ends P Q x :=
  ⟨.of_ok h, fun _ hother => Except.ok.inj (h.symm.trans hother) ▸ ha⟩

/-- A computation with an error that has the property. -/
theorem of_error {x : Except ε α} {e : ε} (h : x = .error e) (he : P e) : Ends P Q x :=
  ⟨.of_error h he, fun _ hother => nomatch h.symm.trans hother⟩

/-- A computation in two stages ends as its second stage does, unless the first fails. -/
theorem bind {x : Except ε α} {f : α → Except ε β} (h : FailsIn P x)
    (hnext : ∀ a, x = .ok a → Ends P R (f a)) : Ends P R (x >>= f) where
  error := h.bind fun a ha => (hnext a ha).error
  ok b hb := by
    obtain ⟨a, ha, hb⟩ := (bind_eq_ok _ _ _).1 hb
    exact (hnext a ha).ok b hb

end Ends

end PredictionMarket
