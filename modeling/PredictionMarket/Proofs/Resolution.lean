import PredictionMarket.Resolution
import PredictionMarket.Proofs.Payout

/-!
# Every resolution pays

A resolution that a market accepts has a payout vector: what an answer leads to has one amount for
each outcome, and the amounts sum up to the denomination, so the check that stands before each
payout lets it pass. An invalid market has one as well, as long as there is room for it.
-/

namespace PredictionMarket

namespace Numerator

/-- Whether a resolution has a payout vector. -/
def Pays (numerator : Numerator) (outcomes : Nat) (denomination : Int) : Prop :=
  ∃ vector, numerator.vector outcomes denomination = .ok vector

/-- The amounts of a computed vector are its entries, if none is negative. -/
theorem amounts_map_int {vector amounts : List Int}
    (h : Numerator.amounts (vector.map .int) = .ok amounts) :
    amounts = vector ∧ ∀ v ∈ vector, 0 ≤ v := by
  induction vector generalizing amounts with
  | nil =>
    simp only [Numerator.amounts, List.map_nil, List.mapM_nil, pure, Except.pure,
      Except.ok.injEq] at h
    subst h
    simp
  | cons v vector ih =>
    simp only [Numerator.amounts, List.map_cons, List.mapM_cons, bind_eq_ok, pure, Except.pure,
      Except.ok.injEq] at h
    obtain ⟨amount, hamount, rest, hrest, rfl⟩ := h
    obtain ⟨rfl, hnonneg⟩ := ih hrest
    by_cases hv : v < 0
    · simp [amount?, hv] at hamount
    · simp only [amount?, hv, if_false, Except.ok.injEq] at hamount
      subst hamount
      refine ⟨rfl, fun w hw => ?_⟩
      rcases List.mem_cons.1 hw with rfl | hw
      · omega
      · exact hnonneg w hw

/-- Entries that are not negative are amounts. -/
theorem amounts_eq_ok {vector : List Int} (h : ∀ v ∈ vector, 0 ≤ v) :
    Numerator.amounts (vector.map .int) = .ok vector := by
  induction vector with
  | nil => rfl
  | cons v vector ih =>
    have hv : amount? (.int v) = some v := by
      rw [amount?, if_neg (not_lt.2 (h v List.mem_cons_self))]
    have hrest := ih fun w hw => h w (List.mem_cons_of_mem _ hw)
    rw [Numerator.amounts] at hrest
    rw [Numerator.amounts, List.map_cons, List.mapM_cons, hv]
    simp only [ok_bind, hrest]
    rfl

/-- A computed vector becomes the resolution as it is. -/
theorem ofVector_ok {vector : List Int} {numerator : Numerator}
    (h : ofVector vector = .ok numerator) :
    numerator = .valid vector ∧ ∀ v ∈ vector, 0 ≤ v := by
  simp only [ofVector, ofValues, bind_eq_ok, mapError_eq_ok, pure, Except.pure,
    Except.ok.injEq] at h
  obtain ⟨_, -, amounts, hamounts, rfl⟩ := h
  obtain ⟨rfl, hnonneg⟩ := amounts_map_int hamounts
  exact ⟨rfl, hnonneg⟩

/-- A vector of amounts becomes a resolution. -/
theorem ofVector_eq_ok {vector : List Int} (hsome : vector ≠ [])
    (hnonneg : ∀ v ∈ vector, 0 ≤ v) : ofVector vector = .ok (.valid vector) := by
  have hempty : ¬(vector.map Value.int).isEmpty = true := by
    simpa using hsome
  rw [ofVector, ofValues, refuseIf_bind, if_neg hempty, amounts_eq_ok hnonneg]
  rfl

/-- A resolution by a vector that divides the denomination pays by it. -/
theorem vector_valid_eq_ok {vector : List Int} {outcomes : Nat} {denomination : Int}
    (h : Divides vector outcomes denomination) :
    (valid vector).vector outcomes denomination = .ok vector := by
  have hlength : ¬((vector.map Value.int).length : Int) ≠ outcomes := by
    rw [List.length_map, h.length_eq, not_not]
  have hsum : ¬Amounts.sum vector ≠ denomination := not_not.2 h.sum_eq
  rw [Numerator.vector, checkVector, refuseIf_bind, if_neg hlength, amounts_eq_ok h.nonneg]
  simp only [Except.mapError, ok_bind, refuseIf_bind, if_neg hsum]
  rfl

/-- A resolution by a vector pays by just this vector. -/
theorem vector_valid_ok {values vector : List Int} {outcomes : Nat} {denomination : Int}
    (h : (valid values).vector outcomes denomination = .ok vector) : vector = values := by
  simp only [Numerator.vector, checkVector, bind_eq_ok, refuseIf_eq_ok, mapError_eq_ok, pure,
    Except.pure, Except.ok.injEq] at h
  obtain ⟨_, -, _, hamounts, _, -, rfl⟩ := h
  exact (amounts_map_int hamounts).1

/-- An invalid market pays, if there is room for its vector. -/
theorem pays_invalid {outcomes : Nat} (hsome : 0 < outcomes) (hroom : (outcomes : Int) ≤ mostItems)
    (denomination : Int) : invalid.Pays outcomes denomination := by
  obtain ⟨n, rfl⟩ : ∃ n, outcomes = n + 1 := ⟨outcomes - 1, by omega⟩
  have hzero : ¬((n + 1 : Nat) : Int) = 0 := by omega
  have hcount : ¬(((n + 1 : Nat) : Int) < -countBound ∨ countBound ≤ ((n + 1 : Nat) : Int)) := by
    have hbound : countBound = 9223372036854775808 := rfl
    have hmost : mostItems = 4294967296 := rfl
    omega
  unfold Pays
  rw [Numerator.vector, evenVector, refuseIf_bind, if_neg hzero]
  simp only [repeated, refuseIf_bind, if_neg hcount, if_neg (not_lt.2 hroom), Except.mapError,
    ok_bind, pure, Except.pure, Int.toNat_natCast, List.replicate_succ]
  exact ⟨_, rfl⟩

end Numerator

/-- Whether something is a tag at all. -/
def Tag.isKnown : Tag → Bool
  | .unknown _ => false
  | _ => true

namespace Resolution

/-- The tags of a new market are tags, one for each outcome. -/
theorem checkTags_ok {tags : List Tag} {outcomes : Int} {isScalar : Bool} {multiplier : Int}
    {u : Unit} (h : checkTags tags outcomes isScalar multiplier = .ok u) :
    (tags.length : Int) = outcomes ∧ ∀ tag ∈ tags, tag.isKnown = true := by
  unfold checkTags at h
  rw [refuseIf_bind_eq_ok, not_not] at h
  refine ⟨h.1, ?_⟩
  obtain ⟨-, h⟩ := h
  cases isScalar with
  | true =>
    simp only [if_true, refuseIf_bind_eq_ok] at h
    obtain ⟨-, h⟩ := h
    split at h
    · simp [Tag.isKnown]
    · cases h
  | false =>
    simp only [Bool.false_eq_true, if_false, bind_eq_ok] at h
    obtain ⟨labels, hlabels, -⟩ := h
    clear * - hlabels
    induction tags generalizing labels with
    | nil => simp
    | cons tag tags ih =>
      simp only [List.mapM_cons, bind_eq_ok] at hlabels
      obtain ⟨_, hlabel, _, hrest, -⟩ := hlabels
      refine List.forall_mem_cons.2 ⟨?_, ih _ hrest⟩
      cases tag with
      | label _ | number _ => rfl
      | unknown _ => cases hlabel

/-- The vector for a label gives the denomination to a single outcome. -/
theorem labelVector_ok {label : Text} {tags : List Tag} {denomination : Int} {vector : List Int}
    (h : labelVector label tags denomination = .ok vector) :
    vector.length = tags.length ∧ Amounts.sum vector = denomination := by
  unfold labelVector at h
  split at h
  · next i hfound =>
    cases h
    have hi : i < tags.length := by
      obtain ⟨hlt, -⟩ := List.findIdx?_eq_some_iff_getElem.1 hfound
      exact hlt
    refine ⟨by simp, ?_⟩
    rw [Amounts.sum_eq, List.sum_set, List.length_replicate, if_pos hi, List.take_replicate,
      List.drop_replicate]
    simp
  · cases h

/-- The vector for a number divides the denomination between two outcomes. -/
theorem scalarVector_ok {answer lower upper : FixedPoint} {denomination multiplier : Int}
    {vector : List Int}
    (h : scalarVector answer lower upper denomination multiplier = .ok vector) :
    vector.length = 2 ∧ Amounts.sum vector = denomination := by
  simp only [scalarVector, bind_eq_ok, pure, Except.pure, Except.ok.injEq] at h
  obtain ⟨_, -, _, -, _, -, _, -, rfl⟩ := h
  refine ⟨rfl, ?_⟩
  rw [Amounts.sum_eq, List.sum_cons, List.sum_singleton]
  ring

/-- An answer that resolves a market with one tag for each outcome leads to a payout. -/
theorem resolve_ok {answer : Answer} {tags : List Tag} {denomination : Int} {isScalar : Bool}
    {multiplier : Int} {numerator : Numerator} (hsome : 0 < tags.length)
    (hroom : (tags.length : Int) ≤ mostItems)
    (h : resolve answer tags denomination isScalar multiplier = .ok numerator) :
    numerator.Pays tags.length denomination := by
  cases answer with
  | invalid =>
    cases h
    exact Numerator.pays_invalid hsome hroom denomination
  | unknown type => cases h
  | label label =>
    simp only [resolve, bind_eq_ok, mapError_eq_ok] at h
    obtain ⟨_, -, vector, hvector, h⟩ := h
    obtain ⟨hlength, hsum⟩ := labelVector_ok hvector
    obtain ⟨rfl, hnonneg⟩ := Numerator.ofVector_ok h
    exact ⟨vector, Numerator.vector_valid_eq_ok ⟨hlength, hnonneg, hsum⟩⟩
  | number n =>
    simp only [resolve, bind_eq_ok] at h
    obtain ⟨_, -, _, -, h⟩ := h
    split at h
    · simp only [bind_eq_ok, mapError_eq_ok] at h
      obtain ⟨vector, hvector, h⟩ := h
      obtain ⟨hlength, hsum⟩ := scalarVector_ok hvector
      obtain ⟨rfl, hnonneg⟩ := Numerator.ofVector_ok h
      exact ⟨vector, Numerator.vector_valid_eq_ok ⟨hlength, hnonneg, hsum⟩⟩
    · cases h
    · cases h

end Resolution

end PredictionMarket
