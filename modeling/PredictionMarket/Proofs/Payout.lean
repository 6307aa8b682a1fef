import PredictionMarket.Payout
import PredictionMarket.Proofs.Curve

/-!
# What payout vectors sum up to

Whatever the resolution, the vector that a market pays by has one amount for each outcome, and the
amounts sum up to the denomination. A complete set is worth the denomination in every resolution.
-/

namespace PredictionMarket

namespace Numerator

/-- A vector that divides a denomination among outcomes. -/
structure Divides (vector : List Int) (outcomes : Nat) (denomination : Int) : Prop where
  /-- There is one amount for each outcome. -/
  length_eq : vector.length = outcomes
  /-- No amount is negative. -/
  nonneg : ∀ v ∈ vector, 0 ≤ v
  /-- Nothing is left over. -/
  sum_eq : Amounts.sum vector = denomination

/-- The amounts in a list of values are these values, none of them negative. -/
theorem amounts_ok {values : List Value} {vector : List Int} (h : amounts values = .ok vector) :
    vector.length = values.length ∧ ∀ v ∈ vector, 0 ≤ v := by
  induction values generalizing vector with
  | nil =>
    simp only [amounts, List.mapM_nil, pure, Except.pure, Except.ok.injEq] at h
    subst h
    simp
  | cons value values ih =>
    simp only [amounts, List.mapM_cons, bind_eq_ok, pure, Except.pure, Except.ok.injEq] at h
    obtain ⟨amount, hamount, rest, hrest, rfl⟩ := h
    obtain ⟨hlength, hnonneg⟩ := ih hrest
    have hpos : 0 ≤ amount := by
      unfold amount? at hamount
      split at hamount
      · next n hn =>
        cases hamount
        split at hn
        · split at hn
          · cases hn
          · cases hn
            omega
        · cases hn
      · cases hamount
    refine ⟨by simp [hlength], fun v hv => ?_⟩
    rcases List.mem_cons.1 hv with rfl | hv
    · exact hpos
    · exact hnonneg v hv

/-- A vector that passes the check divides the denomination. -/
theorem checkVector_ok {values : List Value} {outcomes : Nat} {denomination : Int}
    {vector : List Int} (h : checkVector values outcomes denomination = .ok vector) :
    Divides vector outcomes denomination := by
  simp only [checkVector, bind_eq_ok, refuseIf_eq_ok, mapError_eq_ok, pure, Except.pure,
    Except.ok.injEq, not_not] at h
  obtain ⟨_, hcount, _, hamounts, _, hsum, rfl⟩ := h
  obtain ⟨hlength, hnonneg⟩ := amounts_ok hamounts
  exact ⟨by omega, hnonneg, hsum⟩

/-- Equal parts with the rest on the first outcome divide the denomination. -/
theorem evenVector_ok {outcomes : Nat} {denomination : Int} {vector : List Int}
    (hdenomination : 0 ≤ denomination) (h : evenVector outcomes denomination = .ok vector) :
    Divides vector outcomes denomination := by
  simp only [evenVector, bind_eq_ok, refuseIf_eq_ok, mapError_eq_ok] at h
  obtain ⟨_, hsome, parts, hparts, h⟩ := h
  have hcount : (0 : Int) < outcomes := by omega
  have hpart := Curve.floorDiv_nonneg hdenomination hcount.le
  have hrest := Curve.floorDiv_mul_le denomination hcount
  obtain rfl := Curve.repeated_eq_ok hparts
  obtain ⟨n, rfl⟩ : ∃ n : Nat, outcomes = n + 1 := ⟨outcomes - 1, by omega⟩
  generalize Curve.floorDiv denomination ↑(n + 1) = part at *
  simp only [Int.toNat_natCast, List.replicate_succ, pure, Except.pure, Except.ok.injEq] at h
  subst h
  refine ⟨by simp, fun v hv => ?_, ?_⟩
  · rcases List.mem_cons.1 hv with rfl | hv
    · omega
    · rw [List.eq_of_mem_replicate hv]
      exact hpart
  · rw [Amounts.sum_eq, List.sum_cons, List.sum_replicate, nsmul_eq_mul]
    push_cast
    ring

/-- What has a vector is resolved. -/
theorem isResolved_of_vector {numerator : Numerator} {outcomes : Nat} {denomination : Int}
    {vector : List Int} (h : numerator.vector outcomes denomination = .ok vector) :
    numerator.isResolved = true := by
  cases numerator with
  | unresolved => cases h
  | invalid | valid _ => rfl

/-- Every resolution divides the denomination. -/
theorem vector_ok {numerator : Numerator} {outcomes : Nat} {denomination : Int}
    {vector : List Int} (hdenomination : 0 ≤ denomination)
    (h : numerator.vector outcomes denomination = .ok vector) :
    Divides vector outcomes denomination := by
  cases numerator with
  | unresolved => cases h
  | invalid => exact evenVector_ok hdenomination h
  | valid values => exact checkVector_ok h

end Numerator

end PredictionMarket
