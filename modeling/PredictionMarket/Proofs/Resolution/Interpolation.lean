import PredictionMarket.Proofs.Curve
import PredictionMarket.Proofs.Guard
import PredictionMarket.Proofs.Resolution

/-!
# A scalar market interpolates

The resolver never forms a signed integer. It moves the bounds and the answer along the line until
none of them needs a sign, by a different rule for each combination of signs, and it treats an answer
outside the bounds on the way. This module shows what all the rules have in common: they keep the
distances. So the short side gets what signed arithmetic would give it, its distance from the upper
bound after the answer has been clamped, in proportion to the distance between the bounds.
-/

namespace PredictionMarket.Resolution

/-! ## Signed integers -/

/-- The integer that a magnitude with a sign stands for. -/
def Signed.toInt (s : Signed) : Int :=
  if s.negative then -s.magnitude else s.magnitude

/-- A sign on zero does not matter. -/
theorem Signed.toInt_of_positive {magnitude : Int} (h : 0 ≤ magnitude) (negative : Bool) :
    Signed.toInt ⟨magnitude, negative && decide (0 < magnitude)⟩ =
      Signed.toInt ⟨magnitude, negative⟩ := by
  by_cases hpositive : 0 < magnitude
  · simp only [hpositive, decide_true, Bool.and_true]
  · have hzero : magnitude = 0 := by omega
    subst hzero
    cases negative <;> rfl

/-- The integer that a number stands for in units of a multiplier: its magnitude is truncated
towards zero, and the sign is applied to what remains. -/
def inUnits (number : FixedPoint) (multiplier : Int) : Int :=
  Signed.toInt ⟨(number.value * multiplier).tdiv number.multiplier, number.negative⟩

/-- A magnitude can be expressed in other units if both multipliers are positive. -/
theorem exists_rescale (value : Int) {fromMultiplier toMultiplier : Int}
    (hfrom : 0 < fromMultiplier) (hto : 0 < toMultiplier) :
    ∃ scaled, rescale value fromMultiplier toMultiplier = .ok scaled := by
  rw [rescale, refuseIf_bind, if_neg (by omega)]
  exact ⟨_, rfl⟩

/-- A magnitude that has been rescaled had positive multipliers. -/
theorem rescale_ok {value fromMultiplier toMultiplier scaled : Int}
    (h : rescale value fromMultiplier toMultiplier = .ok scaled) :
    0 < fromMultiplier ∧ 0 < toMultiplier := by
  rw [rescale, refuseIf_bind_eq_ok] at h
  obtain ⟨hpositive, -⟩ := h
  omega

/-- A magnitude is rescaled by rounding down. -/
theorem rescale_eq_floorDiv (value : Int) {fromMultiplier toMultiplier : Int}
    (hfrom : 0 < fromMultiplier) (hto : 0 < toMultiplier) :
    rescale value fromMultiplier toMultiplier =
      .ok (Curve.floorDiv (value * toMultiplier) fromMultiplier) := by
  rw [rescale, refuseIf_bind, if_neg (by omega)]
  by_cases hsame : fromMultiplier = toMultiplier
  · subst hsame
    rw [if_pos rfl, Curve.floorDiv_eq_ediv _ hfrom.le, Int.mul_ediv_cancel _ hfrom.ne']
    rfl
  · rw [if_neg hsame]
    rfl

/-- A magnitude is rescaled by truncation. -/
theorem rescale_eq_tdiv {value fromMultiplier toMultiplier : Int} (hvalue : 0 ≤ value)
    (hfrom : 0 < fromMultiplier) (hto : 0 < toMultiplier) :
    rescale value fromMultiplier toMultiplier =
      .ok ((value * toMultiplier).tdiv fromMultiplier) := by
  have hproduct : 0 ≤ value * toMultiplier := mul_nonneg hvalue hto.le
  rw [rescale_eq_floorDiv value hfrom hto, Curve.floorDiv_eq_ediv _ hfrom.le,
    Int.tdiv_eq_ediv_of_nonneg hproduct]

/-- What a magnitude is rescaled to is the magnitude of its number in the new units. -/
theorem inUnits_of_rescale {number : FixedPoint} {multiplier scaled : Int}
    (hvalue : 0 ≤ number.value)
    (h : rescale number.value number.multiplier multiplier = .ok scaled) :
    0 ≤ scaled ∧ inUnits number multiplier = Signed.toInt ⟨scaled, number.negative⟩ := by
  obtain ⟨hfrom, hto⟩ := rescale_ok h
  rw [rescale_eq_tdiv hvalue hfrom hto, Except.ok.injEq] at h
  subst h
  exact ⟨Int.tdiv_nonneg (mul_nonneg hvalue hto.le) hfrom.le, rfl⟩

/-! ## The line -/

/-- Two bounds as the check leaves them: an upper bound below zero has a lower bound below zero, and
the bounds ascend. -/
structure Encloses (lower upper : Signed) : Prop where
  lower_nonneg : 0 ≤ lower.magnitude
  upper_nonneg : 0 ≤ upper.magnitude
  same_side : upper.negative = true → lower.negative = true
  ascending : lower.toInt < upper.toInt

/-- The shift keeps the distance between the bounds. -/
theorem Encloses.span_shift {lower upper : Signed} (h : Encloses lower upper) (point : Signed) :
    (shift lower upper point).high - (shift lower upper point).low =
      upper.toInt - lower.toInt := by
  have hside := h.same_side
  rcases lower with ⟨l, _ | _⟩ <;> rcases upper with ⟨u, _ | _⟩ <;>
    simp only [shift, Signed.toInt]
  · rfl
  · cases hside rfl
  · simp
  · simp
    omega

/-- The shift leaves something between the bounds. -/
theorem Encloses.low_lt_high {lower upper : Signed} (h : Encloses lower upper) (point : Signed) :
    (shift lower upper point).low < (shift lower upper point).high := by
  have hspan := h.span_shift point
  have hascending := h.ascending
  omega

/-- The shift keeps the distance of the point from the upper bound, once the point is clamped
between the bounds. -/
theorem Encloses.clamped_shift {lower upper : Signed} (h : Encloses lower upper) (point : Signed)
    (hpoint : 0 ≤ point.magnitude) :
    (shift lower upper point).high -
        min (max (shift lower upper point).point (shift lower upper point).low)
          (shift lower upper point).high =
      upper.toInt - min (max point.toInt lower.toInt) upper.toInt := by
  obtain ⟨hl, hu, hside, hascending⟩ := h
  rcases lower with ⟨l, lowerSign⟩
  rcases upper with ⟨u, upperSign⟩
  rcases point with ⟨p, pointSign⟩
  simp only [Signed.toInt] at hl hu hpoint hascending ⊢
  cases lowerSign with
  | false =>
    cases upperSign with
    | true => cases hside rfl
    | false =>
      cases pointSign with
      | false => rfl
      | true =>
        -- An answer below zero lies below both bounds.
        simp [shift] at hascending ⊢
        omega
  | true =>
    cases pointSign with
    | false => cases upperSign <;> simp [shift] at hascending ⊢ <;> omega
    | true =>
      -- An answer below the lower bound is moved onto it before the shift.
      by_cases hbelow : l < p <;> cases upperSign <;> simp [shift, hbelow] at hascending ⊢ <;> omega

/-! ## Bounds of a market -/

/-- The rules for each combination of signs say that the bounds ascend, if neither of them is zero
with a minus sign. -/
theorem ordered_iff_lt {lower upper : Signed} (hlower : 0 ≤ lower.magnitude)
    (hupper : 0 ≤ upper.magnitude)
    (hlowerZero : ¬(lower.negative = true ∧ lower.magnitude = 0))
    (hupperZero : ¬(upper.negative = true ∧ upper.magnitude = 0)) :
    ¬((!lower.negative) = true ∧ (!upper.negative) = true ∧ upper.magnitude ≤ lower.magnitude) ∧
        ¬((!lower.negative) = true ∧ upper.negative = true) ∧
        ¬(lower.negative = true ∧ upper.negative = true ∧ lower.magnitude ≤ upper.magnitude) ↔
      lower.toInt < upper.toInt := by
  rcases lower with ⟨l, lowerSign⟩
  rcases upper with ⟨u, upperSign⟩
  simp only [Signed.toInt] at hlower hupper hlowerZero hupperZero ⊢
  cases lowerSign with
  | false =>
    cases upperSign with
    | false => simp
    | true =>
      -- An upper bound below zero lies below a lower bound that is not.
      simp at hupperZero ⊢
      omega
  | true =>
    cases upperSign with
    | false =>
      simp at hlowerZero ⊢
      omega
    | true => simp

/-- Bounds enclose a range if they ascend and the upper one is not zero with a minus sign. -/
theorem encloses_iff_lt {lower upper : Signed} (hlower : 0 ≤ lower.magnitude)
    (hupper : 0 ≤ upper.magnitude)
    (hupperZero : ¬(upper.negative = true ∧ upper.magnitude = 0)) :
    Encloses lower upper ↔ lower.toInt < upper.toInt := by
  refine ⟨fun h => h.ascending, fun hascending => ⟨hlower, hupper, fun hsign => ?_, hascending⟩⟩
  by_contra hpositive
  have hmagnitude : upper.magnitude ≠ 0 := fun hzero => hupperZero ⟨hsign, hzero⟩
  rw [Signed.toInt, Signed.toInt, if_neg hpositive, if_pos hsign] at hascending
  omega

/-- The rules for each combination of signs say that the bounds enclose a range, if neither of them
is zero with a minus sign. -/
theorem ordered_iff_encloses {lower upper : Signed} (hlower : 0 ≤ lower.magnitude)
    (hupper : 0 ≤ upper.magnitude)
    (hlowerZero : ¬(lower.negative = true ∧ lower.magnitude = 0))
    (hupperZero : ¬(upper.negative = true ∧ upper.magnitude = 0)) :
    ¬((!lower.negative) = true ∧ (!upper.negative) = true ∧ upper.magnitude ≤ lower.magnitude) ∧
        ¬((!lower.negative) = true ∧ upper.negative = true) ∧
        ¬(lower.negative = true ∧ upper.negative = true ∧ lower.magnitude ≤ upper.magnitude) ↔
      Encloses lower upper :=
  (ordered_iff_lt hlower hupper hlowerZero hupperZero).trans
    (encloses_iff_lt hlower hupper hupperZero).symm

/-- A bound passes its check if it is a magnitude and not zero with a minus sign. -/
theorem checkBound_eq_ok {name : String} {bound : FixedPoint} :
    checkBound name bound = .ok () ↔
      0 ≤ bound.value ∧ ¬(bound.negative = true ∧ bound.value = 0) := by
  rw [checkBound, refuseIf_bind_eq_ok, refuseIf_eq_ok, not_lt]

/-- Bounds that pass the check enclose a range in units of the market. -/
theorem checkBounds_encloses {lower upper : FixedPoint} {multiplier : Int} {u : Unit}
    (h : checkBounds lower upper multiplier = .ok u) :
    ∃ l r, rescale lower.value lower.multiplier multiplier = .ok l ∧
      rescale upper.value upper.multiplier multiplier = .ok r ∧
      inUnits lower multiplier = Signed.toInt ⟨l, lower.negative⟩ ∧
      inUnits upper multiplier = Signed.toInt ⟨r, upper.negative⟩ ∧
      Encloses ⟨l, lower.negative⟩ ⟨r, upper.negative⟩ := by
  simp only [checkBounds, bind_eq_ok, refuseIf_eq_ok] at h
  obtain ⟨_, hlower, _, hupper, l, hl, r, hr, _, hlowerZero, _, hupperZero, _, hboth, _, hcrossed,
    _, hnegative, -⟩ := h
  obtain ⟨hl0, hlowerUnits⟩ := inUnits_of_rescale (checkBound_eq_ok.1 hlower).1 hl
  obtain ⟨hr0, hupperUnits⟩ := inUnits_of_rescale (checkBound_eq_ok.1 hupper).1 hr
  exact ⟨l, r, hl, hr, hlowerUnits, hupperUnits,
    (ordered_iff_encloses hl0 hr0 hlowerZero hupperZero).1 ⟨hboth, hcrossed, hnegative⟩⟩

/-- The tags of a scalar market are two bounds that pass the check. -/
theorem checkTags_scalar {tags : List Tag} {outcomes multiplier : Int} {u : Unit}
    (h : checkTags tags outcomes true multiplier = .ok u) :
    ∃ lower upper, tags = [.number lower, .number upper] ∧
      checkBounds lower upper multiplier = .ok u := by
  simp only [checkTags, refuseIf_bind_eq_ok, if_true] at h
  obtain ⟨-, -, h⟩ := h
  split at h
  · next lower upper =>
    rw [refuseIf_bind_eq_ok] at h
    exact ⟨lower, upper, rfl, h.2⟩
  · cases h

/-! ## Payouts -/

/-- The amount of the short side: its distance from the upper bound in proportion to the distance
between the bounds, rounded down, after the answer has been clamped between them. -/
def shortAmount (answer lower upper denomination : Int) : Int :=
  ((upper - min (max answer lower) upper) * denomination).fdiv (upper - lower)

/-- The short side gets a part of the denomination, and the long side gets the rest. -/
theorem divides_shortAmount {lower upper denomination : Int} (hascending : lower < upper)
    (hdenomination : 0 ≤ denomination) (answer : Int) :
    Numerator.Divides [shortAmount answer lower upper denomination,
      denomination - shortAmount answer lower upper denomination] 2 denomination := by
  have hwhole : 0 < upper - lower := by omega
  have hpart : 0 ≤ upper - min (max answer lower) upper := by omega
  have hle : upper - min (max answer lower) upper ≤ upper - lower := by omega
  have hshort : 0 ≤ shortAmount answer lower upper denomination :=
    Curve.floorDiv_nonneg (mul_nonneg hpart hdenomination) hwhole.le
  have hlong : shortAmount answer lower upper denomination ≤ denomination := by
    refine Curve.floorDiv_le hwhole ?_
    rw [mul_comm denomination]
    exact mul_le_mul_of_nonneg_right hle hdenomination
  refine ⟨rfl, ?_, ?_⟩
  · simp only [List.forall_mem_cons]
    exact ⟨hshort, by omega, by simp⟩
  · rw [Amounts.sum_eq, List.sum_cons, List.sum_singleton]
    omega

/-- Between accepted bounds, a magnitude pays the two sides by the signed integers that the bounds
and the answer stand for. -/
theorem scalarVector_of_checked {answer lower upper : FixedPoint} {multiplier : Int} {u : Unit}
    (hbounds : checkBounds lower upper multiplier = .ok u) (hvalue : 0 ≤ answer.value)
    (hanswer : 0 < answer.multiplier) (denomination : Int) :
    inUnits lower multiplier < inUnits upper multiplier ∧
      scalarVector answer lower upper denomination multiplier =
        .ok [shortAmount (inUnits answer multiplier) (inUnits lower multiplier)
            (inUnits upper multiplier) denomination,
          denomination - shortAmount (inUnits answer multiplier) (inUnits lower multiplier)
            (inUnits upper multiplier) denomination] := by
  obtain ⟨l, r, hl, hr, hlower, hupper, hencloses⟩ := checkBounds_encloses hbounds
  obtain ⟨a, ha⟩ := exists_rescale answer.value hanswer (rescale_ok hl).2
  obtain ⟨ha0, hpoint⟩ := inUnits_of_rescale hvalue ha
  have hascending := hencloses.ascending
  rw [hlower, hupper, hpoint, ← Signed.toInt_of_positive ha0]
  refine ⟨hascending, ?_⟩
  simp only [scalarVector, hl, hr, ha, ok_bind, refuseIf_bind]
  have hspan := hencloses.span_shift ⟨a, answer.negative && decide (0 < a)⟩
  have hclamped := hencloses.clamped_shift ⟨a, answer.negative && decide (0 < a)⟩ ha0
  rw [if_neg (by omega), hspan, hclamped]
  rfl

/-- Between bounds that are given as tags, a number is answered as between the bounds themselves. -/
theorem answerVector_number {answer lower upper : FixedPoint} {denomination multiplier : Int}
    {vector : List Int} (h : scalarVector answer lower upper denomination multiplier = .ok vector) :
    answerVector (.number answer) (.number lower) (.number upper) denomination multiplier =
      .ok vector := by
  have hrescaled := h
  simp only [scalarVector, bind_eq_ok] at hrescaled
  obtain ⟨l, hl, r, hr, -⟩ := hrescaled
  simp only [answerVector, boundOf, ok_bind, hl, hr, h]

/-- The resolution of a scalar market is clamped interpolation of signed integers. Between any two
bounds that the check of new tags lets pass, each number whose magnitude is not negative divides the
denomination between the two sides, the short one by its distance from the upper bound. -/
theorem answer_interpolates {answer lower upper : FixedPoint} {denomination multiplier : Int}
    {u : Unit} (htags : checkTags [.number lower, .number upper] 2 true multiplier = .ok u)
    (hdenomination : 0 ≤ denomination) (hvalue : 0 ≤ answer.value)
    (hanswer : 0 < answer.multiplier) :
    inUnits lower multiplier < inUnits upper multiplier ∧
      ∃ short, short = shortAmount (inUnits answer multiplier) (inUnits lower multiplier)
          (inUnits upper multiplier) denomination ∧
        answerVector (.number answer) (.number lower) (.number upper) denomination multiplier =
          .ok [short, denomination - short] ∧
        Numerator.Divides [short, denomination - short] 2 denomination := by
  obtain ⟨_, _, hsame, hbounds⟩ := checkTags_scalar htags
  obtain ⟨rfl, rfl⟩ : lower = _ ∧ upper = _ := by simpa using hsame
  obtain ⟨hascending, hvector⟩ := scalarVector_of_checked hbounds hvalue hanswer denomination
  exact ⟨hascending, _, rfl, answerVector_number hvector,
    divides_shortAmount hascending hdenomination _⟩

/-- Between -2.5 and 7.5, counted in quarters, the answer -7/3 lies at -9 quarters: the bounds lie at
-10 and at 30, and the short side gets 39 parts in 40, rounded down. -/
theorem answer_interpolates_below_zero :
    checkTags [.number ⟨25, 10, true⟩, .number ⟨75, 10, false⟩] 2 true 4 = .ok () ∧
      inUnits ⟨25, 10, true⟩ 4 = -10 ∧ inUnits ⟨75, 10, false⟩ 4 = 30 ∧
      inUnits ⟨7, 3, true⟩ 4 = -9 ∧
      answerVector (.number ⟨7, 3, true⟩) (.number ⟨25, 10, true⟩) (.number ⟨75, 10, false⟩) 99 4 =
        .ok [96, 3] := by
  have htags : checkTags [.number ⟨25, 10, true⟩, .number ⟨75, 10, false⟩] 2 true 4 = .ok () := rfl
  obtain ⟨-, short, hshort, hvector, -⟩ :=
    @answer_interpolates ⟨7, 3, true⟩ _ _ 99 4 () htags (by decide) (by decide) (by decide)
  have hvalue : short = 96 := hshort
  subst hvalue
  exact ⟨htags, rfl, rfl, rfl, hvector⟩

end PredictionMarket.Resolution
