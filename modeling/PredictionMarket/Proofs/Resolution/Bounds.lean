import PredictionMarket.Proofs.Resolution.Interpolation

/-!
# Which bounds a scalar market may have

The check of a new scalar market goes through one rule after another, a different one for each
combination of signs, about magnitudes that have been rounded down on the way. Together the rules
say no more than this: each bound is a magnitude that does not vanish under its minus sign, and as
signed integers the bounds ascend. The last rule, that something lies between the bounds once they
have been shifted, follows from the others.
-/

namespace PredictionMarket

/-- Whether an error says that nothing lies between the bounds. -/
def ResolutionError.isEmptyRange : ResolutionError → Bool
  | .emptyRange _ _ => true
  | _ => false

namespace Resolution

/-! ## One bound -/

/-- A number that can be a bound of a market with this multiplier. -/
structure IsBound (bound : FixedPoint) (multiplier : Int) : Prop where
  /-- The unit of the number is a part of one. -/
  multiplier_pos : 0 < bound.multiplier
  /-- The magnitude carries no sign of its own. -/
  value_nonneg : 0 ≤ bound.value
  /-- A minus sign does not stand before zero. -/
  value_ne_zero : bound.negative = true → bound.value ≠ 0
  /-- Nor does it once the magnitude is rounded down to units of the market. -/
  rounded_ne_zero : bound.negative = true →
    Curve.floorDiv (bound.value * multiplier) bound.multiplier ≠ 0

section Bound

variable {bound : FixedPoint} {multiplier : Int}

/-- What passes the check of one bound, before and after it is rescaled, is one. -/
theorem isBound_of_checks {name : String} {scaled : Int} (hcheck : checkBound name bound = .ok ())
    (hrescale : rescale bound.value bound.multiplier multiplier = .ok scaled)
    (hzero : ¬(bound.negative = true ∧ scaled = 0)) : IsBound bound multiplier := by
  obtain ⟨hvalue, hsigned⟩ := checkBound_eq_ok.1 hcheck
  obtain ⟨hfrom, hto⟩ := rescale_ok hrescale
  rw [rescale_eq_floorDiv _ hfrom hto, Except.ok.injEq] at hrescale
  subst hrescale
  exact ⟨hfrom, hvalue, fun hsign hvanishes => hsigned ⟨hsign, hvanishes⟩,
    fun hsign hvanishes => hzero ⟨hsign, hvanishes⟩⟩

/-- A bound passes its check. -/
theorem IsBound.checked (h : IsBound bound multiplier) (name : String) :
    checkBound name bound = .ok () :=
  checkBound_eq_ok.2 ⟨h.value_nonneg, fun hzero => h.value_ne_zero hzero.1 hzero.2⟩

/-- A bound can be rescaled, and a minus sign still does not stand before zero. -/
theorem IsBound.exists_scaled (h : IsBound bound multiplier) (hmultiplier : 0 < multiplier) :
    ∃ scaled, rescale bound.value bound.multiplier multiplier = .ok scaled ∧ 0 ≤ scaled ∧
      ¬(bound.negative = true ∧ scaled = 0) ∧
      inUnits bound multiplier = Signed.toInt ⟨scaled, bound.negative⟩ := by
  have hrescale := rescale_eq_floorDiv bound.value h.multiplier_pos hmultiplier
  obtain ⟨hscaled, hunits⟩ := inUnits_of_rescale h.value_nonneg hrescale
  exact ⟨_, hrescale, hscaled, fun hzero => h.rounded_ne_zero hzero.1 hzero.2, hunits⟩

end Bound

/-! ## Two bounds -/

/-- Two bounds are accepted exactly if they ascend in units of the market. -/
theorem checkBounds_eq_ok {lower upper : FixedPoint} {multiplier : Int} :
    checkBounds lower upper multiplier = .ok () ↔
      0 < multiplier ∧ IsBound lower multiplier ∧ IsBound upper multiplier ∧
        inUnits lower multiplier < inUnits upper multiplier := by
  constructor
  · intro h
    obtain ⟨_, _, -, -, hlowerUnits, hupperUnits, hencloses⟩ := checkBounds_encloses h
    simp only [checkBounds, bind_eq_ok, refuseIf_eq_ok] at h
    obtain ⟨_, hlower, _, hupper, l, hl, r, hr, _, hlowerZero, _, hupperZero, -⟩ := h
    refine ⟨(rescale_ok hl).2, isBound_of_checks hlower hl hlowerZero,
      isBound_of_checks hupper hr hupperZero, ?_⟩
    rw [hlowerUnits, hupperUnits]
    exact hencloses.ascending
  · rintro ⟨hmultiplier, hlower, hupper, hascending⟩
    obtain ⟨l, hl, hl0, hlowerZero, hlowerUnits⟩ := hlower.exists_scaled hmultiplier
    obtain ⟨r, hr, hr0, hupperZero, hupperUnits⟩ := hupper.exists_scaled hmultiplier
    rw [hlowerUnits, hupperUnits] at hascending
    have hencloses := (encloses_iff_lt hl0 hr0 hupperZero).2 hascending
    obtain ⟨hboth, hcrossed, hnegative⟩ :=
      (ordered_iff_encloses hl0 hr0 hlowerZero hupperZero).2 hencloses
    simp only [checkBounds, bind_eq_ok, refuseIf_eq_ok]
    exact ⟨(), hlower.checked _, (), hupper.checked _, l, hl, r, hr, (), hlowerZero, (), hupperZero,
      (), hboth, (), hcrossed, (), hnegative, not_le.2 (hencloses.low_lt_high _)⟩

/-- Two bounds that pass all rules for their signs enclose a range, so the check that stands last
does not fail. -/
theorem checkBounds_failsIn (lower upper : FixedPoint) (multiplier : Int) :
    FailsIn (fun e => e.isEmptyRange = false) (checkBounds lower upper multiplier) := by
  have hcheck : ∀ name bound, FailsIn (fun e => e.isEmptyRange = false) (checkBound name bound) :=
    fun name bound => .bind (.refuse fun _ => rfl) fun _ _ => .refuse fun _ => rfl
  have hrescale : ∀ value fromMultiplier, FailsIn (fun e => e.isEmptyRange = false)
      (rescale value fromMultiplier multiplier) :=
    fun value fromMultiplier => .bind (.refuse fun _ => rfl) fun _ _ => .of_ok rfl
  refine .bind (hcheck _ _) fun _ hlower => .bind (hcheck _ _) fun _ hupper => ?_
  refine .bind (hrescale _ _) fun l hl => .bind (hrescale _ _) fun r hr => ?_
  -- Each rule that has been passed says something of the signs and magnitudes.
  refine .bind (.refuse fun _ => rfl) fun _ hlowerZero => ?_
  refine .bind (.refuse fun _ => rfl) fun _ hupperZero => ?_
  refine .bind (.refuse fun _ => rfl) fun _ hboth => ?_
  refine .bind (.refuse fun _ => rfl) fun _ hcrossed => ?_
  refine .bind (.refuse fun _ => rfl) fun _ hnegative => ?_
  refine .refuse fun hempty => ?_
  rw [refuseIf_eq_ok] at hlowerZero hupperZero hboth hcrossed hnegative
  have hl0 := (inUnits_of_rescale (checkBound_eq_ok.1 hlower).1 hl).1
  have hr0 := (inUnits_of_rescale (checkBound_eq_ok.1 hupper).1 hr).1
  have hencloses : Encloses ⟨l, lower.negative⟩ ⟨r, upper.negative⟩ :=
    (ordered_iff_encloses hl0 hr0 hlowerZero hupperZero).1 ⟨hboth, hcrossed, hnegative⟩
  exact absurd (hencloses.low_lt_high _) (not_lt.2 hempty)

/-! ## Tags -/

/-- Two numbers are looked at as bounds once all multipliers are positive. -/
theorem checkTags_numbers (lower upper : FixedPoint) (multiplier : Int) :
    checkTags [.number lower, .number upper] 2 true multiplier =
      (refuseIf (lower.multiplier ≤ 0 ∨ upper.multiplier ≤ 0 ∨ multiplier ≤ 0)
        .multiplierNotPositive >>= fun _ => checkBounds lower upper multiplier) := rfl

/-- Tags of a scalar market are not refused for an empty range. -/
theorem checkTags_failsIn (tags : List Tag) (outcomes multiplier : Int) :
    FailsIn (fun e => e.isEmptyRange = false) (checkTags tags outcomes true multiplier) := by
  unfold checkTags
  refine .bind (.refuse fun _ => rfl) fun _ _ => ?_
  rw [if_pos rfl]
  refine .bind (.refuse fun _ => rfl) fun _ _ => ?_
  split
  · exact .bind (.refuse fun _ => rfl) fun _ _ => checkBounds_failsIn _ _ _
  · exact .of_error rfl rfl

/-- **Scalar creation accepts exactly ordered bounds**: two tags are accepted for a scalar market if
and only if both are numbers that can be bounds of it, and they ascend in units of it. Whatever the
tags, the check for an empty range is not the one that refuses them. -/
theorem scalar_tags_accepted_iff (lower upper : Tag) (multiplier : Int) :
    (checkTags [lower, upper] 2 true multiplier = .ok () ↔
      ∃ l u, lower = .number l ∧ upper = .number u ∧ 0 < multiplier ∧ IsBound l multiplier ∧
        IsBound u multiplier ∧ inUnits l multiplier < inUnits u multiplier) ∧
    ∀ low high, checkTags [lower, upper] 2 true multiplier ≠ .error (.emptyRange low high) := by
  refine ⟨⟨fun h => ?_, ?_⟩, fun low high h => ?_⟩
  · obtain ⟨l, u, htags, hbounds⟩ := checkTags_scalar h
    obtain ⟨rfl, rfl⟩ : lower = .number l ∧ upper = .number u := by simpa using htags
    exact ⟨l, u, rfl, rfl, checkBounds_eq_ok.1 hbounds⟩
  · rintro ⟨l, u, rfl, rfl, hbounds⟩
    have hl := hbounds.2.1.multiplier_pos
    have hu := hbounds.2.2.1.multiplier_pos
    have hmultiplier := hbounds.1
    rw [checkTags_numbers, refuseIf_bind, if_neg (by omega)]
    exact checkBounds_eq_ok.2 hbounds
  · cases checkTags_failsIn _ _ _ _ h

/-- Tenths below zero vanish in a market that counts whole units. -/
example : checkTags [.number ⟨1, 10, true⟩, .number ⟨5, 1, false⟩] 2 true 1 =
    .error (.negativeRoundsToZero "lower" 1) := rfl

end Resolution

end PredictionMarket
