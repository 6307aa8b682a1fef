import PredictionMarket.Proofs.Resolution.Interpolation
import Mathlib.Algebra.Order.Field.Rat
import Mathlib.Tactic.NormNum

/-!
# Greater answers pay the long side more

One rational number has many spellings, with other multipliers, and zero has two signs. The resolver
truncates the magnitude of an answer to units of the market before it looks at the sign, so that
numbers above zero are rounded down and numbers below zero are rounded up. This keeps their order,
and so do the clamp and the interpolation. The payout therefore depends on the rational number
alone, and the long side gets no less for a greater one.
-/

namespace PredictionMarket

/-- The rational number that a number with a sign and a multiplier spells. -/
def FixedPoint.toRat (number : FixedPoint) : ℚ :=
  (Resolution.Signed.toInt ⟨number.value, number.negative⟩ : ℚ) / number.multiplier

namespace Resolution

/-! ## Units of the market -/

/-- Above zero, a quotient truncated towards zero does not fall where the exact one does not. -/
theorem tdiv_le_tdiv_of_nonneg {a b c d : Int} (ha : 0 ≤ a) (hb : 0 < b) (hc : 0 ≤ c) (hd : 0 < d)
    (h : a * d ≤ c * b) : a.tdiv b ≤ c.tdiv d := by
  have hquotients := Curve.floorDiv_le_floorDiv hb hd h
  rwa [Curve.floorDiv_eq_ediv _ hb.le, Curve.floorDiv_eq_ediv _ hd.le,
    ← Int.tdiv_eq_ediv_of_nonneg ha, ← Int.tdiv_eq_ediv_of_nonneg hc] at hquotients

/-- A quotient truncated towards zero does not fall where the exact one does not. -/
theorem tdiv_le_tdiv {a b c d : Int} (hb : 0 < b) (hd : 0 < d) (h : a * d ≤ c * b) :
    a.tdiv b ≤ c.tdiv d := by
  rcases le_or_gt 0 a with ha | ha
  · have hc : 0 ≤ c := nonneg_of_mul_nonneg_left ((mul_nonneg ha hd.le).trans h) hb
    exact tdiv_le_tdiv_of_nonneg ha hb hc hd h
  · rcases le_or_gt 0 c with hc | hc
    · have hopposite := Int.tdiv_nonneg (neg_nonneg.2 ha.le) hb.le
      have hquotient := Int.tdiv_nonneg hc hd.le
      rw [Int.neg_tdiv] at hopposite
      omega
    · -- Below zero the opposites are truncated, in the opposite order.
      have hopposites := tdiv_le_tdiv_of_nonneg (neg_nonneg.2 hc.le) hd (neg_nonneg.2 ha.le) hb
        (by linarith)
      rw [Int.neg_tdiv, Int.neg_tdiv] at hopposites
      omega

/-- In units of a multiplier, a number stands for what its rational number comes to, truncated. -/
theorem inUnits_eq_tdiv (number : FixedPoint) (multiplier : Int) :
    inUnits number multiplier =
      (Signed.toInt ⟨number.value, number.negative⟩ * multiplier).tdiv number.multiplier := by
  unfold inUnits Signed.toInt
  cases number.negative with
  | false => rfl
  | true => simp only [if_true, neg_mul, Int.neg_tdiv]

/-- Truncation to units of the market keeps the order of the numbers that are spelled. -/
theorem inUnits_le_inUnits {a b : FixedPoint} {multiplier : Int} (ha : 0 < a.multiplier)
    (hb : 0 < b.multiplier) (hmultiplier : 0 < multiplier) (h : a.toRat ≤ b.toRat) :
    inUnits a multiplier ≤ inUnits b multiplier := by
  have hproducts : Signed.toInt ⟨a.value, a.negative⟩ * b.multiplier ≤
      Signed.toInt ⟨b.value, b.negative⟩ * a.multiplier := by
    rw [FixedPoint.toRat, FixedPoint.toRat, div_le_div_iff₀ (Int.cast_pos.2 ha)
      (Int.cast_pos.2 hb)] at h
    exact_mod_cast h
  have hscaled := mul_le_mul_of_nonneg_right hproducts hmultiplier.le
  rw [inUnits_eq_tdiv, inUnits_eq_tdiv]
  refine tdiv_le_tdiv ha hb ?_
  linarith

/-! ## Payouts -/

/-- The short side gets no more for a greater answer. -/
theorem shortAmount_le_shortAmount {answer greater lower upper denomination : Int}
    (hascending : lower < upper) (hdenomination : 0 ≤ denomination) (h : answer ≤ greater) :
    shortAmount greater lower upper denomination ≤ shortAmount answer lower upper denomination := by
  have hwhole : 0 < upper - lower := by omega
  have hpart : upper - min (max greater lower) upper ≤ upper - min (max answer lower) upper := by
    omega
  refine Curve.floorDiv_le_floorDiv hwhole hwhole ?_
  exact mul_le_mul_of_nonneg_right (mul_le_mul_of_nonneg_right hpart hdenomination) hwhole.le

/-- **Payouts follow the answer**: in a scalar market with accepted tags, a number whose magnitude
is not negative, in whatever positive units, divides the denomination between the two sides. Of two
such numbers the greater one gives the long side no less; and if both spell the same rational
number, they give each side the same. -/
theorem payouts_follow_answer {lower upper : Tag} {denomination multiplier : Int} {u : Unit}
    (htags : checkTags [lower, upper] 2 true multiplier = .ok u) (hdenomination : 0 ≤ denomination)
    {answer greater : FixedPoint} (hanswer : 0 ≤ answer.value) (hunits : 0 < answer.multiplier)
    (hgreater : 0 ≤ greater.value) (hunits' : 0 < greater.multiplier)
    (hle : answer.toRat ≤ greater.toRat) :
    ∃ short long short' long',
      answerVector (.number answer) lower upper denomination multiplier = .ok [short, long] ∧
      answerVector (.number greater) lower upper denomination multiplier = .ok [short', long'] ∧
      long ≤ long' ∧
      (answer.toRat = greater.toRat → short = short' ∧ long = long') := by
  obtain ⟨l, r, hsame, hbounds⟩ := checkTags_scalar htags
  obtain ⟨rfl, rfl⟩ : lower = .number l ∧ upper = .number r := by simpa using hsame
  obtain ⟨hascending, hvector⟩ := scalarVector_of_checked hbounds hanswer hunits denomination
  obtain ⟨-, hvector'⟩ := scalarVector_of_checked hbounds hgreater hunits' denomination
  have hmultiplier : 0 < multiplier := by
    obtain ⟨_, _, hrescaled, -⟩ := checkBounds_encloses hbounds
    exact (rescale_ok hrescaled).2
  have hshort {a b : FixedPoint} (ha : 0 < a.multiplier) (hb : 0 < b.multiplier)
      (h : a.toRat ≤ b.toRat) :=
    shortAmount_le_shortAmount hascending hdenomination (inUnits_le_inUnits ha hb hmultiplier h)
  have hfalls := hshort hunits hunits' hle
  refine ⟨_, _, _, _, answerVector_number hvector, answerVector_number hvector', by omega,
    fun hequal => ?_⟩
  have hrises := hshort hunits' hunits hequal.ge
  omega

/-- Between -2.5 and 7.5, counted in quarters, -7/3 is less than -2, and gives the long side three
parts of 99 where -2 gives it five. Zero gives each side the same with either sign. -/
theorem payouts_follow_answer_below_zero :
    let pay (answer : FixedPoint) :=
      answerVector (.number answer) (.number ⟨25, 10, true⟩) (.number ⟨75, 10, false⟩) 99 4
    checkTags [.number ⟨25, 10, true⟩, .number ⟨75, 10, false⟩] 2 true 4 = .ok () ∧
      (∃ short long short' long', pay ⟨7, 3, true⟩ = .ok [short, long] ∧
        pay ⟨2, 1, true⟩ = .ok [short', long'] ∧ long ≤ long' ∧ long = 3 ∧ long' = 5) ∧
      ∃ short long, pay ⟨0, 1, true⟩ = .ok [short, long] ∧
        pay ⟨0, 9, false⟩ = .ok [short, long] := by
  intro pay
  have htags : checkTags [.number ⟨25, 10, true⟩, .number ⟨75, 10, false⟩] 2 true 4 = .ok () := rfl
  have hless : (⟨7, 3, true⟩ : FixedPoint).toRat ≤ (⟨2, 1, true⟩ : FixedPoint).toRat := by
    norm_num [FixedPoint.toRat, Signed.toInt]
  have hzeros : (⟨0, 1, true⟩ : FixedPoint).toRat = (⟨0, 9, false⟩ : FixedPoint).toRat := by
    norm_num [FixedPoint.toRat, Signed.toInt]
  refine ⟨htags, ?_, ?_⟩
  · obtain ⟨short, long, short', long', hpaid, hpaid', hle, -⟩ :=
      @payouts_follow_answer _ _ 99 4 () htags (by decide) ⟨7, 3, true⟩ ⟨2, 1, true⟩ (by decide)
        (by decide) (by decide) (by decide) hless
    have hlong : pay ⟨7, 3, true⟩ = .ok [96, 3] := rfl
    have hlong' : pay ⟨2, 1, true⟩ = .ok [94, 5] := rfl
    obtain ⟨-, rfl⟩ : 96 = short ∧ 3 = long := by
      simpa using Except.ok.inj (hlong.symm.trans hpaid)
    obtain ⟨-, rfl⟩ : 94 = short' ∧ 5 = long' := by
      simpa using Except.ok.inj (hlong'.symm.trans hpaid')
    exact ⟨short, 3, short', 5, hpaid, hpaid', hle, rfl, rfl⟩
  · obtain ⟨short, long, _, _, hpaid, hpaid', -, hsame⟩ :=
      @payouts_follow_answer _ _ 99 4 () htags (by decide) ⟨0, 1, true⟩ ⟨0, 9, false⟩ (by decide)
        (by decide) (by decide) (by decide) hzeros.le
    obtain ⟨rfl, rfl⟩ := hsame hzeros
    exact ⟨short, long, hpaid, hpaid'⟩

end Resolution

end PredictionMarket
