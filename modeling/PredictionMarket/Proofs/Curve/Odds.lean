import PredictionMarket.Proofs.Curve
import Mathlib.Algebra.BigOperators.Ring.List

/-!
# Odds

The price of an outcome is its odds weight, the product of all the other reserves, over the weights
of all outcomes together. The total is a sum of products that leave out one reserve each. It does
not depend on the order of the reserves, so it can be taken apart at the outcome that is traded, and
over the product of the reserves it is the sum of their reciprocals. What prices do in a trade then
comes down to two inequalities between this sum and the product: one when all reserves move by the
same amount, and one when none of them falls.
-/

namespace PredictionMarket.Curve

/-- The odds weights of all outcomes together. -/
def totalOdds (reserves : List Int) : Int :=
  Amounts.sum (oddsWeights reserves)

/-! ## The total, reserve by reserve -/

/-- Without outcomes there are no odds. -/
@[simp] theorem totalOdds_nil : totalOdds [] = 0 := rfl

/-- One more reserve is a factor of every weight but its own. -/
theorem oddsWeights_cons (r : Int) (reserves : List Int) :
    oddsWeights (r :: reserves) = reserves.prod :: (oddsWeights reserves).map (r * ·) := by
  simp only [oddsWeights, List.length_cons, List.range_succ_eq_map, List.map_cons, List.map_map]
  rfl

/-- One more reserve adds a weight and multiplies all the others. -/
theorem totalOdds_cons (r : Int) (reserves : List Int) :
    totalOdds (r :: reserves) = reserves.prod + r * totalOdds reserves := by
  have hothers : ((oddsWeights reserves).map (r * ·)).sum = r * (oddsWeights reserves).sum := by
    simpa using List.sum_map_mul_left (oddsWeights reserves) id r
  rw [totalOdds, totalOdds, oddsWeights_cons, Amounts.sum_eq, Amounts.sum_eq, List.sum_cons,
    hothers]

/-- The order of the outcomes does not matter for the total. -/
theorem totalOdds_perm {reserves reordered : List Int} (h : reserves.Perm reordered) :
    totalOdds reserves = totalOdds reordered := by
  induction h with
  | nil => rfl
  | cons r hperm ih => rw [totalOdds_cons, totalOdds_cons, hperm.prod_eq, ih]
  | swap r s reserves =>
    simp only [totalOdds_cons, List.prod_cons]
    ring
  | trans _ _ ih₁ ih₂ => exact ih₁.trans ih₂

/-- The total at one outcome: its own weight, and its reserve as a factor of all the others. -/
theorem totalOdds_eq {reserves : List Int} {t : Nat} (ht : t < reserves.length) :
    totalOdds reserves =
      oddsWeight reserves t + reserves.getD t 0 * totalOdds (reserves.eraseIdx t) := by
  have hperm := totalOdds_perm (List.getElem_cons_eraseIdx_perm ht)
  rw [← hperm, totalOdds_cons, List.getD_eq_getElem _ _ ht]
  rfl

/-- Positive reserves have odds that are not negative. -/
theorem totalOdds_nonneg {reserves : List Int} (hpos : ∀ r ∈ reserves, 0 < r) :
    0 ≤ totalOdds reserves := by
  induction reserves with
  | nil => exact le_rfl
  | cons r reserves ih =>
    obtain ⟨hr, hrest⟩ := List.forall_mem_cons.1 hpos
    have hprod : 0 < reserves.prod := List.prod_pos hrest
    have hothers : 0 ≤ r * totalOdds reserves := mul_nonneg hr.le (ih hrest)
    rw [totalOdds_cons]
    omega

/-- Among positive reserves every outcome has a positive weight. -/
theorem oddsWeight_pos {reserves : List Int} (hpos : ∀ r ∈ reserves, 0 < r) (t : Nat) :
    0 < oddsWeight reserves t :=
  List.prod_pos fun r hr => hpos r (List.mem_of_mem_eraseIdx hr)

/-- Positive reserves of some outcome have positive odds. -/
theorem totalOdds_pos {reserves : List Int} (hpos : ∀ r ∈ reserves, 0 < r)
    (hsome : reserves ≠ []) : 0 < totalOdds reserves := by
  have hzero : 0 < reserves.length := List.length_pos_of_ne_nil hsome
  have hweight := oddsWeight_pos hpos 0
  have hreserve : 0 < reserves.getD 0 0 := by
    rw [List.getD_eq_getElem _ _ hzero]
    exact hpos _ (List.getElem_mem hzero)
  have hothers : 0 ≤ totalOdds (reserves.eraseIdx 0) :=
    totalOdds_nonneg fun r hr => hpos r (List.mem_of_mem_eraseIdx hr)
  have hrest := mul_nonneg hreserve.le hothers
  rw [totalOdds_eq hzero]
  omega

/-! ## Reserves that move -/

/-- If all reserves move by the same amount, up or down, the relative rise of their product is at
most the amount times the sum of their reciprocals. -/
theorem prod_mul_rise_le {others : List Int} {change : Int} (hothers : ∀ r ∈ others, 0 < r)
    (hmoved : ∀ r ∈ others, 0 < r + change) :
    others.prod * ((others.map (· + change)).prod - others.prod) ≤
      change * totalOdds others * (others.map (· + change)).prod := by
  induction others with
  | nil => simp
  | cons r others ih =>
    obtain ⟨hr, hothers⟩ := List.forall_mem_cons.1 hothers
    obtain ⟨-, hmoved⟩ := List.forall_mem_cons.1 hmoved
    have hrise := ih hothers hmoved
    have hafter : 0 < (others.map (· + change)).prod :=
      List.prod_pos (List.forall_mem_map.2 hmoved)
    have hodds : 0 ≤ totalOdds (r :: others) :=
      totalOdds_nonneg (List.forall_mem_cons.2 ⟨hr, hothers⟩)
    rw [List.map_cons, List.prod_cons, List.prod_cons]
    generalize (others.map (· + change)).prod = after at *
    calc r * others.prod * ((r + change) * after - r * others.prod)
        = r * r * (others.prod * (after - others.prod)) + change * r * others.prod * after := by
          ring
      _ ≤ r * r * (change * totalOdds others * after) + change * r * others.prod * after := by
          have hscaled := mul_le_mul_of_nonneg_left hrise (mul_nonneg hr.le hr.le)
          omega
      _ = change * totalOdds (r :: others) * (r * after) := by
          rw [totalOdds_cons]
          ring
      _ ≤ change * totalOdds (r :: others) * ((r + change) * after) := by
          have hsquare := mul_nonneg (mul_nonneg (mul_self_nonneg change) hodds) hafter.le
          linarith

/-- If no reserve falls, the sum of the reciprocals does not rise. -/
theorem totalOdds_mul_prod_le {small large : List Int} (hpos : ∀ r ∈ small, 0 < r)
    (h : List.Forall₂ (· ≤ ·) small large) :
    totalOdds large * small.prod ≤ totalOdds small * large.prod := by
  induction h with
  | nil => exact le_rfl
  | @cons r s small large hle hrest ih =>
    obtain ⟨hr, hsmall⟩ := List.forall_mem_cons.1 hpos
    have hprod : 0 < small.prod := List.prod_pos hsmall
    have hlarge : 0 < large.prod := hprod.trans_le (prod_le_prod_of_forall₂ hsmall hrest)
    have hs : 0 < s := hr.trans_le hle
    simp only [totalOdds_cons, List.prod_cons]
    calc (large.prod + s * totalOdds large) * (r * small.prod)
        = r * (small.prod * large.prod) + r * s * (totalOdds large * small.prod) := by ring
      _ ≤ s * (small.prod * large.prod) + r * s * (totalOdds small * large.prod) := by
          have hown := mul_le_mul_of_nonneg_right hle (mul_pos hprod hlarge).le
          have hothers := mul_le_mul_of_nonneg_left (ih hsmall) (mul_pos hr hs).le
          omega
      _ = (small.prod + r * totalOdds small) * (s * large.prod) := by ring

/-! ## Prices -/

/-- A position that is counted from the front is an outcome. -/
theorem checkOutcome_natCast {reserves : List Int} {t : Nat} (ht : t < reserves.length) :
    checkOutcome reserves t = .ok t := by
  simp [checkOutcome, ht]

/-- The price of an outcome at positive reserves, without the fee. -/
def price (reserves : List Int) (t : Nat) (denomination : Int) : Int :=
  floorDiv (oddsWeight reserves t * denomination) (totalOdds reserves)

/-- A price with the fee on top. -/
def withFee (price swapFee : Int) : Int :=
  floorDiv (price * feeUnit) (feeUnit - swapFee)

section Price

variable {reserves : List Int} {t : Nat}

/-- At positive reserves each outcome has a price. -/
theorem spotPriceSansFee_eq_ok (hpos : ∀ r ∈ reserves, 0 < r) (ht : t < reserves.length)
    (denomination : Int) :
    spotPriceSansFee reserves t denomination = .ok (price reserves t denomination) := by
  rw [spotPriceSansFee, checkOutcome_natCast ht, ok_bind, anyEmpty_eq_false.2 hpos]
  rfl

/-- At positive reserves each outcome has a price with the fee on top, at each rate that leaves
something. -/
theorem spotPrice_eq_ok (hpos : ∀ r ∈ reserves, 0 < r) (ht : t < reserves.length)
    (denomination : Int) {swapFee : Int} (hrate : 0 ≤ swapFee) (hunit : swapFee < feeUnit) :
    spotPrice reserves t denomination swapFee =
      .ok (withFee (price reserves t denomination) swapFee) := by
  have hfee : isFeeRate swapFee = true := by simp [isFeeRate, hrate, hunit]
  rw [spotPrice, hfee, refuseIf_bind, if_neg (by decide), spotPriceSansFee_eq_ok hpos ht]
  rfl

end Price

end PredictionMarket.Curve
