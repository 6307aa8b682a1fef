import PredictionMarket.Proofs.Curve.Odds
import PredictionMarket.Proofs.Curve.Tight

/-!
# No trade is better than the spot price

The spot price is what an outcome costs at the margin. A trade of any size moves the reserves
against the trader while it lasts: a purchase gives at most the shares that the payment less its fee
is worth at the spot price, and a sale takes at least the shares that the collateral is worth. The
price is a ratio of odds weights and the trade a quotient of shifted products, and what connects
them is one inequality between the product of the other reserves and the sum of their reciprocals.
-/

namespace PredictionMarket.Curve

/-! ## Shares and odds -/

/-- What a change of the other reserves frees of the traded outcome is worth at most the change, at
the odds before it. The change may go either way. -/
theorem freed_mul_prod_le {target change : Int} {others : List Int} (htarget : 0 ≤ target)
    (hothers : ∀ r ∈ others, 0 < r) (hmoved : ∀ r ∈ others, 0 < r + change) :
    (target + change - targetAfter target others change) * others.prod ≤
      change * (others.prod + target * totalOdds others) := by
  have hafter := prod_shifted_pos hmoved
  have hrise := prod_mul_rise_le hothers hmoved
  have hrest : target * others.prod ≤
      targetAfter target others change * (others.map (· + change)).prod :=
    prod_le_targetAfter_mul hmoved
  have hothers : 0 < others.prod := List.prod_pos hothers
  generalize targetAfter target others change = rest at *
  generalize (others.map (· + change)).prod = after at *
  have hfreed : (target - rest) * others.prod ≤ change * target * totalOdds others := by
    refine le_of_mul_le_mul_right ?_ hafter
    calc (target - rest) * others.prod * after
        = (target * after - rest * after) * others.prod := by ring
      _ ≤ (target * after - target * others.prod) * others.prod :=
          mul_le_mul_of_nonneg_right (by omega) hothers.le
      _ = target * (others.prod * (after - others.prod)) := by ring
      _ ≤ target * (change * totalOdds others * after) := mul_le_mul_of_nonneg_left hrise htarget
      _ = change * target * totalOdds others * after := by ring
  linarith

/-- The shares of a purchase are worth at most the payment less its fee, at the odds before it. -/
theorem sharesOut_mul_oddsWeight_le {reserves : List Int} {collateralIn swapFee : Int} {t : Nat}
    {q : BuyQuote} (h : quoteBuy reserves collateralIn t swapFee = .ok q) :
    q.sharesOut * oddsWeight reserves t ≤ (collateralIn - q.fee) * totalOdds reserves := by
  obtain ⟨ht, hpos, -, hfee, -, hshares⟩ := quoteBuy_ok h
  obtain ⟨htarget, hothers⟩ := (forall_mem_iff_others ht _).1 hpos
  have hgrown := pos_of_grown hothers (sub_nonneg.2 (fee_le hfee))
  rw [hshares, totalOdds_eq ht]
  exact freed_mul_prod_le htarget.le hothers hgrown

/-- The shares of a sale are worth at least the collateral that is released, at the odds before
it. -/
theorem le_sharesIn_mul_oddsWeight {reserves : List Int} {collateralOut sharesIn : Int} {t : Nat}
    (h : quoteSell reserves collateralOut t = .ok sharesIn) :
    collateralOut * totalOdds reserves ≤ sharesIn * oddsWeight reserves t := by
  obtain ⟨ht, hpos, -, hbelow, hshares⟩ := quoteSell_ok h
  obtain ⟨htarget, hothers⟩ := (forall_mem_iff_others ht _).1 hpos
  have hfreed := freed_mul_prod_le htarget.le hothers (pos_of_shrunk hbelow)
  have hweight : oddsWeight reserves t = (reserves.eraseIdx t).prod := rfl
  rw [hshares, totalOdds_eq ht, hweight]
  linarith

/-! ## Shares and prices -/

/-- What a fee leaves of an amount is at most what the rate leaves of it. -/
theorem net_mul_feeUnit_le {amount swapFee f : Int} (h : fee amount swapFee = .ok f) :
    (amount - f) * feeUnit ≤ amount * (feeUnit - swapFee) := by
  obtain ⟨-, -, -, rfl⟩ := fee_eq_ok.1 h
  have hcharged : amount * swapFee ≤ feeOf amount swapFee * feeUnit :=
    (isLeast_feeOf amount swapFee).1
  linarith

/-- At the spot price the shares of a purchase cost at most the payment less its fee. -/
theorem sharesOut_mul_price_le {reserves : List Int} {collateralIn swapFee : Int} {t : Nat}
    {q : BuyQuote} (h : quoteBuy reserves collateralIn t swapFee = .ok q) {denomination : Int}
    (hdenomination : 0 ≤ denomination) :
    q.sharesOut * price reserves t denomination ≤ (collateralIn - q.fee) * denomination := by
  obtain ⟨ht, hpos, -, -, hshares, -⟩ := quoteBuy_ok h
  have hodds := totalOdds_pos hpos (List.ne_nil_of_length_pos (by omega))
  have hrounded : price reserves t denomination * totalOdds reserves ≤
      oddsWeight reserves t * denomination := floorDiv_mul_le _ hodds
  refine le_of_mul_le_mul_right ?_ hodds
  calc q.sharesOut * price reserves t denomination * totalOdds reserves
      = q.sharesOut * (price reserves t denomination * totalOdds reserves) := by ring
    _ ≤ q.sharesOut * (oddsWeight reserves t * denomination) :=
        mul_le_mul_of_nonneg_left hrounded hshares
    _ = q.sharesOut * oddsWeight reserves t * denomination := by ring
    _ ≤ (collateralIn - q.fee) * totalOdds reserves * denomination :=
        mul_le_mul_of_nonneg_right (sharesOut_mul_oddsWeight_le h) hdenomination
    _ = (collateralIn - q.fee) * denomination * totalOdds reserves := by ring

/-- At the spot price with the fee on top the shares of a purchase cost at most the payment. -/
theorem sharesOut_mul_withFee_le {reserves : List Int} {collateralIn swapFee : Int} {t : Nat}
    {q : BuyQuote} (h : quoteBuy reserves collateralIn t swapFee = .ok q) {denomination : Int}
    (hdenomination : 0 ≤ denomination) :
    q.sharesOut * withFee (price reserves t denomination) swapFee ≤
      collateralIn * denomination := by
  obtain ⟨-, -, -, hfee, hshares, -⟩ := quoteBuy_ok h
  obtain ⟨-, -, hunit, -⟩ := fee_eq_ok.1 hfee
  have hleft : 0 < feeUnit - swapFee := sub_pos.2 hunit
  have hwhole : 0 ≤ feeUnit := by decide
  have hrounded : withFee (price reserves t denomination) swapFee * (feeUnit - swapFee) ≤
      price reserves t denomination * feeUnit := floorDiv_mul_le _ hleft
  refine le_of_mul_le_mul_right ?_ hleft
  calc q.sharesOut * withFee (price reserves t denomination) swapFee * (feeUnit - swapFee)
      = q.sharesOut * (withFee (price reserves t denomination) swapFee * (feeUnit - swapFee)) := by
        ring
    _ ≤ q.sharesOut * (price reserves t denomination * feeUnit) :=
        mul_le_mul_of_nonneg_left hrounded hshares
    _ = q.sharesOut * price reserves t denomination * feeUnit := by ring
    _ ≤ (collateralIn - q.fee) * denomination * feeUnit :=
        mul_le_mul_of_nonneg_right (sharesOut_mul_price_le h hdenomination) hwhole
    _ = (collateralIn - q.fee) * feeUnit * denomination := by ring
    _ ≤ collateralIn * (feeUnit - swapFee) * denomination :=
        mul_le_mul_of_nonneg_right (net_mul_feeUnit_le hfee) hdenomination
    _ = collateralIn * denomination * (feeUnit - swapFee) := by ring

/-- **Nobody trades better than the spot price**: at positive reserves every payment is quoted, and
what it buys costs no more than the payment at the price with the fee on top, nor more than the
payment less its fee at the exact odds. Every release of collateral below the other reserves is
quoted, and what it takes is worth no less than the collateral at the exact odds. -/
theorem trades_never_beat_spot_price {reserves : List Int} (hpos : ∀ r ∈ reserves, 0 < r) {t : Nat}
    (ht : t < reserves.length) :
    (∀ collateralIn denomination swapFee, 0 < collateralIn → 0 ≤ denomination → 0 ≤ swapFee →
      swapFee < feeUnit →
      ∃ q price, quoteBuy reserves collateralIn t swapFee = .ok q ∧
        spotPrice reserves t denomination swapFee = .ok price ∧
        q.sharesOut * price ≤ collateralIn * denomination ∧
        q.sharesOut * oddsWeight reserves t ≤
          (collateralIn - q.fee) * Amounts.sum (oddsWeights reserves)) ∧
    ∀ collateralOut, 0 < collateralOut → (∀ r ∈ reserves.eraseIdx t, collateralOut < r) →
      ∃ sharesIn, quoteSell reserves collateralOut t = .ok sharesIn ∧
        collateralOut * Amounts.sum (oddsWeights reserves) ≤ sharesIn * oddsWeight reserves t := by
  constructor
  · intro collateralIn denomination swapFee hin hdenomination hrate hunit
    obtain ⟨q, hquote⟩ := exists_quoteBuy hpos ht hin hrate hunit
    exact ⟨q, _, hquote, spotPrice_eq_ok hpos ht denomination hrate hunit,
      sharesOut_mul_withFee_le hquote hdenomination, sharesOut_mul_oddsWeight_le hquote⟩
  · intro collateralOut hout hbelow
    obtain ⟨sharesIn, hquote⟩ := exists_quoteSell hpos ht hout hbelow
    exact ⟨sharesIn, hquote, le_sharesIn_mul_oddsWeight hquote⟩

/-- At a price of 285 thousandths a payment of 20 is worth 70 shares, and it buys 62. A release of
10 is worth 35 shares, and it takes 37. -/
theorem small_trades_never_beat_spot_price :
    (∀ r ∈ [1000, 500, 250], (0 : Int) < r) ∧ 1 < [(1000 : Int), 500, 250].length ∧
      (∀ r ∈ [(1000 : Int), 500, 250].eraseIdx 1, 10 < r) ∧
      quoteBuy [1000, 500, 250] 20 (1 : Nat) 30 = .ok ⟨62, 1⟩ ∧
      spotPrice [1000, 500, 250] (1 : Nat) 1000 30 = .ok 285 ∧ (62 : Int) * 285 ≤ 20 * 1000 ∧
      62 * oddsWeight [1000, 500, 250] 1 ≤
        (20 - 1) * Amounts.sum (oddsWeights [1000, 500, 250]) ∧
      quoteSell [1000, 500, 250] 10 (1 : Nat) = .ok 37 ∧
      10 * Amounts.sum (oddsWeights [1000, 500, 250]) ≤ 37 * oddsWeight [1000, 500, 250] 1 := by
  have hpos : ∀ r ∈ [1000, 500, 250], (0 : Int) < r := by decide
  have hbelow : ∀ r ∈ [(1000 : Int), 500, 250].eraseIdx 1, 10 < r := by decide
  have hbuy : quoteBuy [1000, 500, 250] 20 (1 : Nat) 30 = .ok ⟨62, 1⟩ := by decide
  have hspot : spotPrice [1000, 500, 250] (1 : Nat) 1000 30 = .ok 285 := by decide
  have hsell : quoteSell [1000, 500, 250] 10 (1 : Nat) = .ok 37 := by decide
  obtain ⟨hpurchases, hsales⟩ := trades_never_beat_spot_price hpos (t := 1) (by decide)
  obtain ⟨q, price, hquote, hprice, hcost, hworth⟩ :=
    hpurchases 20 1000 30 (by decide) (by decide) (by decide) (by decide)
  obtain rfl : q = ⟨62, 1⟩ := Except.ok.inj (hquote.symm.trans hbuy)
  obtain rfl : price = 285 := Except.ok.inj (hprice.symm.trans hspot)
  obtain ⟨sharesIn, hasked, htaken⟩ := hsales 10 (by decide) hbelow
  obtain rfl : sharesIn = 37 := Except.ok.inj (hasked.symm.trans hsell)
  exact ⟨hpos, by decide, hbelow, hbuy, hspot, hcost, hworth, hsell, htaken⟩

end PredictionMarket.Curve
