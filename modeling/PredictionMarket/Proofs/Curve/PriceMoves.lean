import PredictionMarket.Proofs.Curve.Odds
import PredictionMarket.Proofs.Curve.Tight
import PredictionMarket.Proofs.Guard

/-!
# How prices move

The prices of all outcomes share out the denomination, up to what is lost by rounding each of them
down, and the smaller reserve has the higher price. A purchase leaves no more of the bought outcome
and no less of any other one, a sale the other way round, and a price follows: it does not fall when
its own reserve does not rise and no other reserve falls.
-/

namespace PredictionMarket.Curve

/-! ## All prices together -/

/-- Parts of a whole that are rounded down one by one add up to at most the whole, and each of them
loses less than one unit. -/
theorem sum_floorDiv_bounds (parts : List Int) {b : Int} (hb : 0 < b) :
    (parts.map (floorDiv · b)).sum * b ≤ parts.sum ∧
      parts.sum ≤ (parts.map (floorDiv · b)).sum * b + parts.length * (b - 1) := by
  induction parts with
  | nil => simp
  | cons part parts ih =>
    obtain ⟨hle, hlost⟩ := ih
    have hpart := floorDiv_mul_le part hb
    have hpartLost := lt_floorDiv_mul part hb
    simp only [List.map_cons, List.sum_cons, List.length_cons, Nat.cast_add, Nat.cast_one, add_mul,
      one_mul]
    constructor <;> omega

/-- The prices of all outcomes at positive reserves. -/
def prices (reserves : List Int) (denomination : Int) : List Int :=
  (List.range reserves.length).map (price reserves · denomination)

section Prices

variable {reserves : List Int} {denomination : Int}

/-- The price of one outcome. -/
theorem getD_prices {t : Nat} (ht : t < reserves.length) :
    (prices reserves denomination).getD t 0 = price reserves t denomination := by
  rw [List.getD_eq_getElem _ _ (by simpa [prices] using ht)]
  simp [prices]

/-- At positive reserves all outcomes have prices. -/
theorem mapM_spotPriceSansFee (hpos : ∀ r ∈ reserves, 0 < r) :
    (List.range reserves.length).mapM (fun o : Nat => spotPriceSansFee reserves o denomination) =
      .ok (prices reserves denomination) := by
  rw [mapM_eq_ok, prices, List.forall₂_map_right_iff, List.forall₂_same]
  intro o ho
  exact spotPriceSansFee_eq_ok hpos (List.mem_range.1 ho) denomination

/-- Prices are the odds weights in parts of the denomination, rounded down. -/
theorem prices_eq_map : prices reserves denomination =
    ((oddsWeights reserves).map (· * denomination)).map (floorDiv · (totalOdds reserves)) := by
  simp only [prices, oddsWeights, List.map_map]
  rfl

/-- All prices together are at most the denomination, and fall short of it by less than one unit
for each outcome. -/
theorem sum_prices_bounds (hpos : ∀ r ∈ reserves, 0 < r) (hsome : reserves ≠ [])
    (denomination : Int) :
    Amounts.sum (prices reserves denomination) ≤ denomination ∧
      denomination - reserves.length < Amounts.sum (prices reserves denomination) := by
  have hodds := totalOdds_pos hpos hsome
  have hlength : 0 < (reserves.length : Int) := by
    exact_mod_cast List.length_pos_of_ne_nil hsome
  have hwhole : ((oddsWeights reserves).map (· * denomination)).sum =
      denomination * totalOdds reserves := by
    rw [mul_comm, totalOdds, Amounts.sum_eq]
    simpa using List.sum_map_mul_right (oddsWeights reserves) id denomination
  have hcount : ((oddsWeights reserves).map (· * denomination)).length = reserves.length := by
    simp [oddsWeights]
  obtain ⟨hle, hlost⟩ :=
    sum_floorDiv_bounds ((oddsWeights reserves).map (· * denomination)) hodds
  rw [hwhole, ← prices_eq_map, ← Amounts.sum_eq] at hle hlost
  rw [hcount] at hlost
  refine ⟨le_of_mul_le_mul_right hle hodds, lt_of_mul_lt_mul_right ?_ hodds.le⟩
  linarith

/-- The smaller of two reserves has the larger odds weight. -/
theorem oddsWeight_le_of_reserve_le (hpos : ∀ r ∈ reserves, 0 < r) {i j : Nat}
    (hi : i < reserves.length) (hj : j < reserves.length)
    (h : reserves.getD i 0 ≤ reserves.getD j 0) :
    oddsWeight reserves j ≤ oddsWeight reserves i := by
  have hreserve : 0 < reserves.getD i 0 := ((forall_mem_iff_others hi _).1 hpos).1
  have hweight := oddsWeight_pos hpos j
  refine le_of_mul_le_mul_left ?_ hreserve
  calc reserves.getD i 0 * oddsWeight reserves j
      ≤ reserves.getD j 0 * oddsWeight reserves j := mul_le_mul_of_nonneg_right h hweight.le
    _ = reserves.prod := (prod_eq_mul_others hj).symm
    _ = reserves.getD i 0 * oddsWeight reserves i := prod_eq_mul_others hi

/-- The smaller of two reserves has the higher price. -/
theorem price_le_of_reserve_le (hpos : ∀ r ∈ reserves, 0 < r) {i j : Nat}
    (hi : i < reserves.length) (hj : j < reserves.length) (hdenomination : 0 ≤ denomination)
    (h : reserves.getD i 0 ≤ reserves.getD j 0) :
    price reserves j denomination ≤ price reserves i denomination := by
  have hodds := totalOdds_pos hpos (List.ne_nil_of_length_pos (by omega))
  have hweights := oddsWeight_le_of_reserve_le hpos hi hj h
  refine floorDiv_le_floorDiv hodds hodds (mul_le_mul_of_nonneg_right ?_ hodds.le)
  exact mul_le_mul_of_nonneg_right hweights hdenomination

end Prices

/-! ## Prices at different reserves -/

/-- An outcome is no dearer at some reserves than at others, neither without the fee nor with it on
top. -/
structure NoDearer (reserves others : List Int) (t : Nat) (denomination : Int) : Prop where
  /-- The price without the fee is not higher. -/
  sansFee : ∃ low high, spotPriceSansFee reserves t denomination = .ok low ∧
    spotPriceSansFee others t denomination = .ok high ∧ low ≤ high
  /-- The price with the fee on top is not higher, at each rate that leaves something. -/
  withFee : ∀ swapFee, 0 ≤ swapFee → swapFee < feeUnit →
    ∃ low high, spotPrice reserves t denomination swapFee = .ok low ∧
      spotPrice others t denomination swapFee = .ok high ∧ low ≤ high

section Trade

variable {reserves after : List Int} {t : Nat}

/-- The odds of an outcome do not fall if its own reserve does not rise and no other one falls. -/
theorem oddsWeight_mul_totalOdds_le (hpos : ∀ r ∈ reserves, 0 < r) (hafter : ∀ r ∈ after, 0 < r)
    (ht : t < reserves.length) (htAfter : t < after.length)
    (htarget : after.getD t 0 ≤ reserves.getD t 0)
    (hothers : List.Forall₂ (· ≤ ·) (reserves.eraseIdx t) (after.eraseIdx t)) :
    oddsWeight reserves t * totalOdds after ≤ oddsWeight after t * totalOdds reserves := by
  obtain ⟨hreserve, hleft⟩ := (forall_mem_iff_others ht _).1 hpos
  obtain ⟨-, hleftAfter⟩ := (forall_mem_iff_others htAfter _).1 hafter
  have hreciprocals := totalOdds_mul_prod_le hleft hothers
  have hnonneg : 0 ≤ totalOdds (after.eraseIdx t) * (reserves.eraseIdx t).prod :=
    mul_nonneg (totalOdds_nonneg hleftAfter) (List.prod_pos hleft).le
  have hscaled := mul_le_mul htarget hreciprocals hnonneg hreserve.le
  have hweight : oddsWeight reserves t = (reserves.eraseIdx t).prod := rfl
  have hweightAfter : oddsWeight after t = (after.eraseIdx t).prod := rfl
  rw [totalOdds_eq ht, totalOdds_eq htAfter, hweight, hweightAfter]
  linarith

/-- The price of an outcome does not fall if its own reserve does not rise and no other one
falls. -/
theorem noDearer_of_reserves (hpos : ∀ r ∈ reserves, 0 < r) (hafter : ∀ r ∈ after, 0 < r)
    (ht : t < reserves.length) (htAfter : t < after.length)
    (htarget : after.getD t 0 ≤ reserves.getD t 0)
    (hothers : List.Forall₂ (· ≤ ·) (reserves.eraseIdx t) (after.eraseIdx t)) {denomination : Int}
    (hdenomination : 0 ≤ denomination) : NoDearer reserves after t denomination := by
  have hodds := totalOdds_pos hpos (List.ne_nil_of_length_pos (by omega))
  have hoddsAfter := totalOdds_pos hafter (List.ne_nil_of_length_pos (by omega))
  have hweights := oddsWeight_mul_totalOdds_le hpos hafter ht htAfter htarget hothers
  have hprice : price reserves t denomination ≤ price after t denomination := by
    refine floorDiv_le_floorDiv hodds hoddsAfter ?_
    have hscaled := mul_le_mul_of_nonneg_right hweights hdenomination
    linarith
  refine ⟨⟨_, _, spotPriceSansFee_eq_ok hpos ht _, spotPriceSansFee_eq_ok hafter htAfter _, hprice⟩,
    fun swapFee hrate hunit => ⟨_, _, spotPrice_eq_ok hpos ht _ hrate hunit,
      spotPrice_eq_ok hafter htAfter _ hrate hunit, ?_⟩⟩
  have hleft : 0 < feeUnit - swapFee := sub_pos.2 hunit
  have hwhole : 0 ≤ feeUnit := by decide
  refine floorDiv_le_floorDiv hleft hleft (mul_le_mul_of_nonneg_right ?_ hleft.le)
  exact mul_le_mul_of_nonneg_right hprice hwhole

/-- A purchase does not lower the price of what is bought. -/
theorem noDearer_of_buy {collateralIn swapFee : Int} {q : BuyQuote} {denomination : Int}
    (hquote : quoteBuy reserves collateralIn t swapFee = .ok q)
    (happly : applyBuy reserves (collateralIn - q.fee) t q.sharesOut = .ok after)
    (hdenomination : 0 ≤ denomination) : NoDearer reserves after t denomination := by
  obtain ⟨ht, hpos, -⟩ := quoteBuy_ok hquote
  have htight := tightPurchase_of_quoteBuy hquote
  obtain rfl : bought reserves (collateralIn - q.fee) t q.sharesOut = after :=
    Except.ok.inj (htight.applied.symm.trans happly)
  have hnet := htight.net_nonneg
  have hshares := htight.net_le_shares
  refine noDearer_of_reserves hpos htight.positive ht (by simpa using ht) ?_ ?_ hdenomination
  · rw [getD_bought ht]
    omega
  · rw [eraseIdx_bought]
    simpa using forall₂_map_add (reserves.eraseIdx t) hnet

/-- A sale does not raise the price of what is sold. -/
theorem noDearer_of_sell {collateralOut sharesIn : Int} {denomination : Int}
    (hquote : quoteSell reserves collateralOut t = .ok sharesIn)
    (happly : applySell reserves collateralOut t sharesIn = .ok after)
    (hdenomination : 0 ≤ denomination) : NoDearer after reserves t denomination := by
  obtain ⟨ht, hpos, hout, -⟩ := quoteSell_ok hquote
  have htight := tightSale_of_quoteSell hquote
  obtain rfl : sold reserves collateralOut t sharesIn = after :=
    Except.ok.inj (htight.applied.symm.trans happly)
  have hshares := htight.collateral_le_shares
  refine noDearer_of_reserves htight.positive hpos (by simpa using ht) ht ?_ ?_ hdenomination
  · rw [getD_sold ht]
    omega
  · rw [eraseIdx_sold]
    simpa using forall₂_map_add (reserves.eraseIdx t) (show -collateralOut ≤ 0 by omega)

end Trade

/-- **Prices move the right way**: at positive reserves the prices of all outcomes add up to at most
the denomination and fall short of it by less than one unit for each outcome, the smaller of two
reserves has the higher price, a purchase does not lower the price of what is bought, and a sale
does not raise the price of what is sold. -/
theorem prices_move_right {reserves : List Int} (hpos : ∀ r ∈ reserves, 0 < r)
    (hsome : reserves ≠ []) {denomination : Int} (hdenomination : 0 ≤ denomination) :
    (∃ prices, (List.range reserves.length).mapM
        (fun o : Nat => spotPriceSansFee reserves o denomination) = .ok prices ∧
      Amounts.sum prices ≤ denomination ∧ denomination - reserves.length < Amounts.sum prices ∧
      ∀ i j, i < reserves.length → j < reserves.length →
        reserves.getD i 0 ≤ reserves.getD j 0 → prices.getD j 0 ≤ prices.getD i 0) ∧
    (∀ (t : Nat) collateralIn swapFee q after,
      quoteBuy reserves collateralIn t swapFee = .ok q →
      applyBuy reserves (collateralIn - q.fee) t q.sharesOut = .ok after →
      NoDearer reserves after t denomination) ∧
    ∀ (t : Nat) collateralOut sharesIn after,
      quoteSell reserves collateralOut t = .ok sharesIn →
      applySell reserves collateralOut t sharesIn = .ok after →
      NoDearer after reserves t denomination := by
  obtain ⟨hle, hlost⟩ := sum_prices_bounds hpos hsome denomination
  refine ⟨⟨_, mapM_spotPriceSansFee hpos, hle, hlost, ?_⟩, ?_, ?_⟩
  · intro i j hi hj hreserves
    rw [getD_prices hi, getD_prices hj]
    exact price_le_of_reserve_le hpos hi hj hdenomination hreserves
  · intro t collateralIn swapFee q after hquote happly
    exact noDearer_of_buy hquote happly hdenomination
  · intro t collateralOut sharesIn after hquote happly
    exact noDearer_of_sell hquote happly hdenomination

/-- The prices of three outcomes in hundredths add up to 99. The second one is 28 before a purchase
and a sale, 31 after the one and 26 after the other. -/
theorem prices_of_three_move_right :
    (∀ r ∈ [1000, 500, 250], (0 : Int) < r) ∧ [(1000 : Int), 500, 250] ≠ [] ∧
      (List.range 3).mapM (fun o : Nat => spotPriceSansFee [1000, 500, 250] o 100) =
        .ok [14, 28, 57] ∧
      Amounts.sum [14, 28, 57] ≤ 100 ∧ 100 - 3 < Amounts.sum [14, 28, 57] ∧
      quoteBuy [1000, 500, 250] 20 (1 : Nat) 30 = .ok ⟨62, 1⟩ ∧
      applyBuy [1000, 500, 250] 19 (1 : Nat) 62 = .ok [1019, 457, 269] ∧
      spotPriceSansFee [1019, 457, 269] (1 : Nat) 100 = .ok 31 ∧
      NoDearer [1000, 500, 250] [1019, 457, 269] 1 100 ∧
      quoteSell [1000, 500, 250] 10 (1 : Nat) = .ok 37 ∧
      applySell [1000, 500, 250] 10 (1 : Nat) 37 = .ok [990, 527, 240] ∧
      spotPriceSansFee [990, 527, 240] (1 : Nat) 100 = .ok 26 ∧
      NoDearer [990, 527, 240] [1000, 500, 250] 1 100 := by
  have hpos : ∀ r ∈ [1000, 500, 250], (0 : Int) < r := by decide
  have hprices : (List.range 3).mapM (fun o : Nat => spotPriceSansFee [1000, 500, 250] o 100) =
      .ok [14, 28, 57] := by decide
  have hbuy : quoteBuy [1000, 500, 250] 20 (1 : Nat) 30 = .ok ⟨62, 1⟩ := by decide
  have hbought : applyBuy [1000, 500, 250] 19 (1 : Nat) 62 = .ok [1019, 457, 269] := by decide
  have hsell : quoteSell [1000, 500, 250] 10 (1 : Nat) = .ok 37 := by decide
  have hsold : applySell [1000, 500, 250] 10 (1 : Nat) 37 = .ok [990, 527, 240] := by decide
  obtain ⟨⟨prices, hlisted, hle, hlost, -⟩, hpurchases, hsales⟩ :=
    prices_move_right hpos (by decide) (show (0 : Int) ≤ 100 by decide)
  obtain rfl : prices = [14, 28, 57] := Except.ok.inj (hlisted.symm.trans hprices)
  exact ⟨hpos, by decide, hprices, hle, hlost, hbuy, hbought, by decide,
    hpurchases 1 20 30 _ _ hbuy hbought, hsell, hsold, by decide, hsales 1 10 37 _ hsell hsold⟩

end PredictionMarket.Curve
