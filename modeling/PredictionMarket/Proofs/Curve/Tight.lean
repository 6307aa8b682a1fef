import PredictionMarket.Proofs.Curve
import Mathlib.Order.Bounds.Basic

/-!
# Quotes are tight

A quote rounds in favour of the pool, and by no more than it has to. A purchase hands out the most
shares that leave the product of the reserves where it was, and a sale asks for the fewest that
bring it back. Whatever is quoted can be carried out, and leaves something of every reserve.
-/

namespace PredictionMarket.Curve

/-! ## The reserve that remains -/

/-- A quotient rounded up is the least bound of the exact one. -/
theorem ceilDiv_le_iff (a : Int) {b : Int} (hb : 0 < b) (c : Int) :
    ceilDiv a b ≤ c ↔ a ≤ c * b :=
  ⟨fun h => (le_ceilDiv_mul a hb).trans (mul_le_mul_of_nonneg_right h hb.le), ceilDiv_le hb⟩

/-- A fee is the least amount that is not below the rate. -/
theorem isLeast_feeOf (amount swapFee : Int) :
    IsLeast {f | amount * swapFee ≤ f * feeUnit} (feeOf amount swapFee) :=
  ⟨le_ceilDiv_mul _ (by decide), fun _ h => ceilDiv_le (by decide) h⟩

section Remaining

variable {target change : Int} {others : List Int}

/-- Reserves that stay positive have a positive product. -/
theorem prod_shifted_pos (h : ∀ r ∈ others, 0 < r + change) :
    0 < (others.map (· + change)).prod := by
  refine List.prod_pos fun r hr => ?_
  obtain ⟨other, hother, rfl⟩ := List.mem_map.1 hr
  exact h other hother

/-- The reserve that must remain is the least that keeps the product from falling. -/
theorem targetAfter_le_iff (h : ∀ r ∈ others, 0 < r + change) (rest : Int) :
    targetAfter target others change ≤ rest ↔
      target * others.prod ≤ rest * (others.map (· + change)).prod :=
  ceilDiv_le_iff _ (prod_shifted_pos h) rest

/-- Something remains of a reserve that was not empty. -/
theorem targetAfter_pos (htarget : 0 < target) (hothers : ∀ r ∈ others, 0 < r)
    (h : ∀ r ∈ others, 0 < r + change) : 0 < targetAfter target others change := by
  have hbefore : 0 < target * others.prod := mul_pos htarget (List.prod_pos hothers)
  exact pos_of_mul_pos_left (hbefore.trans_le (prod_le_targetAfter_mul h)) (prod_shifted_pos h).le

/-- The more the other reserves grow, the less must remain. -/
theorem targetAfter_anti (htarget : 0 < target) (hothers : ∀ r ∈ others, 0 < r) {less more : Int}
    (hle : less ≤ more) (h : ∀ r ∈ others, 0 < r + less) :
    targetAfter target others more ≤ targetAfter target others less := by
  have hmore : ∀ r ∈ others, 0 < r + more := by
    intro r hr
    have hreserve := h r hr
    omega
  have hrest := targetAfter_pos htarget hothers h
  refine (targetAfter_le_iff hmore _).2 ((prod_le_targetAfter_mul h).trans ?_)
  exact mul_le_mul_of_nonneg_left (prod_map_add_le hle h) hrest.le

/-- If the other reserves stay, so does this one. -/
theorem targetAfter_zero (hothers : ∀ r ∈ others, 0 < r) :
    targetAfter target others 0 = target := by
  have hstay : ∀ r ∈ others, 0 < r + 0 := by simpa using hothers
  have hsame : others.map (· + 0) = others := by simp
  have hkept : target * others.prod ≤ targetAfter target others 0 * (others.map (· + 0)).prod :=
    prod_le_targetAfter_mul hstay
  rw [hsame] at hkept
  refine le_antisymm ((targetAfter_le_iff hstay target).2 ?_) ?_
  · rw [hsame]
  · exact le_of_mul_le_mul_right hkept (List.prod_pos hothers)

/-- If the other reserves grow, no more needs to remain than there was. -/
theorem targetAfter_le_target (htarget : 0 < target) (hothers : ∀ r ∈ others, 0 < r)
    (hchange : 0 ≤ change) : targetAfter target others change ≤ target := by
  have hless := targetAfter_anti htarget hothers hchange (by simpa using hothers)
  rwa [targetAfter_zero hothers] at hless

/-- If the other reserves shrink, no less may remain than there was. -/
theorem target_le_targetAfter (htarget : 0 < target) (hothers : ∀ r ∈ others, 0 < r)
    (h : ∀ r ∈ others, 0 < r + change) (hchange : change ≤ 0) :
    target ≤ targetAfter target others change := by
  have hmore := targetAfter_anti htarget hothers hchange h
  rwa [targetAfter_zero hothers] at hmore

end Remaining

/-! ## Reserves after a trade -/

/-- The reserves after a purchase: complete sets join all of them, and shares of one outcome
leave. -/
def bought (reserves : List Int) (net : Int) (t : Nat) (shares : Int) : List Int :=
  (reserves.map (· + net)).modify t (· - shares)

/-- The reserves after a sale: shares of one outcome join, and complete sets leave all of them. -/
def sold (reserves : List Int) (collateralOut : Int) (t : Nat) (shares : Int) : List Int :=
  (reserves.modify t (· + shares)).map (· - collateralOut)

section Trade

variable {reserves : List Int} {t : Nat}

/-- A property of the traded reserve and of all the others is one of all reserves. -/
theorem forall_mem_iff_others (ht : t < reserves.length) (P : Int → Prop) :
    (∀ r ∈ reserves, P r) ↔ P (reserves.getD t 0) ∧ ∀ r ∈ reserves.eraseIdx t, P r := by
  rw [← List.forall_mem_cons, List.getD_eq_getElem _ _ ht]
  exact forall_congr' fun r =>
    imp_congr_left (List.getElem_cons_eraseIdx_perm ht).mem_iff.symm

/-- A purchase changes no number of outcomes. -/
@[simp] theorem length_bought (net shares : Int) :
    (bought reserves net t shares).length = reserves.length := by
  simp [bought]

/-- What remains of the bought outcome. -/
theorem getD_bought (ht : t < reserves.length) (net shares : Int) :
    (bought reserves net t shares).getD t 0 = reserves.getD t 0 + net - shares := by
  rw [List.getD_eq_getElem _ _ (by simpa using ht), List.getD_eq_getElem _ _ ht]
  simp [bought]

/-- What becomes of the other outcomes in a purchase. -/
theorem eraseIdx_bought (net shares : Int) :
    (bought reserves net t shares).eraseIdx t = (reserves.eraseIdx t).map (· + net) := by
  rw [bought, List.eraseIdx_modify_of_eq, List.eraseIdx_map]

/-- A sale changes no number of outcomes. -/
@[simp] theorem length_sold (collateralOut shares : Int) :
    (sold reserves collateralOut t shares).length = reserves.length := by
  simp [sold]

/-- What there is of the sold outcome. -/
theorem getD_sold (ht : t < reserves.length) (collateralOut shares : Int) :
    (sold reserves collateralOut t shares).getD t 0 =
      reserves.getD t 0 + shares - collateralOut := by
  rw [List.getD_eq_getElem _ _ (by simpa using ht), List.getD_eq_getElem _ _ ht]
  simp [sold]

/-- What becomes of the other outcomes in a sale. -/
theorem eraseIdx_sold (collateralOut shares : Int) :
    (sold reserves collateralOut t shares).eraseIdx t =
      (reserves.eraseIdx t).map (· + -collateralOut) := by
  simp only [sold, List.eraseIdx_map, List.eraseIdx_modify_of_eq, sub_eq_add_neg]

/-- A purchase leaves something of every reserve exactly if it leaves something of the bought
outcome. -/
theorem bought_pos_iff (ht : t < reserves.length) {net : Int}
    (hothers : ∀ r ∈ reserves.eraseIdx t, 0 < r + net) (shares : Int) :
    (∀ r ∈ bought reserves net t shares, 0 < r) ↔ 0 < reserves.getD t 0 + net - shares := by
  rw [forall_mem_iff_others (by simpa using ht), getD_bought ht, eraseIdx_bought,
    List.forall_mem_map]
  exact and_iff_left hothers

/-- A sale leaves something of every reserve exactly if it leaves something of the sold outcome. -/
theorem sold_pos_iff (ht : t < reserves.length) {collateralOut : Int}
    (hothers : ∀ r ∈ reserves.eraseIdx t, collateralOut < r) (shares : Int) :
    (∀ r ∈ sold reserves collateralOut t shares, 0 < r) ↔
      0 < reserves.getD t 0 + shares - collateralOut := by
  rw [forall_mem_iff_others (by simpa using ht), getD_sold ht, eraseIdx_sold,
    List.forall_mem_map]
  exact and_iff_left (pos_of_shrunk hothers)

/-- A purchase keeps the product from falling exactly if the reserve that must remain does. -/
theorem prod_le_prod_bought_iff (ht : t < reserves.length) {net : Int}
    (hothers : ∀ r ∈ reserves.eraseIdx t, 0 < r + net) (shares : Int) :
    reserves.prod ≤ (bought reserves net t shares).prod ↔
      targetAfter (reserves.getD t 0) (reserves.eraseIdx t) net ≤
        reserves.getD t 0 + net - shares := by
  have hafter : t < (bought reserves net t shares).length := by simpa using ht
  rw [prod_eq_mul_others ht, prod_eq_mul_others hafter, getD_bought ht, eraseIdx_bought,
    targetAfter_le_iff hothers]

/-- A sale keeps the product from falling exactly if the reserve that must remain does. -/
theorem prod_le_prod_sold_iff (ht : t < reserves.length) {collateralOut : Int}
    (hothers : ∀ r ∈ reserves.eraseIdx t, 0 < r + -collateralOut) (shares : Int) :
    reserves.prod ≤ (sold reserves collateralOut t shares).prod ↔
      targetAfter (reserves.getD t 0) (reserves.eraseIdx t) (-collateralOut) ≤
        reserves.getD t 0 + shares - collateralOut := by
  have hafter : t < (sold reserves collateralOut t shares).length := by simpa using ht
  rw [prod_eq_mul_others ht, prod_eq_mul_others hafter, getD_sold ht, eraseIdx_sold,
    targetAfter_le_iff hothers]

/-- A purchase that leaves something of the bought outcome can be carried out. -/
theorem applyBuy_eq_ok (ht : t < reserves.length) {net shares : Int}
    (h : 0 < reserves.getD t 0 + net - shares) :
    applyBuy reserves net t shares = .ok (bought reserves net t shares) := by
  have htarget := getD_bought ht net shares
  rw [bought] at htarget
  simp only [applyBuy, position?_natCast ht, htarget]
  rw [if_neg (not_le.2 h), bought]

/-- A sale that leaves something of every reserve can be carried out. -/
theorem applySell_eq_ok (ht : t < reserves.length) {collateralOut shares : Int}
    (h : ∀ r ∈ sold reserves collateralOut t shares, 0 < r) :
    applySell reserves collateralOut t shares = .ok (sold reserves collateralOut t shares) := by
  have hpos := anyEmpty_eq_false.2 h
  rw [sold] at hpos
  simp only [applySell, position?_natCast ht, hpos]
  rw [if_neg Bool.false_ne_true, sold]

end Trade

/-! ## Quotes -/

/-- What a quote for a purchase at positive reserves comes to: the fee is rounded up, the shares
that are handed out are the most that leave the product of the reserves where it was, and the
purchase can be carried out. -/
structure TightPurchase (reserves : List Int) (collateralIn swapFee : Int) (t : Nat)
    (q : BuyQuote) : Prop where
  /-- The fee is the least that is not below the rate. -/
  fee_least : IsLeast {f | collateralIn * swapFee ≤ f * feeUnit} q.fee
  /-- The fee takes no more than the payment. -/
  net_nonneg : 0 ≤ collateralIn - q.fee
  /-- Each complete set that is paid for gives at least one share. -/
  net_le_shares : collateralIn - q.fee ≤ q.sharesOut
  /-- The purchase can be carried out. -/
  applied : applyBuy reserves (collateralIn - q.fee) t q.sharesOut =
    .ok (bought reserves (collateralIn - q.fee) t q.sharesOut)
  /-- Something remains of every reserve. -/
  positive : ∀ r ∈ bought reserves (collateralIn - q.fee) t q.sharesOut, 0 < r
  /-- One more share would lower the product. -/
  shares_greatest :
    IsGreatest {s | reserves.prod ≤ (bought reserves (collateralIn - q.fee) t s).prod} q.sharesOut

/-- What a quote for a sale at positive reserves comes to: the shares that are asked for are the
fewest that bring the product of the reserves back, and the sale can be carried out. -/
structure TightSale (reserves : List Int) (collateralOut : Int) (t : Nat) (sharesIn : Int) :
    Prop where
  /-- Each complete set that leaves takes at least one share. -/
  collateral_le_shares : collateralOut ≤ sharesIn
  /-- The sale can be carried out. -/
  applied : applySell reserves collateralOut t sharesIn =
    .ok (sold reserves collateralOut t sharesIn)
  /-- Something remains of every reserve. -/
  positive : ∀ r ∈ sold reserves collateralOut t sharesIn, 0 < r
  /-- One share less would lower the product, or drain a reserve. -/
  shares_least :
    IsLeast {s | (∀ r ∈ sold reserves collateralOut t s, 0 < r) ∧
      reserves.prod ≤ (sold reserves collateralOut t s).prod} sharesIn

/-- Whatever is quoted for a purchase is tight. -/
theorem tightPurchase_of_quoteBuy {reserves : List Int} {collateralIn swapFee : Int} {t : Nat}
    {q : BuyQuote} (h : quoteBuy reserves collateralIn t swapFee = .ok q) :
    TightPurchase reserves collateralIn swapFee t q := by
  obtain ⟨ht, hpos, -, hfee, -, hshares⟩ := quoteBuy_ok h
  obtain ⟨-, -, -, hfeeOf⟩ := fee_eq_ok.1 hfee
  obtain ⟨htarget, hothers⟩ := (forall_mem_iff_others ht _).1 hpos
  have hnet : 0 ≤ collateralIn - q.fee := sub_nonneg.2 (fee_le hfee)
  have hgrown := pos_of_grown hothers hnet
  have hrest := targetAfter_pos htarget hothers hgrown
  have hless := targetAfter_le_target htarget hothers hnet
  refine ⟨hfeeOf ▸ isLeast_feeOf _ _, hnet, by omega, applyBuy_eq_ok ht (by omega),
    (bought_pos_iff ht hgrown _).2 (by omega),
    (prod_le_prod_bought_iff ht hgrown _).2 (by omega), fun s hs => ?_⟩
  have hkept := (prod_le_prod_bought_iff ht hgrown s).1 hs
  omega

/-- Whatever is quoted for a sale is tight. -/
theorem tightSale_of_quoteSell {reserves : List Int} {collateralOut sharesIn : Int} {t : Nat}
    (h : quoteSell reserves collateralOut t = .ok sharesIn) :
    TightSale reserves collateralOut t sharesIn := by
  obtain ⟨ht, hpos, hout, hbelow, hshares⟩ := quoteSell_ok h
  obtain ⟨htarget, hothers⟩ := (forall_mem_iff_others ht _).1 hpos
  have hshrunk := pos_of_shrunk hbelow
  have hrest := targetAfter_pos htarget hothers hshrunk
  have hmore := target_le_targetAfter htarget hothers hshrunk (by omega)
  have hpositive := (sold_pos_iff ht hbelow sharesIn).2 (by omega)
  refine ⟨by omega, applySell_eq_ok ht hpositive, hpositive,
    ⟨hpositive, (prod_le_prod_sold_iff ht hshrunk _).2 (by omega)⟩, fun s hs => ?_⟩
  have hkept := (prod_le_prod_sold_iff ht hshrunk s).1 hs.2
  omega

/-- At positive reserves every payment is quoted. -/
theorem exists_quoteBuy {reserves : List Int} (hpos : ∀ r ∈ reserves, 0 < r) {t : Nat}
    (ht : t < reserves.length) {collateralIn swapFee : Int} (hin : 0 < collateralIn)
    (hrate : 0 ≤ swapFee) (hunit : swapFee < feeUnit) :
    ∃ q, quoteBuy reserves collateralIn t swapFee = .ok q := by
  have hreserves : checkReserves reserves t = .ok t := checkReserves_eq_ok.2 ⟨rfl, ht, hpos⟩
  have hfee := fee_eq_ok.2 ⟨hin.le, hrate, hunit, rfl⟩
  obtain ⟨htarget, hothers⟩ := (forall_mem_iff_others ht _).1 hpos
  have hless := targetAfter_le_target htarget hothers (sub_nonneg.2 (fee_le hfee))
  have hnet := fee_le hfee
  simp only [quoteBuy, hreserves, hfee, ok_bind, refuseIf_bind, if_neg (not_le.2 hin)]
  rw [if_neg (by omega)]
  exact ⟨_, rfl⟩

/-- At positive reserves every amount below all the other reserves is quoted. -/
theorem exists_quoteSell {reserves : List Int} (hpos : ∀ r ∈ reserves, 0 < r) {t : Nat}
    (ht : t < reserves.length) {collateralOut : Int} (hout : 0 < collateralOut)
    (hbelow : ∀ r ∈ reserves.eraseIdx t, collateralOut < r) :
    ∃ sharesIn, quoteSell reserves collateralOut t = .ok sharesIn := by
  have hreserves : checkReserves reserves t = .ok t := checkReserves_eq_ok.2 ⟨rfl, ht, hpos⟩
  have hnone : ¬(reserves.eraseIdx t).any (· ≤ collateralOut) = true := by
    simpa [not_le] using hbelow
  simp only [quoteSell, hreserves, ok_bind, refuseIf_bind, if_neg (not_le.2 hout), if_neg hnone]
  exact ⟨_, rfl⟩

/-- **Quotes are tight**: at positive reserves every payment and every release of collateral below
the other reserves is quoted, the quote can be carried out and leaves something of every reserve,
and no purchase that gives more and no sale that takes less keeps the product of the reserves from
falling. -/
theorem quotes_are_tight {reserves : List Int} (hpos : ∀ r ∈ reserves, 0 < r) {t : Nat}
    (ht : t < reserves.length) :
    (∀ collateralIn swapFee, 0 < collateralIn → 0 ≤ swapFee → swapFee < feeUnit →
      ∃ q, quoteBuy reserves collateralIn t swapFee = .ok q ∧
        TightPurchase reserves collateralIn swapFee t q) ∧
    ∀ collateralOut, 0 < collateralOut → (∀ r ∈ reserves.eraseIdx t, collateralOut < r) →
      ∃ sharesIn, quoteSell reserves collateralOut t = .ok sharesIn ∧
        TightSale reserves collateralOut t sharesIn := by
  constructor
  · intro collateralIn swapFee hin hrate hunit
    obtain ⟨q, hquote⟩ := exists_quoteBuy hpos ht hin hrate hunit
    exact ⟨q, hquote, tightPurchase_of_quoteBuy hquote⟩
  · intro collateralOut hout hbelow
    obtain ⟨sharesIn, hquote⟩ := exists_quoteSell hpos ht hout hbelow
    exact ⟨sharesIn, hquote, tightSale_of_quoteSell hquote⟩

/-- A purchase and a sale of the second of three outcomes. Both divisions leave a rest. -/
theorem quotes_of_three_are_tight :
    (∀ r ∈ [100, 50, 25], (0 : Int) < r) ∧ 1 < [(100 : Int), 50, 25].length ∧
      (∀ r ∈ [(100 : Int), 50, 25].eraseIdx 1, 10 < r) ∧
      quoteBuy [100, 50, 25] 40 (1 : Nat) 30 = .ok ⟨74, 1⟩ ∧
      TightPurchase [100, 50, 25] 40 30 1 ⟨74, 1⟩ ∧
      quoteSell [100, 50, 25] 10 (1 : Nat) = .ok 53 ∧ TightSale [100, 50, 25] 10 1 53 := by
  have hpos : ∀ r ∈ [100, 50, 25], (0 : Int) < r := by decide
  have hbelow : ∀ r ∈ [(100 : Int), 50, 25].eraseIdx 1, 10 < r := by decide
  have hbuy : quoteBuy [100, 50, 25] 40 (1 : Nat) 30 = .ok ⟨74, 1⟩ := by decide
  have hsell : quoteSell [100, 50, 25] 10 (1 : Nat) = .ok 53 := by decide
  obtain ⟨hpurchases, hsales⟩ := quotes_are_tight hpos (t := 1) (by decide)
  obtain ⟨q, hquote, hq⟩ := hpurchases 40 30 (by decide) (by decide) (by decide)
  obtain ⟨sharesIn, hasked, hsale⟩ := hsales 10 (by decide) hbelow
  obtain rfl : q = ⟨74, 1⟩ := Except.ok.inj (hquote.symm.trans hbuy)
  obtain rfl : sharesIn = 53 := Except.ok.inj (hasked.symm.trans hsell)
  exact ⟨hpos, by decide, hbelow, hbuy, hq, hsell, hsale⟩

end PredictionMarket.Curve
