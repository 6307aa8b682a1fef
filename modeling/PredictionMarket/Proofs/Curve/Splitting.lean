import PredictionMarket.Proofs.Curve.Tight

/-!
# Splitting a trade never helps

Two trades one after another move the reserves as one trade does: what joins adds up, and so does
what leaves. Neither of the two lowers the product of the reserves, so both together do not. But a
quote is tight, and one trade therefore gives at least as much, or asks for at most as much, as the
two. The fee only adds to this, because it is rounded up each time.
-/

namespace PredictionMarket.Curve

/-! ## One trade after another -/

section Composition

variable {reserves : List Int} {t : Nat}

/-- Two purchases move the reserves as one does. -/
theorem bought_bought (first second shares more : Int) :
    bought (bought reserves first t shares) second t more =
      bought reserves (first + second) t (shares + more) := by
  refine List.ext_getElem (by simp) fun o _ _ => ?_
  simp only [bought, List.getElem_modify, List.getElem_map]
  split <;> omega

/-- Two sales move the reserves as one does. -/
theorem sold_sold (first second shares more : Int) :
    sold (sold reserves first t shares) second t more =
      sold reserves (first + second) t (shares + more) := by
  refine List.ext_getElem (by simp) fun o _ _ => ?_
  simp only [sold, List.getElem_modify, List.getElem_map]
  split <;> omega

/-- More complete sets for the same shares leave every reserve larger. -/
theorem bought_eq_map (net more shares : Int) :
    bought reserves more t shares =
      (bought reserves net t shares).map (· + (more - net)) := by
  refine List.ext_getElem (by simp) fun o _ _ => ?_
  simp only [bought, List.getElem_modify, List.getElem_map]
  split <;> omega

/-- More complete sets for the same shares do not lower the product of the reserves. -/
theorem prod_bought_le {net more shares : Int} (h : net ≤ more)
    (hpos : ∀ r ∈ bought reserves net t shares, 0 < r) :
    (bought reserves net t shares).prod ≤ (bought reserves more t shares).prod := by
  have hgrown := prod_map_add_le (sub_nonneg.2 h) (by simpa using hpos)
  rw [← bought_eq_map] at hgrown
  simpa using hgrown

end Composition

/-- The fee on two amounts together is at most the fees on both. -/
theorem feeOf_add_le (first second swapFee : Int) :
    feeOf (first + second) swapFee ≤ feeOf first swapFee + feeOf second swapFee := by
  have hfirst : first * swapFee ≤ feeOf first swapFee * feeUnit := (isLeast_feeOf first swapFee).1
  have hsecond : second * swapFee ≤ feeOf second swapFee * feeUnit :=
    (isLeast_feeOf second swapFee).1
  refine (isLeast_feeOf (first + second) swapFee).2 ?_
  rw [Set.mem_ofPred_eq, add_mul, add_mul]
  exact add_le_add hfirst hsecond

/-! ## Two trades and one -/

section Split

variable {reserves : List Int} {t : Nat}

/-- A purchase that is quoted does not lower the product of the reserves. -/
theorem TightPurchase.prod_le {collateralIn swapFee : Int} {q : BuyQuote}
    (h : TightPurchase reserves collateralIn swapFee t q) :
    reserves.prod ≤ (bought reserves (collateralIn - q.fee) t q.sharesOut).prod :=
  h.shares_greatest.1

/-- A sale that is quoted does not lower the product of the reserves. -/
theorem TightSale.prod_le {collateralOut sharesIn : Int}
    (h : TightSale reserves collateralOut t sharesIn) :
    reserves.prod ≤ (sold reserves collateralOut t sharesIn).prod :=
  h.shares_least.1.2

/-- After a quoted purchase another one can be quoted, and the two give no more than one for both
payments. -/
theorem exists_split_purchase (hpos : ∀ r ∈ reserves, 0 < r) (ht : t < reserves.length)
    {first second swapFee : Int} (hfirst : 0 < first) (hsecond : 0 < second) (hrate : 0 ≤ swapFee)
    (hunit : swapFee < feeUnit) :
    ∃ q₁ between q₂ q, quoteBuy reserves first t swapFee = .ok q₁ ∧
      applyBuy reserves (first - q₁.fee) t q₁.sharesOut = .ok between ∧
      quoteBuy between second t swapFee = .ok q₂ ∧
      quoteBuy reserves (first + second) t swapFee = .ok q ∧
      q₁.sharesOut + q₂.sharesOut ≤ q.sharesOut := by
  obtain ⟨q₁, hquote₁⟩ := exists_quoteBuy hpos ht hfirst hrate hunit
  have htight₁ := tightPurchase_of_quoteBuy hquote₁
  obtain ⟨q₂, hquote₂⟩ := exists_quoteBuy htight₁.positive (by simpa using ht) hsecond hrate hunit
  have htight₂ := tightPurchase_of_quoteBuy hquote₂
  obtain ⟨q, hquote⟩ := exists_quoteBuy hpos ht (add_pos hfirst hsecond) hrate hunit
  refine ⟨q₁, _, q₂, q, hquote₁, htight₁.applied, hquote₂, hquote, ?_⟩
  have hfees : q.fee ≤ q₁.fee + q₂.fee := by
    obtain ⟨-, -, -, hfee₁⟩ := fee_eq_ok.1 (quoteBuy_ok hquote₁).2.2.2.1
    obtain ⟨-, -, -, hfee₂⟩ := fee_eq_ok.1 (quoteBuy_ok hquote₂).2.2.2.1
    obtain ⟨-, -, -, hfee⟩ := fee_eq_ok.1 (quoteBuy_ok hquote).2.2.2.1
    rw [hfee₁, hfee₂, hfee]
    exact feeOf_add_le first second swapFee
  -- The quote for both is the most that keeps the product, and the two purchases keep it.
  have hafter := htight₂.positive
  have hkept := htight₁.prod_le.trans htight₂.prod_le
  rw [bought_bought] at hafter hkept
  exact (tightPurchase_of_quoteBuy hquote).shares_greatest.2
    (hkept.trans (prod_bought_le (by omega) hafter))

/-- After a quoted sale another one can be quoted if the reserves have enough for both, and the two
ask for no fewer shares than one for all the collateral. -/
theorem exists_split_sale (hpos : ∀ r ∈ reserves, 0 < r) (ht : t < reserves.length)
    {first second : Int} (hfirst : 0 < first) (hsecond : 0 < second)
    (hbelow : ∀ r ∈ reserves.eraseIdx t, first + second < r) :
    ∃ s₁ between s₂ s, quoteSell reserves first t = .ok s₁ ∧
      applySell reserves first t s₁ = .ok between ∧
      quoteSell between second t = .ok s₂ ∧
      quoteSell reserves (first + second) t = .ok s ∧ s ≤ s₁ + s₂ := by
  obtain ⟨s₁, hquote₁⟩ := exists_quoteSell hpos ht hfirst fun r hr => by
    have hreserve := hbelow r hr
    omega
  have htight₁ := tightSale_of_quoteSell hquote₁
  have hleft : ∀ r ∈ (sold reserves first t s₁).eraseIdx t, second < r := by
    rw [eraseIdx_sold, List.forall_mem_map]
    intro r hr
    have hreserve := hbelow r hr
    omega
  obtain ⟨s₂, hquote₂⟩ := exists_quoteSell htight₁.positive (by simpa using ht) hsecond hleft
  have htight₂ := tightSale_of_quoteSell hquote₂
  obtain ⟨s, hquote⟩ := exists_quoteSell hpos ht (add_pos hfirst hsecond) hbelow
  refine ⟨s₁, _, s₂, s, hquote₁, htight₁.applied, hquote₂, hquote, ?_⟩
  -- The quote for both is the least that brings the product back, and the two sales do.
  have hafter := htight₂.positive
  have hkept := htight₁.prod_le.trans htight₂.prod_le
  rw [sold_sold] at hafter hkept
  exact (tightSale_of_quoteSell hquote).shares_least.2 ⟨hafter, hkept⟩

/-- **Splitting a trade never helps**: at positive reserves two purchases one after another give at
most the shares of one purchase with both payments, and two sales ask for at least the shares of one
sale that releases as much. All of them are quoted. -/
theorem splitting_never_helps (hpos : ∀ r ∈ reserves, 0 < r) (ht : t < reserves.length) :
    (∀ first second swapFee, 0 < first → 0 < second → 0 ≤ swapFee → swapFee < feeUnit →
      ∃ q₁ between q₂ q, quoteBuy reserves first t swapFee = .ok q₁ ∧
        applyBuy reserves (first - q₁.fee) t q₁.sharesOut = .ok between ∧
        quoteBuy between second t swapFee = .ok q₂ ∧
        quoteBuy reserves (first + second) t swapFee = .ok q ∧
        q₁.sharesOut + q₂.sharesOut ≤ q.sharesOut) ∧
    ∀ first second, 0 < first → 0 < second →
      (∀ r ∈ reserves.eraseIdx t, first + second < r) →
      ∃ s₁ between s₂ s, quoteSell reserves first t = .ok s₁ ∧
        applySell reserves first t s₁ = .ok between ∧
        quoteSell between second t = .ok s₂ ∧
        quoteSell reserves (first + second) t = .ok s ∧ s ≤ s₁ + s₂ := by
  constructor
  · intro first second swapFee hfirst hsecond hrate hunit
    exact exists_split_purchase hpos ht hfirst hsecond hrate hunit
  · intro first second hfirst hsecond hbelow
    exact exists_split_sale hpos ht hfirst hsecond hbelow

end Split

/-- Of the second of three outcomes, two payments of 20 buy one share less than a payment of 40, and
two sales for 3 take one share more than a sale for 6. -/
theorem splitting_of_three_never_helps :
    (∀ r ∈ [100, 50, 25], (0 : Int) < r) ∧ 1 < [(100 : Int), 50, 25].length ∧
      (∀ r ∈ [(100 : Int), 50, 25].eraseIdx 1, 3 + 3 < r) ∧
      quoteBuy [100, 50, 25] 20 (1 : Nat) 30 = .ok ⟨45, 1⟩ ∧
      applyBuy [100, 50, 25] 19 (1 : Nat) 45 = .ok [119, 24, 44] ∧
      quoteBuy [119, 24, 44] 20 (1 : Nat) 30 = .ok ⟨28, 1⟩ ∧
      quoteBuy [100, 50, 25] (20 + 20) (1 : Nat) 30 = .ok ⟨74, 1⟩ ∧ (45 : Int) + 28 ≤ 74 ∧
      quoteSell [100, 50, 25] 3 (1 : Nat) = .ok 12 ∧
      applySell [100, 50, 25] 3 (1 : Nat) 12 = .ok [97, 59, 22] ∧
      quoteSell [97, 59, 22] 3 (1 : Nat) = .ok 15 ∧
      quoteSell [100, 50, 25] (3 + 3) (1 : Nat) = .ok 26 ∧ (26 : Int) ≤ 12 + 15 := by
  have hpos : ∀ r ∈ [100, 50, 25], (0 : Int) < r := by decide
  have hbelow : ∀ r ∈ [(100 : Int), 50, 25].eraseIdx 1, 3 + 3 < r := by decide
  have hbuy₁ : quoteBuy [100, 50, 25] 20 (1 : Nat) 30 = .ok ⟨45, 1⟩ := by decide
  have hbought : applyBuy [100, 50, 25] 19 (1 : Nat) 45 = .ok [119, 24, 44] := by decide
  have hbuy₂ : quoteBuy [119, 24, 44] 20 (1 : Nat) 30 = .ok ⟨28, 1⟩ := by decide
  have hbuy : quoteBuy [100, 50, 25] (20 + 20) (1 : Nat) 30 = .ok ⟨74, 1⟩ := by decide
  have hsell₁ : quoteSell [100, 50, 25] 3 (1 : Nat) = .ok 12 := by decide
  have hsold : applySell [100, 50, 25] 3 (1 : Nat) 12 = .ok [97, 59, 22] := by decide
  have hsell₂ : quoteSell [97, 59, 22] 3 (1 : Nat) = .ok 15 := by decide
  have hsell : quoteSell [100, 50, 25] (3 + 3) (1 : Nat) = .ok 26 := by decide
  obtain ⟨hpurchases, hsales⟩ := splitting_never_helps hpos (t := 1) (by decide)
  obtain ⟨q₁, between, q₂, q, hquote₁, happlied, hquote₂, hquote, hless⟩ :=
    hpurchases 20 20 30 (by decide) (by decide) (by decide) (by decide)
  obtain rfl : q₁ = ⟨45, 1⟩ := Except.ok.inj (hquote₁.symm.trans hbuy₁)
  obtain rfl : between = [119, 24, 44] := Except.ok.inj (happlied.symm.trans hbought)
  obtain rfl : q₂ = ⟨28, 1⟩ := Except.ok.inj (hquote₂.symm.trans hbuy₂)
  obtain rfl : q = ⟨74, 1⟩ := Except.ok.inj (hquote.symm.trans hbuy)
  obtain ⟨s₁, left, s₂, s, hasked₁, hleft, hasked₂, hasked, hmore⟩ :=
    hsales 3 3 (by decide) (by decide) hbelow
  obtain rfl : s₁ = 12 := Except.ok.inj (hasked₁.symm.trans hsell₁)
  obtain rfl : left = [97, 59, 22] := Except.ok.inj (hleft.symm.trans hsold)
  obtain rfl : s₂ = 15 := Except.ok.inj (hasked₂.symm.trans hsell₂)
  obtain rfl : s = 26 := Except.ok.inj (hasked.symm.trans hsell)
  exact ⟨hpos, by decide, hbelow, hbuy₁, hbought, hbuy₂, hbuy, hless, hsell₁, hsold, hsell₂, hsell,
    hmore⟩

end PredictionMarket.Curve
