import PredictionMarket.Proofs.Curve.Splitting

/-!
# Quotes grow with the size of the trade

Who looks for the size of a trade may do so by bisection, since a larger trade is never quoted less.
The fee is rounded up, so it jumps, but never by more than the payment has grown: the fee on what
was added pays for the jump. What remains of the traded outcome is rounded up as well. It is a
quotient of one and the same product, by more for a larger purchase and by less for a larger sale.
-/

namespace PredictionMarket.Curve

/-! ## Fees -/

/-- A larger amount has no smaller fee. -/
theorem feeOf_le_feeOf {less more swapFee : Int} (hle : less ≤ more) (hrate : 0 ≤ swapFee) :
    feeOf less swapFee ≤ feeOf more swapFee := by
  have hcharged : more * swapFee ≤ feeOf more swapFee * feeUnit := (isLeast_feeOf more swapFee).1
  exact (isLeast_feeOf less swapFee).2 ((mul_le_mul_of_nonneg_right hle hrate).trans hcharged)

/-- A larger amount leaves no less after its fee. -/
theorem sub_feeOf_le_sub_feeOf {less more swapFee : Int} (hle : less ≤ more) (hrate : 0 ≤ swapFee)
    (hunit : swapFee < feeUnit) : less - feeOf less swapFee ≤ more - feeOf more swapFee := by
  have hadded : feeOf (more - less) swapFee ≤ more - less :=
    fee_le (fee_eq_ok.2 ⟨sub_nonneg.2 hle, hrate, hunit, rfl⟩)
  have hsplit := feeOf_add_le less (more - less) swapFee
  rw [add_sub_cancel] at hsplit
  omega

/-! ## Quotes -/

section Size

variable {reserves : List Int} {t : Nat}

/-- A larger payment buys no fewer shares, pays no smaller a fee and leaves no less for the pool. -/
theorem quoteBuy_le_quoteBuy {less more swapFee : Int} {q₁ q₂ : BuyQuote} (hle : less ≤ more)
    (hless : quoteBuy reserves less t swapFee = .ok q₁)
    (hmore : quoteBuy reserves more t swapFee = .ok q₂) :
    q₁.sharesOut ≤ q₂.sharesOut ∧ q₁.fee ≤ q₂.fee ∧ less - q₁.fee ≤ more - q₂.fee := by
  obtain ⟨ht, hpos, -, hfee₁, -, hshares₁⟩ := quoteBuy_ok hless
  obtain ⟨-, -, -, hfee₂, -, hshares₂⟩ := quoteBuy_ok hmore
  obtain ⟨htarget, hothers⟩ := (forall_mem_iff_others ht _).1 hpos
  have hgrown := pos_of_grown hothers (sub_nonneg.2 (fee_le hfee₁))
  obtain ⟨-, hrate, hunit, hcharged₁⟩ := fee_eq_ok.1 hfee₁
  obtain ⟨-, -, -, hcharged₂⟩ := fee_eq_ok.1 hfee₂
  have hfees : q₁.fee ≤ q₂.fee := by
    rw [hcharged₁, hcharged₂]
    exact feeOf_le_feeOf hle hrate
  have hnets : less - q₁.fee ≤ more - q₂.fee := by
    rw [hcharged₁, hcharged₂]
    exact sub_feeOf_le_sub_feeOf hle hrate hunit
  have hrest := targetAfter_anti htarget hothers hnets hgrown
  refine ⟨?_, hfees, hnets⟩
  rw [hshares₁, hshares₂]
  omega

/-- A larger release of collateral takes more shares. -/
theorem quoteSell_lt_quoteSell {less more s₁ s₂ : Int} (hlt : less < more)
    (hless : quoteSell reserves less t = .ok s₁) (hmore : quoteSell reserves more t = .ok s₂) :
    s₁ < s₂ := by
  obtain ⟨ht, hpos, -, -, hshares₁⟩ := quoteSell_ok hless
  obtain ⟨-, -, -, hbelow, hshares₂⟩ := quoteSell_ok hmore
  obtain ⟨htarget, hothers⟩ := (forall_mem_iff_others ht _).1 hpos
  have hrest := targetAfter_anti htarget hothers (neg_le_neg hlt.le) (pos_of_shrunk hbelow)
  rw [hshares₁, hshares₂]
  omega

/-- **Quotes grow with the size of the trade**: at positive reserves a larger payment is quoted no
fewer shares, no smaller a fee and no less for the pool after the fee, and a larger release of
collateral is quoted more shares. All of them are quoted. -/
theorem quotes_grow_with_size (hpos : ∀ r ∈ reserves, 0 < r) (ht : t < reserves.length) :
    (∀ less more swapFee, 0 < less → less ≤ more → 0 ≤ swapFee → swapFee < feeUnit →
      ∃ q₁ q₂, quoteBuy reserves less t swapFee = .ok q₁ ∧
        quoteBuy reserves more t swapFee = .ok q₂ ∧
        q₁.sharesOut ≤ q₂.sharesOut ∧ q₁.fee ≤ q₂.fee ∧ less - q₁.fee ≤ more - q₂.fee) ∧
    ∀ less more, 0 < less → less < more → (∀ r ∈ reserves.eraseIdx t, more < r) →
      ∃ s₁ s₂, quoteSell reserves less t = .ok s₁ ∧ quoteSell reserves more t = .ok s₂ ∧
        s₁ < s₂ := by
  constructor
  · intro less more swapFee hpositive hle hrate hunit
    obtain ⟨q₁, hless⟩ := exists_quoteBuy hpos ht hpositive hrate hunit
    obtain ⟨q₂, hmore⟩ := exists_quoteBuy hpos ht (hpositive.trans_le hle) hrate hunit
    exact ⟨q₁, q₂, hless, hmore, quoteBuy_le_quoteBuy hle hless hmore⟩
  · intro less more hpositive hlt hbelow
    obtain ⟨s₁, hless⟩ := exists_quoteSell hpos ht hpositive fun r hr => hlt.trans (hbelow r hr)
    obtain ⟨s₂, hmore⟩ := exists_quoteSell hpos ht (hpositive.trans hlt) hbelow
    exact ⟨s₁, s₂, hless, hmore, quoteSell_lt_quoteSell hlt hless hmore⟩

end Size

/-- Where the fee jumps, the unit that was added goes into it and buys nothing more. One unit more
to release takes three shares more. -/
theorem quotes_grow_where_fee_jumps :
    (∀ r ∈ [1000, 500, 250], (0 : Int) < r) ∧ 1 < [(1000 : Int), 500, 250].length ∧
      (∀ r ∈ [(1000 : Int), 500, 250].eraseIdx 1, 11 < r) ∧
      quoteBuy [1000, 500, 250] 333 (1 : Nat) 30 = .ok ⟨670, 1⟩ ∧
      quoteBuy [1000, 500, 250] 334 (1 : Nat) 30 = .ok ⟨670, 2⟩ ∧
      (670 : Int) ≤ 670 ∧ (1 : Int) ≤ 2 ∧ (333 : Int) - 1 ≤ 334 - 2 ∧
      quoteSell [1000, 500, 250] 10 (1 : Nat) = .ok 37 ∧
      quoteSell [1000, 500, 250] 11 (1 : Nat) = .ok 40 ∧ (37 : Int) < 40 := by
  have hpos : ∀ r ∈ [1000, 500, 250], (0 : Int) < r := by decide
  have hbelow : ∀ r ∈ [(1000 : Int), 500, 250].eraseIdx 1, 11 < r := by decide
  have hbuy₁ : quoteBuy [1000, 500, 250] 333 (1 : Nat) 30 = .ok ⟨670, 1⟩ := by decide
  have hbuy₂ : quoteBuy [1000, 500, 250] 334 (1 : Nat) 30 = .ok ⟨670, 2⟩ := by decide
  have hsell₁ : quoteSell [1000, 500, 250] 10 (1 : Nat) = .ok 37 := by decide
  have hsell₂ : quoteSell [1000, 500, 250] 11 (1 : Nat) = .ok 40 := by decide
  obtain ⟨hpurchases, hsales⟩ := quotes_grow_with_size hpos (t := 1) (by decide)
  obtain ⟨q₁, q₂, hless, hmore, hshares, hfees, hnets⟩ :=
    hpurchases 333 334 30 (by decide) (by decide) (by decide) (by decide)
  obtain rfl : q₁ = ⟨670, 1⟩ := Except.ok.inj (hless.symm.trans hbuy₁)
  obtain rfl : q₂ = ⟨670, 2⟩ := Except.ok.inj (hmore.symm.trans hbuy₂)
  obtain ⟨s₁, s₂, hasked₁, hasked₂, htaken⟩ := hsales 10 11 (by decide) (by decide) hbelow
  obtain rfl : s₁ = 37 := Except.ok.inj (hasked₁.symm.trans hsell₁)
  obtain rfl : s₂ = 40 := Except.ok.inj (hasked₂.symm.trans hsell₂)
  exact ⟨hpos, by decide, hbelow, hbuy₁, hbuy₂, hshares, hfees, hnets, hsell₁, hsell₂, htaken⟩

end PredictionMarket.Curve
