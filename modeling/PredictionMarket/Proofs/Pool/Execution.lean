import PredictionMarket.Proofs.Pool.Quotes
import PredictionMarket.Proofs.Pool.Refusals

/-!
# Quotes are executed

Accounts look at a quote before they trade, and set their limits by it. The views and the calls of a
pool compute on separate paths; here they are shown to come to the same. A trade succeeds exactly
when its quote is within the limit and the account can pay it, and what is traded is the quote. A
trade that misses its limit reports the quote.
-/

namespace PredictionMarket

/-- No error of the curve is meant as a refusal. -/
theorem CurveError.meant_ne_refusal (e : CurveError) (r : Refusal) :
    e.notice.meant ≠ .refusal r := by
  cases e with
  | room cause => cases cause <;> nofun
  | _ => nofun

/-- No error of the fee accounting is meant as a refusal. -/
theorem FeeError.meant_ne_refusal (e : FeeError) (r : Refusal) : e.notice.meant ≠ .refusal r := by
  cases e <;> nofun

/-- No error of the share balances is meant as a refusal. -/
theorem SharesError.meant_ne_refusal (e : SharesError) (r : Refusal) :
    e.notice.meant ≠ .refusal r := by
  cases e <;> nofun

namespace Pool

/-- Whether an error is not meant to be about the limit of a trade. -/
def NoSlippage (e : PoolError) : Prop :=
  e.notice.meant ≠ .refusal .slippageExceeded

/-- An outcome is not refused for the limit of a trade. -/
theorem checkFunded_noSlippage (p : Pool) (outcome : Value) :
    FailsIn NoSlippage (p.checkFunded outcome) := by
  refine .bind ?_ fun _ _ => .bind (.refuse fun _ => nofun) fun _ _ => .of_ok rfl
  unfold checkOutcome
  split
  · split
    · exact .of_ok rfl
    · exact .of_error rfl nofun
  · exact .of_error rfl nofun

/-- Whether an error, if it is about the limit of a trade, reports this limit and the quote, which
misses it. -/
def Reports (quote : Except PoolError Int) (limit : Int) (Misses : Int → Prop) (e : PoolError) :
    Prop :=
  e.kind = .refusal .slippageExceeded →
    ∃ q, quote = .ok q ∧ Misses q ∧ e.slippage? = some (limit, q)

/-- An error that is not about the limit of a trade has nothing to report. -/
theorem NoSlippage.reports {quote : Except PoolError Int} {limit : Int} {Misses : Int → Prop}
    {e : PoolError} (h : NoSlippage e) : Reports quote limit Misses e :=
  fun hkind => absurd (Notice.kind_eq_refusal.1 hkind).2 h

variable {p : Pool} {account : Text} {outcome : Value}

/-! ## Purchases -/

/-- A quote for a purchase is one of the curve. -/
theorem buyQuote_eq_ok {collateralIn q : Int} :
    p.buyQuote collateralIn outcome = .ok q ↔
      ∃ o b, p.checkFunded outcome = .ok o ∧ p.quoteBuy collateralIn o = .ok b ∧
        b.sharesOut = q := by
  simp only [buyQuote, bind_eq_ok, pure, Except.pure, Except.ok.injEq]
  constructor
  · rintro ⟨o, ho, b, hb, rfl⟩
    exact ⟨o, b, ho, hb, rfl⟩
  · rintro ⟨o, b, ho, hb, rfl⟩
    exact ⟨o, ho, b, hb, rfl⟩

/-- A purchase is made at its quote, which is within the limit and not zero. -/
theorem buyQuote_of_buy {collateralIn minShares : Int} {after : Pool} {b : Curve.BuyQuote}
    (h : p.buy account collateralIn outcome minShares = .ok (after, b)) :
    p.buyQuote collateralIn outcome = .ok b.sharesOut ∧ minShares ≤ b.sharesOut ∧
      0 < b.sharesOut := by
  simp only [buy, bind_eq_ok (p.checkFunded _), bind_eq_ok (p.quoteBuy _ _), refuseIf_bind_eq_ok,
    bind_eq_ok (Except.mapError _ _), pure, Except.pure, Except.ok.injEq, Prod.mk.injEq,
    not_lt] at h
  obtain ⟨o, ho, q, hq, henough, hsome, _, -, _, -, _, -, -, rfl⟩ := h
  obtain ⟨-, -, -, -, hshares, -⟩ := Curve.quoteBuy_ok ((mapError_eq_ok _ _ _).1 hq)
  exact ⟨buyQuote_eq_ok.2 ⟨o, q, ho, hq, rfl⟩, henough, by omega⟩

/-- In a pool that can be reached, a purchase succeeds if its quote is within the limit and not
zero. -/
theorem Reachable.exists_buy (hp : p.Reachable) {collateralIn minShares q : Int}
    (hquote : p.buyQuote collateralIn outcome = .ok q) (henough : minShares ≤ q) (hsome : 0 < q) :
    ∃ after b, p.buy account collateralIn outcome minShares = .ok (after, b) := by
  obtain ⟨o, b, ho, hb, rfl⟩ := buyQuote_eq_ok.1 hquote
  have htight := Curve.tightPurchase_of_quoteBuy ((mapError_eq_ok _ _ _).1 hb)
  obtain ⟨d, hprepare⟩ :
      ∃ d, p.prepare (.trade account (.buy collateralIn outcome minShares)) = .ok d := by
    simp only [prepare, prepareBuy, ho, hb, ok_bind, refuseIf_bind, if_neg (not_lt.2 henough),
      if_neg hsome.ne', htight.applied, Except.mapError]
    exact ⟨_, rfl⟩
  obtain ⟨after, -, hcall⟩ := hp.exists_call hprepare
  simp only [call, trade, bind_eq_ok] at hcall
  obtain ⟨_, ⟨⟨after, b⟩, hbuy, -⟩, -⟩ := hcall
  exact ⟨after, b, hbuy⟩

/-- A purchase that misses its limit reports the limit and the quote. -/
theorem buy_reports (collateralIn minShares : Int) :
    FailsIn (Reports (p.buyQuote collateralIn outcome) minShares (· < minShares))
      (p.buy account collateralIn outcome minShares) := by
  refine .bind ((p.checkFunded_noSlippage outcome).imp fun _ => NoSlippage.reports) fun o ho =>
    .bind (.mapError fun _ _ => NoSlippage.reports nofun) fun b hb => ?_
  have hquote := buyQuote_eq_ok.2 ⟨o, b, ho, hb, rfl⟩
  have hmissed (hless : b.sharesOut < minShares) : Reports (p.buyQuote collateralIn outcome)
      minShares (· < minShares) (.tooFewShares minShares b.sharesOut) :=
    fun hkind => ⟨b.sharesOut, hquote, hless, if_pos (Notice.kind_eq_refusal.1 hkind).1⟩
  exact .bind (.refuse hmissed) fun _ _ =>
    .bind (.refuse fun _ => NoSlippage.reports nofun) fun _ _ =>
    .bind (.mapError fun e _ => NoSlippage.reports (e.meant_ne_refusal _)) fun _ _ =>
    .bind (.mapError fun e _ => NoSlippage.reports (e.meant_ne_refusal _)) fun _ _ =>
    .bind (.mapError fun e _ => NoSlippage.reports (e.meant_ne_refusal _)) fun _ _ => .of_ok rfl

/-! ## Sales -/

/-- A quote for a sale is one of the curve. -/
theorem sellQuote_eq_ok {collateralOut q : Int} :
    p.sellQuote collateralOut outcome = .ok q ↔
      ∃ o, p.checkFunded outcome = .ok o ∧ p.quoteSell collateralOut o = .ok q :=
  bind_eq_ok _ _ _

/-- In a pool with liquidity, the balance of an outcome is what the account holds of it. -/
theorem shareBalance_of_checkFunded {o : Nat} (h : p.checkFunded outcome = .ok o) :
    p.shareBalance account outcome = .ok (p.shares.balance account o) := by
  obtain ⟨rfl, ho, -⟩ := checkFunded_ok h
  have hknown : 0 ≤ (o : Int) ∧ (o : Int) < p.outcomes := by omega
  have hstored : 0 ≤ (o : Int) ∧ (o : Int) < p.shares.outcomes := hknown
  simp only [shareBalance, checkOutcome, hknown, Shares.get, Shares.checkOutcome, hstored,
    and_self, if_true, Int.toNat_natCast, ok_bind]
  rfl

/-- A sale is made at its quote, which is within the limit and within the balance. -/
theorem sellQuote_of_sell {collateralOut maxShares : Int} {after : Pool} {s : Sale}
    (h : p.sell account collateralOut outcome maxShares = .ok (after, s)) :
    p.sellQuote collateralOut outcome = .ok s.sharesIn ∧ s.sharesIn ≤ maxShares ∧
      ∃ held, p.shareBalance account outcome = .ok held ∧ s.sharesIn ≤ held := by
  simp only [sell, bind_eq_ok (p.checkFunded _), bind_eq_ok (p.quoteSell _ _),
    refuseIf_bind_eq_ok, bind_eq_ok (Except.mapError _ _), pure, Except.pure, Except.ok.injEq,
    Prod.mk.injEq, not_lt] at h
  obtain ⟨o, ho, q, hq, henough, hheld, _, -, _, -, _, -, _, -, -, rfl⟩ := h
  exact ⟨sellQuote_eq_ok.2 ⟨o, ho, hq⟩, henough, _, shareBalance_of_checkFunded ho, hheld⟩

/-- In a pool that can be reached, a sale succeeds if its quote is within the limit and within the
balance. -/
theorem Reachable.exists_sell (hp : p.Reachable) {collateralOut maxShares q held : Int}
    (hquote : p.sellQuote collateralOut outcome = .ok q) (henough : q ≤ maxShares)
    (hbalance : p.shareBalance account outcome = .ok held) (hheld : q ≤ held) :
    ∃ after s, p.sell account collateralOut outcome maxShares = .ok (after, s) := by
  obtain ⟨o, ho, hq⟩ := sellQuote_eq_ok.1 hquote
  obtain rfl := Except.ok.inj (hbalance.symm.trans (shareBalance_of_checkFunded ho))
  have hquoted := (mapError_eq_ok _ _ _).1 hq
  have htight := Curve.tightSale_of_quoteSell hquoted
  obtain ⟨-, -, hout, -, -⟩ := Curve.quoteSell_ok hquoted
  obtain ⟨fee, hfee⟩ := Curve.exists_fee hout.le hp.sized.swapFee_nonneg hp.sized.swapFee_lt
  obtain ⟨d, hprepare⟩ :
      ∃ d, p.prepare (.trade account (.sell collateralOut outcome maxShares)) = .ok d := by
    simp only [prepare, prepareSell, ho, hq, ok_bind, refuseIf_bind, if_neg (not_lt.2 henough),
      if_neg (not_lt.2 hheld), hfee, htight.applied, Except.mapError]
    exact ⟨_, rfl⟩
  obtain ⟨after, -, hcall⟩ := hp.exists_call hprepare
  simp only [call, trade, bind_eq_ok] at hcall
  obtain ⟨_, ⟨⟨after, s⟩, hsell, -⟩, -⟩ := hcall
  exact ⟨after, s, hsell⟩

/-- A sale that misses its limit reports the limit and the quote. -/
theorem sell_reports (collateralOut maxShares : Int) :
    FailsIn (Reports (p.sellQuote collateralOut outcome) maxShares (maxShares < ·))
      (p.sell account collateralOut outcome maxShares) := by
  refine .bind ((p.checkFunded_noSlippage outcome).imp fun _ => NoSlippage.reports) fun o ho =>
    .bind (.mapError fun _ _ => NoSlippage.reports nofun) fun q hq => ?_
  have hquote := sellQuote_eq_ok.2 ⟨o, ho, hq⟩
  have hmissed (hmore : maxShares < q) : Reports (p.sellQuote collateralOut outcome)
      maxShares (maxShares < ·) (.tooManyShares maxShares q) :=
    fun hkind => ⟨q, hquote, hmore, if_pos (Notice.kind_eq_refusal.1 hkind).1⟩
  exact .bind (.refuse hmissed) fun _ _ =>
    .bind (.refuse fun _ => NoSlippage.reports nofun) fun _ _ =>
    .bind (.mapError fun e _ => NoSlippage.reports (e.meant_ne_refusal _)) fun _ _ =>
    .bind (.mapError fun e _ => NoSlippage.reports (e.meant_ne_refusal _)) fun _ _ =>
    .bind (.mapError fun e _ => NoSlippage.reports (e.meant_ne_refusal _)) fun _ _ =>
    .bind (.mapError fun e _ => NoSlippage.reports (e.meant_ne_refusal _)) fun _ _ => .of_ok rfl

/-! ## Fees -/

/-- Giving any part of a stake back pays the fees that the account was quoted. -/
theorem fees_of_exitPool {stake : Int} {after : Pool} {e : Exit}
    (h : p.exitPool account stake = .ok (after, e)) : e.fees = p.feesWithdrawable account := by
  obtain ⟨plan, hplanned, -, rfl⟩ := exitPool_ok h
  exact hplanned.accounting.1

/-- Without a stake, no fees are quoted. -/
theorem Ledgered.feesWithdrawable_of_no_stake (h : p.Ledgered)
    (hnone : ¬0 < p.stakes.balance account) : p.feesWithdrawable account = 0 := by
  have hstake := h.stakes.balance_nonneg account
  refine h.feesWithdrawable_eq_zero ?_
  rw [rawShare, show p.stakes.balance account = 0 by omega, FeeState.rawShare_zero]

/-- A payout pays the fees that the account was quoted, which are none without a stake. -/
theorem Ledgered.fees_of_payout (hledgered : p.Ledgered) {numerator : Numerator} {after : Pool}
    {s : Settlement} (h : p.payout account numerator = .ok (after, s)) :
    s.fees = p.feesWithdrawable account := by
  unfold payout at h
  simp only [refuseIf_bind_eq_ok, bind_eq_ok (Except.mapError _ _)] at h
  obtain ⟨-, _, -, h⟩ := h
  by_cases hstake : 0 < p.stakes.balance account
  · simp only [if_pos hstake, bind_eq_ok, pure, Except.pure, Except.ok.injEq,
      Prod.mk.injEq] at h
    obtain ⟨plan, hplan, _, -, _, -, -, rfl⟩ := h
    exact (planExit_ok hplan).accounting.1
  · simp only [if_neg hstake, refuseIf_bind_eq_ok, pure, Except.pure, Except.ok.injEq,
      Prod.mk.injEq] at h
    obtain ⟨-, -, rfl⟩ := h
    exact (hledgered.feesWithdrawable_of_no_stake hstake).symm

/-! ## All quotes -/

/-- A pool that does for an account what it quotes. -/
structure Honours (p : Pool) (account : Text) : Prop where
  /-- A purchase succeeds exactly if its quote is within the limit and not zero, and then it buys
  the quote. -/
  buy : ∀ collateralIn outcome minShares q,
    (∃ after b, p.buy account collateralIn outcome minShares = .ok (after, b) ∧
        b.sharesOut = q) ↔
      p.buyQuote collateralIn outcome = .ok q ∧ minShares ≤ q ∧ 0 < q
  /-- A sale succeeds exactly if its quote is within the limit and the balance, and then it sells
  the quote. -/
  sell : ∀ collateralOut outcome maxShares q,
    (∃ after s, p.sell account collateralOut outcome maxShares = .ok (after, s) ∧
        s.sharesIn = q) ↔
      p.sellQuote collateralOut outcome = .ok q ∧ q ≤ maxShares ∧
        ∃ held, p.shareBalance account outcome = .ok held ∧ q ≤ held
  /-- Giving any part of a stake back pays the quoted fees. -/
  exitPool : ∀ stake after e, p.exitPool account stake = .ok (after, e) →
    e.fees = p.feesWithdrawable account
  /-- A payout pays the quoted fees. -/
  payout : ∀ numerator after s, p.payout account numerator = .ok (after, s) →
    s.fees = p.feesWithdrawable account
  /-- A purchase that misses its limit reports the quote, which is less. -/
  tooFew : ∀ collateralIn outcome minShares e,
    p.buy account collateralIn outcome minShares = .error e →
      e.kind = .refusal .slippageExceeded →
        ∃ q, p.buyQuote collateralIn outcome = .ok q ∧ q < minShares ∧
          e.slippage? = some (minShares, q)
  /-- A sale that misses its limit reports the quote, which is more. -/
  tooMany : ∀ collateralOut outcome maxShares e,
    p.sell account collateralOut outcome maxShares = .error e →
      e.kind = .refusal .slippageExceeded →
        ∃ q, p.sellQuote collateralOut outcome = .ok q ∧ maxShares < q ∧
          e.slippage? = some (maxShares, q)

/-- **Quotes are executed**: pools that can be reached do for every account what they quote. -/
theorem quotes_are_executed {p : Pool} (hp : p.Reachable) (account : Text) :
    p.Honours account where
  buy collateralIn outcome minShares q := by
    constructor
    · rintro ⟨after, b, hbuy, rfl⟩
      exact buyQuote_of_buy hbuy
    · rintro ⟨hquote, henough, hsome⟩
      obtain ⟨after, b, hbuy⟩ :
          ∃ after b, p.buy account collateralIn outcome minShares = .ok (after, b) :=
        hp.exists_buy hquote henough hsome
      have hbought := (buyQuote_of_buy hbuy).1
      exact ⟨after, b, hbuy, Except.ok.inj (hbought.symm.trans hquote)⟩
  sell collateralOut outcome maxShares q := by
    constructor
    · rintro ⟨after, s, hsell, rfl⟩
      exact sellQuote_of_sell hsell
    · rintro ⟨hquote, henough, held, hbalance, hheld⟩
      obtain ⟨after, s, hsell⟩ := hp.exists_sell hquote henough hbalance hheld
      have hsold := (sellQuote_of_sell hsell).1
      exact ⟨after, s, hsell, Except.ok.inj (hsold.symm.trans hquote)⟩
  exitPool _ _ _ h := fees_of_exitPool h
  payout _ _ _ h := hp.ledgered.fees_of_payout h
  tooFew _ _ _ _ h := buy_reports _ _ _ h
  tooMany _ _ _ _ h := sell_reports _ _ _ h

/-- A purchase for fifty is made at its quote if that is the limit; with a limit of one more it is
told the quote. -/
theorem quote_for_fifty_is_executed :
    provided.Reachable ∧ provided.buyQuote 50 (.int 0) = .ok 59 ∧
      (∃ after b, provided.buy "a" 50 (.int 0) 59 = .ok (after, b) ∧ b.sharesOut = 59) ∧
      ∃ e, provided.buy "a" 50 (.int 0) 60 = .error e ∧ e.slippage? = some (60, 59) := by
  have hquote : provided.buyQuote 50 (.int 0) = .ok 59 := rfl
  have hmissed : provided.buy "a" 50 (.int 0) 60 = .error _ := rfl
  have hhonours := quotes_are_executed reachable_provided "a"
  have hbought := (hhonours.buy 50 (.int 0) 59 59).2 ⟨hquote, le_rfl, by decide⟩
  obtain ⟨q, htold, -, hreport⟩ := hhonours.tooFew 50 (.int 0) 60 _ hmissed rfl
  obtain rfl : q = 59 := Except.ok.inj (htold.symm.trans hquote)
  exact ⟨reachable_provided, hquote, hbought, _, hmissed, hreport⟩

end Pool

end PredictionMarket
