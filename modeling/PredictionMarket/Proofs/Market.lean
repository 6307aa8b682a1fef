import PredictionMarket.Market
import PredictionMarket.Proofs.Pool.Conservation
import PredictionMarket.Proofs.Pool.FeeBalance

/-!
# The accounts of a market

A market is accounted for by the receipts of its trades and the settlements of its accounts. As
long as nothing is claimed, there are as many units of each outcome as complete sets were issued.
Once the market is final, what was paid for shares and what the units left are worth stay within the
worth of all sets that were issued. Fees are paid out of fees at all times. So a market never owes
more than it took in.
-/

namespace PredictionMarket.Market

/-! ## What the calls of a market do -/

/-- Trading is on in a market that is not final, not switched off and not over. -/
theorem checkTrading_ok {m : Market} {now : Int} {u : Unit} :
    m.checkTrading now = .ok u ↔ m.finalized = false ∧ m.enabled = true ∧ now < m.endTime := by
  simp only [checkTrading, refuseIf_bind_eq_ok, refuseIf_eq_ok, Bool.not_eq_true, not_le,
    Bool.not_eq_true', Bool.not_eq_false]

/-- A trade in a market is one in its pool. -/
theorem trade_ok {m after : Market} {sender : Text} {t : Trade Int} {now : Int} {r : Receipt}
    (h : m.trade sender t now = .ok (after, r)) :
    m.finalized = false ∧ ∃ pool, m.pool.Traded sender t pool r ∧ after = { m with pool } := by
  simp only [trade, bind_eq_ok, checkTrading_ok, mapError_eq_ok, pure, Except.pure,
    Except.ok.injEq, Prod.exists, Prod.mk.injEq] at h
  obtain ⟨_, ⟨hopen, -, -⟩, pool, receipt, htrade, rfl, rfl⟩ := h
  exact ⟨hopen, pool, Pool.trade_ok htrade, rfl⟩

/-- A trade that is carried out is in time. -/
theorem open_of_trade {m after : Market} {sender : Text} {t : Trade Int} {now : Int} {r : Receipt}
    (h : m.trade sender t now = .ok (after, r)) :
    m.finalized = false ∧ m.enabled = true ∧ now < m.endTime := by
  simp only [trade, bind_eq_ok] at h
  obtain ⟨_, hchecked, -⟩ := h
  exact checkTrading_ok.1 hchecked

/-- A market that is over and not final waits for its resolution. -/
theorem checkAwaiting_ok {m : Market} {now : Int} {u : Unit} :
    m.checkAwaiting now = .ok u ↔ m.finalized = false ∧ m.endTime ≤ now := by
  simp only [checkAwaiting, refuseIf_bind_eq_ok, refuseIf_eq_ok, Bool.not_eq_true, not_lt]

/-- A ruling makes a waiting market final. -/
theorem rule_ok {m after : Market} {vector : Option (List Value)} {now : Int}
    {numerator : Numerator} (h : m.rule vector now = .ok (after, numerator)) :
    m.finalized = false ∧ m.endTime ≤ now ∧ m.ruling vector = .ok numerator ∧
      after = m.finalize numerator := by
  simp only [rule, bind_eq_ok, checkAwaiting_ok, pure, Except.pure, Except.ok.injEq,
    Prod.mk.injEq] at h
  obtain ⟨_, ⟨hopen, hover⟩, _, hruling, rfl, rfl⟩ := h
  exact ⟨hopen, hover, hruling, rfl⟩

/-- An answer that is stored resolves the market, which is not final. -/
theorem recordAnswer_ok {m after : Market} {answer : Answer} {now : Int}
    (h : m.recordAnswer answer now = .ok after) :
    m.finalized = false ∧ m.resolutionTime ≤ now ∧ (∃ numerator, m.resolve answer = .ok numerator) ∧
      after = { m with oracleAnswer := some answer, dataRequestFinalized := true } := by
  simp only [recordAnswer, bind_eq_ok, refuseIf_eq_ok, pure, Except.pure, Except.ok.injEq,
    Bool.not_eq_true, not_lt] at h
  obtain ⟨_, hopen, _, hnow, numerator, hresolve, rfl⟩ := h
  exact ⟨hopen, hnow, ⟨numerator, hresolve⟩, rfl⟩

/-- The stored answer makes a waiting market final. -/
theorem finalizeFromOracle_ok {m after : Market} {now : Int} {numerator : Numerator}
    (h : m.finalizeFromOracle now = .ok (after, numerator)) :
    m.finalized = false ∧ m.endTime ≤ now ∧ m.dataRequestFinalized = true ∧
      (∃ answer, m.oracleAnswer = some answer ∧ m.resolve answer = .ok numerator) ∧
      after = m.finalize numerator := by
  simp only [finalizeFromOracle, bind_eq_ok, checkAwaiting_ok] at h
  obtain ⟨_, ⟨hopen, hover⟩, h⟩ := h
  split at h
  · next answer hanswered hstored =>
    simp only [bind_eq_ok, pure, Except.pure, Except.ok.injEq, Prod.mk.injEq] at h
    obtain ⟨_, hresolve, rfl, rfl⟩ := h
    exact ⟨hopen, hover, hanswered, ⟨answer, hstored, hresolve⟩, rfl⟩
  · cases h

/-- A stored answer that resolves a waiting market makes it final. -/
theorem finalizeFromOracle_eq_ok {m : Market} {answer : Answer} {numerator : Numerator} {now : Int}
    (hopen : m.finalized = false) (hended : m.endTime ≤ now)
    (hanswered : m.dataRequestFinalized = true) (hstored : m.oracleAnswer = some answer)
    (hresolve : m.resolve answer = .ok numerator) :
    m.finalizeFromOracle now = .ok (m.finalize numerator, numerator) := by
  have hawaiting : m.checkAwaiting now = .ok () := checkAwaiting_ok.2 ⟨hopen, hended⟩
  rw [finalizeFromOracle, hawaiting, ok_bind, hanswered, hstored]
  simp only [hresolve, ok_bind]
  rfl

/-- A claim on a final market is a settlement of its pool. -/
theorem claim_ok {m after : Market} {account : Text} {s : Settlement}
    (h : m.claim account = .ok (after, s)) :
    m.finalized = true ∧ ∃ pool, m.pool.Settled account m.numerator pool s ∧
      after = { m with pool } := by
  simp only [claim, bind_eq_ok, refuseIf_eq_ok, mapError_eq_ok, pure, Except.pure,
    Except.ok.injEq, Prod.exists, Prod.mk.injEq, Bool.not_eq_true', Bool.not_eq_false] at h
  obtain ⟨_, hfinal, pool, settlement, hpayout, rfl, rfl⟩ := h
  exact ⟨hfinal, pool, Pool.payout_ok hpayout, rfl⟩

/-! ## Accounts -/

/-- A market whose trades and settlements account for what is in its pool. -/
structure Accounted (m : Market) (trades : List Receipt) (settlements : List Settlement) :
    Prop where
  /-- The pool is well formed. -/
  wellFormed : m.pool.WellFormed
  /-- The fee accounting is covered by the collected fees. -/
  backed : m.pool.fees.Backed (trades.map Receipt.collected).sum
    ((trades.map Receipt.feesPaid).sum + (settlements.map Settlement.fees).sum)
  /-- Nothing was claimed yet, and the units are the issued sets; or the market is final, and the
  issued sets are worth what was paid for shares and what is left. -/
  units :
    (settlements = [] ∧
      ∀ o < m.pool.outcomes, m.pool.units o = (trades.map Receipt.issued).sum) ∨
    (m.finalized = true ∧ ∃ vector,
      m.numerator.vector m.pool.outcomes m.pool.denomination = .ok vector ∧
        m.pool.denomination * (settlements.map Settlement.sharePayout).sum +
          m.pool.worth vector ≤ m.pool.denomination * (trades.map Receipt.issued).sum)

/-- A new market has nothing to account for. -/
theorem accounted_new {m : Market} {marketId outcomes decimals swapFee : Int} {token : Text}
    (h : Pool.make marketId outcomes token decimals swapFee = .ok m.pool) : m.Accounted [] [] where
  wellFormed := Pool.wellFormed_make h
  backed := Pool.backed_make h
  units := .inl ⟨rfl, fun o _ => Pool.units_make h o⟩

/-- As long as a market is not final, nothing was claimed, and the units are the issued sets. -/
theorem Accounted.of_open {m : Market} {trades : List Receipt} {settlements : List Settlement}
    (h : m.Accounted trades settlements) (hopen : m.finalized = false) :
    settlements = [] ∧
      ∀ o < m.pool.outcomes, m.pool.units o = (trades.map Receipt.issued).sum := by
  rcases h.units with hunits | ⟨hfinal, -⟩
  · exact hunits
  · rw [hopen] at hfinal
    cases hfinal

/-- A trade is accounted for by its receipt. -/
theorem Accounted.trade {m after : Market} {trades : List Receipt}
    {settlements : List Settlement} {sender : Text} {t : Trade Int} {now : Int} {r : Receipt}
    (h : m.Accounted trades settlements) (htrade : m.trade sender t now = .ok (after, r)) :
    after.Accounted (trades ++ [r]) settlements := by
  obtain ⟨hopen, pool, htraded, rfl⟩ := trade_ok htrade
  obtain ⟨hnone, hunits⟩ := h.of_open hopen
  have hbacked := htraded.backed h.backed
  refine ⟨htraded.wellFormed h.wellFormed, ?_, .inl ⟨hnone, fun o ho => ?_⟩⟩
  · simpa [add_right_comm] using hbacked
  · have ho : o < m.pool.outcomes := htraded.sameTerms.outcomes ▸ ho
    dsimp only
    rw [htraded.units_eq h.wellFormed ho, hunits o ho]
    simp

/-- A claim is accounted for by its settlement. -/
theorem Accounted.claim {m after : Market} {trades : List Receipt}
    {settlements : List Settlement} {account : Text} {s : Settlement}
    (h : m.Accounted trades settlements) (hclaim : m.claim account = .ok (after, s)) :
    after.Accounted trades (settlements ++ [s]) := by
  obtain ⟨hfinal, pool, hsettled, rfl⟩ := claim_ok hclaim
  have hterms := hsettled.sameTerms
  have hbacked := hsettled.backed h.backed
  obtain ⟨vector, _, hvector, -⟩ := hsettled.units_eq h.wellFormed
  have hworth := (hsettled.worth_le h.wellFormed hvector).2
  have hbefore : m.pool.denomination * (settlements.map Settlement.sharePayout).sum +
      m.pool.worth vector ≤ m.pool.denomination * (trades.map Receipt.issued).sum := by
    rcases h.units with ⟨rfl, hunits⟩ | ⟨-, other, hother, hle⟩
    · have hdivides := Numerator.vector_ok h.wellFormed.denomination_pos.le hvector
      rw [Pool.worth_of_units_eq hdivides hunits]
      simp
    · obtain rfl : vector = other := Except.ok.inj (hvector.symm.trans hother)
      exact hle
  refine ⟨hsettled.wellFormed h.wellFormed, ?_, .inr ⟨hfinal, vector, ?_, ?_⟩⟩
  · simpa [add_assoc] using hbacked
  · dsimp only
    rw [hterms.outcomes, hterms.denomination]
    exact hvector
  · dsimp only
    rw [hterms.denomination, List.map_append, List.sum_append, List.map_singleton,
      List.sum_singleton, mul_add]
    omega

/-- A change that leaves the pool, and the resolution of a market that is final, needs no account of
its own. -/
theorem Accounted.revise {m after : Market} {trades : List Receipt}
    {settlements : List Settlement} (h : m.Accounted trades settlements)
    (hpool : after.pool = m.pool)
    (hfinal : m.finalized = true → after.finalized = true ∧ after.numerator = m.numerator) :
    after.Accounted trades settlements := by
  refine ⟨hpool ▸ h.wellFormed, hpool ▸ h.backed, ?_⟩
  rw [hpool]
  rcases h.units with hopen | ⟨hwas, vector, hvector, hle⟩
  · exact .inl hopen
  · obtain ⟨his, hsame⟩ := hfinal hwas
    exact .inr ⟨his, vector, hsame ▸ hvector, hle⟩

/-- What was paid for shares is at most what the issued sets cost. -/
theorem Accounted.sharePayout_le {m : Market} {trades : List Receipt}
    {settlements : List Settlement} (h : m.Accounted trades settlements) :
    (settlements.map Settlement.sharePayout).sum ≤ (trades.map Receipt.issued).sum := by
  have hpos := h.wellFormed.denomination_pos
  rcases h.units with ⟨rfl, hunits⟩ | ⟨-, vector, hvector, hle⟩
  · have hfirst : 0 < m.pool.outcomes := by
      have htwo := h.wellFormed.two_le_outcomes
      omega
    have hnonneg := h.wellFormed.units_nonneg hfirst
    rw [hunits 0 hfirst] at hnonneg
    simpa using hnonneg
  · have hworth := h.wellFormed.worth_nonneg (Numerator.vector_ok hpos.le hvector)
    exact le_of_mul_le_mul_left (by linarith) hpos

/-- What a list of trades took in and owes pays for the sets that they issued and for the fees. -/
theorem sum_paidIn_sub_paidOut (trades : List Receipt) :
    (trades.map Receipt.paidIn).sum - (trades.map Receipt.paidOut).sum =
      (trades.map Receipt.issued).sum + (trades.map Receipt.collected).sum -
        (trades.map Receipt.feesPaid).sum := by
  induction trades with
  | nil => simp
  | cons r trades ih =>
    have hfirst := r.paidIn_sub_paidOut
    simp only [List.map_cons, List.sum_cons]
    linarith

/-- A market never owes more than it took in. -/
theorem Accounted.owed_le {m : Market} {trades : List Receipt} {settlements : List Settlement}
    (h : m.Accounted trades settlements) :
    (trades.map Receipt.paidOut).sum + (settlements.map Settlement.total).sum ≤
      (trades.map Receipt.paidIn).sum := by
  have hflow := sum_paidIn_sub_paidOut trades
  have hshares := h.sharePayout_le
  have hfees := h.backed.paid_le
  have htotal : (settlements.map Settlement.total).sum =
      (settlements.map Settlement.sharePayout).sum + (settlements.map Settlement.fees).sum :=
    List.sum_map_add
  omega

end PredictionMarket.Market
