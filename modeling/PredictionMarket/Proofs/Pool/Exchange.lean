import PredictionMarket.Proofs.Pool.Conservation
import PredictionMarket.Proofs.Pool.FeeBalance
import PredictionMarket.Proofs.Pool.Holdings
import Mathlib.Algebra.BigOperators.Fin
import Mathlib.Algebra.Order.BigOperators.GroupWithZero.Finset

/-!
# Exchanges make no profit

An exchange is a purchase, a sale or a redemption: collateral for shares, or shares for collateral.
Accounts that start without shares cannot take more out of a pool by exchanges than they bring in,
fees included. What they brought in on balance is in the pool as complete sets, less the shares that
they still hold. If it were negative, every reserve would have become smaller, and so would their
product, which no exchange lowers.
-/

namespace PredictionMarket

/-- Whether a trade exchanges collateral and shares. -/
def Trade.isExchange {amount : Type} : Trade amount → Bool
  | .buy _ _ _ => true
  | .sell _ _ _ => true
  | .redeem _ => true
  | .addLiquidity _ _ => false
  | .exitPool _ => false

/-- Whether a call is an exchange of one of some accounts. -/
def PoolCall.IsExchangeOf (accounts : Set Text) : PoolCall → Prop
  | .trade sender t => sender ∈ accounts ∧ t.isExchange = true
  | .payout _ _ => False

namespace PoolReceipt

/-- The collateral that a call takes in. -/
def paidIn : PoolReceipt → Int
  | traded r => r.paidIn
  | settled _ => 0

/-- The collateral that a call owes. -/
def paidOut : PoolReceipt → Int
  | traded r => r.paidOut
  | settled s => s.total

end PoolReceipt

namespace Pool

/-- The collateral that a list of calls took in. -/
def paidIn (receipts : List PoolReceipt) : Int :=
  (receipts.map PoolReceipt.paidIn).sum

/-- The collateral that a list of calls owes. -/
def paidOut (receipts : List PoolReceipt) : Int :=
  (receipts.map PoolReceipt.paidOut).sum

/-! ## One exchange -/

/-- An exchange leaves the stakes, does not lower the product of the reserves, and pays no fees
out. -/
theorem Traded.exchange {p after : Pool} {sender : Text} {t : Trade Int} {r : Receipt}
    (h : p.Traded sender t after r) (ht : t.isExchange = true) :
    after.stakes = p.stakes ∧ p.reserves.prod ≤ after.reserves.prod ∧ r.feesPaid = 0 := by
  cases h with
  | addLiquidity | exitPool => cases ht
  | buy _ _ hquoted _ _ happlied _ _ => exact ⟨rfl, Curve.applyBuy_prod_le hquoted happlied, rfl⟩
  | sell _ _ hquoted _ _ _ happlied _ _ =>
    exact ⟨rfl, Curve.applySell_prod_le hquoted happlied, rfl⟩
  | redeem _ _ _ _ _ => exact ⟨rfl, le_rfl, rfl⟩

/-! ## Runs of exchanges -/

/-- A pool and what it becomes by exchanges of some accounts, which brought in so much more than
they took out and than was kept as fees. -/
structure Exchanged (p : Pool) (accounts : Set Text) (net : Int) (after : Pool) : Prop where
  /-- The pool is well formed. -/
  wellFormed : after.WellFormed
  /-- The outcomes stay. -/
  outcomes : after.outcomes = p.outcomes
  /-- The stakes stay. -/
  stakes : after.stakes = p.stakes
  /-- The product of the reserves does not fall. -/
  prod_le : p.reserves.prod ≤ after.reserves.prod
  /-- All other accounts keep their shares. -/
  others : ∀ a ∉ accounts, ∀ o, after.shares.balance a o = p.shares.balance a o
  /-- What came in on balance is in the pool as complete sets. -/
  units : ∀ o < p.outcomes, after.units o = p.units o + net

/-- Before any exchange nothing has come in. -/
theorem Exchanged.refl {p : Pool} (hp : p.WellFormed) (accounts : Set Text) :
    p.Exchanged accounts 0 p where
  wellFormed := hp
  outcomes := rfl
  stakes := rfl
  prod_le := le_rfl
  others := fun _ _ _ => rfl
  units := fun _ _ => (add_zero _).symm

/-- One more exchange of one of the accounts adds what it brings in. -/
theorem Exchanged.trade {p q after : Pool} {accounts : Set Text} {net : Int}
    (h : p.Exchanged accounts net q) {sender : Text} {t : Trade Int} {r : Receipt}
    (hsender : sender ∈ accounts) (ht : t.isExchange = true) (htraded : q.Traded sender t after r) :
    p.Exchanged accounts (net + (r.paidIn - r.paidOut - r.collected)) after := by
  obtain ⟨hstakes, hprod, hfees⟩ := htraded.exchange ht
  have hflow := r.paidIn_sub_paidOut
  refine ⟨htraded.wellFormed h.wellFormed, htraded.sameTerms.outcomes.trans h.outcomes,
    hstakes.trans h.stakes, h.prod_le.trans hprod, fun a ha o => ?_, fun o ho => ?_⟩
  · have hne : a ≠ sender := fun hsame => ha (hsame ▸ hsender)
    rw [(htraded.sameHoldings hne).shares o, h.others a ha o]
  · rw [htraded.units_eq h.wellFormed (h.outcomes.symm ▸ ho), h.units o ho]
    omega

/-- A run of exchanges of some accounts brings in what its receipts say. -/
theorem exchanged_run {p : Pool} (hp : p.WellFormed) {accounts : Set Text} {calls : List PoolCall}
    (hcalls : ∀ c ∈ calls, c.IsExchangeOf accounts) :
    p.Exchanged accounts
      (paidIn (p.run calls).2 - paidOut (p.run calls).2 - collected (p.run calls).2)
      (p.run calls).1 := by
  refine run_invariant_of (Q := PoolCall.IsExchangeOf accounts)
    (P := fun q past => p.Exchanged accounts (paidIn past - paidOut past - collected past) q)
    (fun {q past c after r} hc hq hcall => ?_) [] (.refl hp accounts) calls hcalls
  rcases call_ok hcall with ⟨sender, t, receipt, rfl, rfl, htraded⟩ | ⟨_, _, _, rfl, -, -⟩
  · obtain ⟨hsender, ht⟩ := hc
    have hafter := hq.trade hsender ht htraded
    have hsum : paidIn (past ++ [.traded receipt]) - paidOut (past ++ [.traded receipt]) -
        collected (past ++ [.traded receipt]) = paidIn past - paidOut past - collected past +
          (receipt.paidIn - receipt.paidOut - receipt.collected) := by
      simp only [paidIn, paidOut, collected, List.map_append, List.sum_append, List.map_singleton,
        List.sum_singleton, PoolReceipt.paidIn, PoolReceipt.paidOut, PoolReceipt.collected]
      ring
    rw [hsum]
    exact hafter
  · cases hc

/-! ## No profit -/

/-- The product of a list, place by place. -/
theorem prod_eq_prod_range (reserves : List Int) :
    reserves.prod = ∏ o ∈ Finset.range reserves.length, reserves.getD o 0 := by
  rw [Finset.prod_range, ← Fin.prod_univ_getElem]
  exact Finset.prod_congr rfl fun o _ => (List.getD_eq_getElem _ _ o.isLt).symm

/-- If every reserve has become smaller, so has their product. -/
theorem WellFormed.prod_lt {p after : Pool} (hp : p.WellFormed) (hafter : after.WellFormed)
    (houtcomes : after.outcomes = p.outcomes) (hfunded : 0 < after.stakes.supply)
    (h : ∀ o < p.outcomes, after.reserves.getD o 0 < p.reserves.getD o 0) :
    after.reserves.prod < p.reserves.prod := by
  have hlength : after.reserves.length = p.outcomes := hafter.reserves_length.trans houtcomes
  have htwo := hp.two_le_outcomes
  rw [prod_eq_prod_range, prod_eq_prod_range, hlength, hp.reserves_length]
  refine Finset.prod_lt_prod_of_nonempty (fun o ho => ?_)
    (fun o ho => h o (Finset.mem_range.1 ho)) (Finset.nonempty_range_iff.2 (by omega))
  have ho : o < after.reserves.length := hlength.symm ▸ Finset.mem_range.1 ho
  rw [List.getD_eq_getElem _ _ ho]
  exact hafter.funded hfunded _ (List.getElem_mem ho)

/-- Accounts that start without shares bring in no less than they take out. -/
theorem Exchanged.net_nonneg {p after : Pool} {accounts : Set Text} {net : Int}
    (h : p.Exchanged accounts net after) (hp : p.WellFormed) (hfunded : 0 < p.stakes.supply)
    (hnone : ∀ a ∈ accounts, ∀ o, p.shares.balance a o = 0) : 0 ≤ net := by
  -- A negative balance would have come out of every reserve, since the accounts can only have more
  -- shares than before.
  by_contra hneg
  have hsmaller : ∀ o < p.outcomes, after.reserves.getD o 0 < p.reserves.getD o 0 := by
    intro o ho
    have hsupply : p.shares.supply o ≤ after.shares.supply o := by
      refine Shares.supply_le_supply fun a => ?_
      by_cases ha : a ∈ accounts
      · rw [hnone a ha o]
        exact h.wellFormed.shares.balance_nonneg a o
      · exact (h.others a ha o).ge
    have hunits := h.units o ho
    unfold Pool.units at hunits
    omega
  have hprod := hp.prod_lt h.wellFormed h.outcomes (h.stakes ▸ hfunded) hsmaller
  exact absurd h.prod_le (not_le.2 hprod)

/-- **No risk-free profit**: whatever exchanges some accounts make that start without shares in a
pool with liquidity, what they are paid, with all fees on top, is at most what they pay. -/
theorem exchanges_make_no_profit {p : Pool} (hp : p.Reachable) (hfunded : 0 < p.stakes.supply)
    {accounts : Set Text} (hnone : ∀ a ∈ accounts, ∀ o, p.shares.balance a o = 0)
    {calls : List PoolCall} (hcalls : ∀ c ∈ calls, c.IsExchangeOf accounts) :
    paidOut (p.run calls).2 + collected (p.run calls).2 ≤ paidIn (p.run calls).2 := by
  have hexchanged := exchanged_run hp.wellFormed hcalls
  have hnet := hexchanged.net_nonneg hp.wellFormed hfunded hnone
  omega

/-- A pool of two outcomes that only its provider has shares of. -/
def provided : Pool where
  marketId := 0
  token := "T"
  denomination := 1
  swapFee := 100
  reserves := [33, 100]
  stakes := ⟨.ofList [("c", 100)], 100⟩
  shares := ⟨2, .ofList [(⟨"c", 0⟩, 67)]⟩

/-- The provider has deposited by weights. -/
theorem reachable_provided : provided.Reachable :=
  ⟨0, 2, "T", 0, 100, _, [.trade "c" (.addLiquidity 100 (some [1, 3]))], rfl, rfl⟩

/-- Two accounts that buy both outcomes, sell and redeem get back less than they paid, even with the
fees. -/
theorem exchanges_of_two_make_no_profit :
    ∃ calls : List PoolCall, provided.Reachable ∧ 0 < provided.stakes.supply ∧
      (∀ a : Text, a ≠ "c" → ∀ o, provided.shares.balance a o = 0) ∧
      (∀ c ∈ calls, c.IsExchangeOf {a | a ≠ "c"}) ∧
      (provided.run calls).2.length = 5 ∧ paidIn (provided.run calls).2 = 100 ∧
      paidOut (provided.run calls).2 + collected (provided.run calls).2 ≤
        paidIn (provided.run calls).2 := by
  have hnone : ∀ a : Text, a ≠ "c" → ∀ o, provided.shares.balance a o = 0 := by
    intro a ha o
    have hother : (⟨a, o⟩ : Holding) ≠ ⟨"c", 0⟩ := fun hsame => ha (congrArg Holding.account hsame)
    have hinserted := Table.get?_insert_of_ne (.empty : Table Holding Int) hother 67
    exact congrArg (fun balance => balance.getD 0) hinserted
  have hcalls : ∀ c ∈ [PoolCall.trade "a" (.buy 50 (.int 0) 0), .trade "b" (.buy 40 (.int 1) 0),
      .trade "a" (.sell 20 (.int 0) 60), .trade "b" (.buy 10 (.int 0) 0),
      .trade "b" (.redeem 10)], c.IsExchangeOf {a | a ≠ "c"} := by
    simp only [List.forall_mem_cons, PoolCall.IsExchangeOf, Trade.isExchange, Set.mem_ofPred_eq]
    exact ⟨by decide, by decide, by decide, by decide, by decide, by simp⟩
  exact ⟨_, reachable_provided, by decide, hnone, hcalls, by decide +kernel, by decide +kernel,
    exchanges_make_no_profit reachable_provided (by decide) hnone hcalls⟩

end Pool

end PredictionMarket
