import PredictionMarket.Proofs.Pool.Exchange
import PredictionMarket.Proofs.Pool.FeeBalance
import PredictionMarket.Proofs.Pool.Ledger
import Mathlib.Algebra.Order.BigOperators.Ring.Finset

/-!
# What providers are quoted

Every provider is quoted the fees that it could be paid now, and each quote alone is covered by the
fees that are left. All quotes together need not be. Stakes are rounded when they are issued and
given back, so an account may have withdrawn more than belongs to its stake now. The others are
quoted this overdraft as if it were still there, and who asks last is paid less.

An overdraft can also outgrow the weight. The undistributed balance is negative then, and swallows
fees that are collected later: not even a provider who has all the pool tokens is quoted them.
-/

namespace PredictionMarket.Pool

/-- The part of the weight that belongs to the stake of an account. -/
def rawShare (p : Pool) (account : Text) : Int :=
  p.fees.rawShare (p.stakes.balance account) p.stakes.supply

/-- How much more an account has withdrawn than belongs to its stake. -/
def overdraft (p : Pool) (account : Text) : Int :=
  max 0 (p.withdrawnBy account - p.rawShare account)

/-- What all accounts with a stake are quoted together. -/
def quotedFees (p : Pool) : Int :=
  Amounts.sum (p.stakes.balances.keys.map p.feesWithdrawable)

/-- The overdrafts of all accounts, also of those that have no stake any more. -/
def overdrawn (p : Pool) : Int :=
  Amounts.sum (p.withdrawn.keys.map p.overdraft)

/-! ## Overdrafts -/

/-- Overdrafts are not negative. -/
theorem overdrawn_nonneg (p : Pool) : 0 ≤ p.overdrawn := by
  refine List.sum_nonneg fun overdraft hmem => ?_
  obtain ⟨account, -, rfl⟩ := List.mem_map.1 hmem
  exact le_max_left _ _

/-- Who has withdrawn nothing has no overdraft. -/
theorem Ledgered.overdraft_eq_zero {p : Pool} (h : p.Ledgered) {account : Text}
    (hnone : p.withdrawn.get? account = none) : p.overdraft account = 0 := by
  have hshare : 0 ≤ p.rawShare account :=
    FeeState.rawShare_nonneg h.weight_nonneg (h.stakes.balance_nonneg account) _
  have hheld : p.withdrawnBy account = 0 := by
    rw [withdrawnBy, Table.getD, hnone, Option.getD_none]
  unfold overdraft
  omega

/-! ## All quotes together -/

/-- The accounts that have a stake, or have withdrawn fees. -/
def feeAccounts (p : Pool) : Finset Text :=
  p.stakes.balances.keys.toFinset ∪ p.withdrawn.keys.toFinset

/-- A quote is at most what belongs to the stake less what is withdrawn, where an overdraft does not
count. -/
theorem feesWithdrawable_le (p : Pool) (account : Text) :
    p.feesWithdrawable account ≤
      p.rawShare account - p.withdrawnBy account + p.overdraft account := by
  unfold feesWithdrawable FeeState.withdrawable overdraft rawShare
  omega

/-- To whom nothing belongs, nothing is quoted. -/
theorem Ledgered.feesWithdrawable_eq_zero {p : Pool} (h : p.Ledgered) {account : Text}
    (hshare : p.rawShare account = 0) : p.feesWithdrawable account = 0 := by
  have hheld := h.withdrawnBy_nonneg account
  unfold rawShare at hshare
  unfold feesWithdrawable FeeState.withdrawable
  omega

/-- An account without a stake has no part of the weight. -/
theorem rawShare_of_no_stake {p : Pool} {account : Text}
    (hnone : p.stakes.balances.get? account = none) : p.rawShare account = 0 := by
  rw [rawShare, Stakes.balance, Table.getD, hnone, Option.getD_none, FeeState.rawShare_zero]

/-- What belongs to the stakes of some accounts is within the weight. -/
theorem Ledgered.sum_rawShare_le {p : Pool} (h : p.Ledgered) (hfunded : 0 < p.stakes.supply)
    {accounts : Finset Text} (hall : p.stakes.balances.keys.toFinset ⊆ accounts) :
    ∑ account ∈ accounts, p.rawShare account ≤ p.fees.weight := by
  refine le_of_mul_le_mul_right ?_ hfunded
  calc (∑ account ∈ accounts, p.rawShare account) * p.stakes.supply
      = ∑ account ∈ accounts, p.rawShare account * p.stakes.supply := Finset.sum_mul _ _ _
    _ ≤ ∑ account ∈ accounts, p.fees.weight * p.stakes.balance account :=
        Finset.sum_le_sum fun account _ => p.fees.rawShare_mul_le _ hfunded
    _ = p.fees.weight * ∑ account ∈ accounts, p.stakes.balance account :=
        (Finset.mul_sum _ _ _).symm
    _ = p.fees.weight * p.stakes.supply := by
        rw [h.stakes.supply_eq_sum hall]

/-- In a pool with pool tokens, all quotes together exceed the undistributed balance by the
overdrafts at most. -/
theorem Ledgered.quotedFees_le {p : Pool} (h : p.Ledgered) (hfunded : 0 < p.stakes.supply) :
    p.quotedFees ≤ p.fees.undistributed + p.overdrawn := by
  have hstakes : p.stakes.balances.keys.toFinset ⊆ p.feeAccounts := Finset.subset_union_left
  have hwithdrawn : p.withdrawn.keys.toFinset ⊆ p.feeAccounts := Finset.subset_union_right
  -- Stakes and withdrawn fees are kept for different accounts, so all is summed up over both.
  have hquoted : p.quotedFees = ∑ account ∈ p.feeAccounts, p.feesWithdrawable account :=
    p.stakes.balances.sum_keys_eq_sum hstakes fun _ hnone =>
      h.feesWithdrawable_eq_zero (rawShare_of_no_stake hnone)
  have hoverdrawn : p.overdrawn = ∑ account ∈ p.feeAccounts, p.overdraft account :=
    p.withdrawn.sum_keys_eq_sum hwithdrawn fun _ => h.overdraft_eq_zero
  have htaken : p.fees.withdrawn = ∑ account ∈ p.feeAccounts, p.withdrawnBy account :=
    h.withdrawn_total.symm.trans (p.withdrawn.total_eq_sum hwithdrawn)
  have hshares := h.sum_rawShare_le hfunded hstakes
  have hquotes := Finset.sum_le_sum fun account (_ : account ∈ p.feeAccounts) =>
    p.feesWithdrawable_le account
  rw [Finset.sum_add_distrib, Finset.sum_sub_distrib] at hquotes
  unfold FeeState.undistributed
  omega

/-- Without pool tokens, nothing is quoted. -/
theorem Ledgered.quotedFees_eq_zero {p : Pool} (h : p.Ledgered) (hnone : p.stakes.supply = 0) :
    p.quotedFees = 0 := by
  have hquote : ∀ account, p.feesWithdrawable account = 0 := fun account =>
    h.feesWithdrawable_eq_zero (if_pos hnone.le)
  rw [quotedFees, p.stakes.balances.sum_keys_eq_sum subset_rfl fun account _ => hquote account]
  exact Finset.sum_eq_zero fun account _ => hquote account

/-- After every run of a new pool, each quote is covered by what is left of the collected fees, and
all quotes together exceed it by the overdrafts at most. So they can all be paid if nobody has
withdrawn more than belongs to its stake. -/
theorem quotes_covered_after_run {marketId outcomes decimals swapFee : Int} {token : Text}
    {p : Pool} (hmake : Pool.make marketId outcomes token decimals swapFee = .ok p)
    (calls : List PoolCall) :
    (∀ account, (p.run calls).1.feesWithdrawable account ≤
        collected (p.run calls).2 - feesPaid (p.run calls).2) ∧
      (p.run calls).1.quotedFees ≤
        collected (p.run calls).2 - feesPaid (p.run calls).2 + (p.run calls).1.overdrawn := by
  have hbacked := run_invariant
    (P := fun p past => p.fees.Backed (collected past) (feesPaid past))
    backed_call [] (backed_make hmake) calls
  have hbalance := hbacked.balance_le
  have hpaid := hbacked.paid_le
  have hreachable : (p.run calls).1.Reachable := ⟨_, _, _, _, _, p, calls, hmake, rfl⟩
  have hledgered := hreachable.ledgered
  rw [List.nil_append] at hbalance hpaid
  constructor
  · intro account
    have hwithin : (p.run calls).1.feesWithdrawable account ≤
        max 0 (p.run calls).1.fees.undistributed := FeeState.withdrawable_le _ _ _ _
    omega
  · rcases hledgered.stakes.supply_nonneg.lt_or_eq with hfunded | hnone
    · have hquoted := hledgered.quotedFees_le hfunded
      omega
    · have hquoted := hledgered.quotedFees_eq_zero hnone.symm
      have hoverdrawn := (p.run calls).1.overdrawn_nonneg
      omega

/-- A provider has earned a fee of one when two others join. The first of them is booked one as
withdrawn, the second nothing, and the one stays booked when the first leaves: each time a part of a
unit is rounded off. -/
def overdraw : List PoolCall :=
  [.trade "a" (.addLiquidity 3 none), .trade "a" (.exitPool 1), .trade "a" (.redeem 1),
    .trade "b" (.addLiquidity 3 none), .trade "c" (.addLiquidity 2 none),
    .trade "b" (.exitPool 3)]

/-- Two quotes of one are within a fee of one and an overdraft of one. -/
theorem quotes_covered_after_overdraw :
    ∃ p, Pool.make 0 2 "T" 0 100 = .ok p ∧ (p.run overdraw).2.length = 6 ∧
      (p.run overdraw).1.overdrawn = 1 ∧
      (∀ account, (p.run overdraw).1.feesWithdrawable account ≤
        collected (p.run overdraw).2 - feesPaid (p.run overdraw).2) ∧
      (p.run overdraw).1.quotedFees ≤
        collected (p.run overdraw).2 - feesPaid (p.run overdraw).2 +
          (p.run overdraw).1.overdrawn := by
  have hmake : Pool.make 0 2 "T" 0 100 = .ok _ := rfl
  exact ⟨_, hmake, by decide +kernel, by decide +kernel, quotes_covered_after_run hmake overdraw⟩

/-- Two providers are quoted one each, and one is all that is left of the fees. -/
theorem quotes_exceed_fees :
    ∃ p, Pool.make 0 2 "T" 0 100 = .ok p ∧
      (p.run overdraw).1.feesWithdrawable "a" = 1 ∧
      (p.run overdraw).1.feesWithdrawable "c" = 1 ∧ (p.run overdraw).1.quotedFees = 2 ∧
      ¬(p.run overdraw).1.quotedFees ≤
        collected (p.run overdraw).2 - feesPaid (p.run overdraw).2 :=
  ⟨_, rfl, by decide +kernel, by decide +kernel, by decide +kernel, by decide +kernel⟩

/-! ## The quote of a single provider -/

/-- A provider who has all pool tokens is quoted the undistributed balance, if it is not
negative. -/
theorem Ledgered.feesWithdrawable_of_sole {p : Pool} (h : p.Ledgered)
    (hfunded : 0 < p.stakes.supply) {account : Text}
    (hsole : p.stakes.balance account = p.stakes.supply) :
    p.feesWithdrawable account = max 0 p.fees.undistributed := by
  have hheld := h.withdrawnBy_le account
  unfold feesWithdrawable FeeState.withdrawable FeeState.undistributed
  rw [hsole, FeeState.rawShare_self _ hfunded]
  omega

/-- An exchange credits the fee that it collects. -/
theorem Traded.accrues {p after : Pool} {sender : Text} {t : Trade Int} {r : Receipt}
    (h : p.Traded sender t after r) (ht : t.isExchange = true) :
    p.fees.accrue r.collected = .ok after.fees := by
  cases h with
  | addLiquidity | exitPool => cases ht
  | buy _ _ _ _ _ _ haccrued _ => exact haccrued
  | sell _ _ _ _ _ _ _ _ haccrued => exact haccrued
  | redeem _ _ _ _ haccrued => exact haccrued

/-- In a pool that can be reached, the fee of an exchange reaches a provider who has all pool tokens
exactly if no more is withdrawn than the weight has, or there is no fee. -/
theorem fee_reaches_provider_iff {p after : Pool} {sender account : Text} {t : Trade Int}
    {r : Receipt} (hp : p.Reachable) (hfunded : 0 < p.stakes.supply)
    (hsole : p.stakes.balance account = p.stakes.supply) (ht : t.isExchange = true)
    (h : p.trade sender t = .ok (after, r)) :
    after.feesWithdrawable account = p.feesWithdrawable account + r.collected ↔
      r.collected = 0 ∨ p.fees.withdrawn ≤ p.fees.weight := by
  have htraded := trade_ok h
  have haccrued := htraded.accrues ht
  obtain ⟨hstakes, -⟩ := htraded.exchange ht
  have hledgered := hp.ledgered
  have hbefore := hledgered.feesWithdrawable_of_sole hfunded hsole
  have hafter := (htraded.ledgered hledgered).feesWithdrawable_of_sole (hstakes ▸ hfunded)
    (hstakes ▸ hsole)
  have hbalance := FeeState.undistributed_accrue haccrued
  have hfee := (FeeState.accrue_ok haccrued).1
  rw [hbefore, hafter, hbalance]
  unfold FeeState.undistributed
  omega

/-- A purchase for fifty leaves a fee of one, which the provider is quoted. -/
theorem fee_reaches_provider_after_purchase :
    ∃ after r, provided.Reachable ∧ 0 < provided.stakes.supply ∧
      provided.stakes.balance "c" = provided.stakes.supply ∧
      provided.trade "a" (.buy 50 (.int 0) 0) = .ok (after, r) ∧ r.collected = 1 ∧
      (after.feesWithdrawable "c" = provided.feesWithdrawable "c" + r.collected ↔
        r.collected = 0 ∨ provided.fees.withdrawn ≤ provided.fees.weight) := by
  have htrade : provided.trade "a" (.buy 50 (.int 0) 0) = .ok (_, _) := rfl
  exact ⟨_, _, reachable_provided, by decide, by decide, htrade, by decide,
    fee_reaches_provider_iff reachable_provided (by decide) (by decide) rfl htrade⟩

/-- A pool with more withdrawn fees than weight, all pool tokens of which one account has. -/
def swallowing : Pool where
  marketId := 0
  token := "T"
  denomination := 1
  swapFee := 100
  reserves := [1, 1]
  stakes := ⟨.ofList [("a", 1)], 1⟩
  shares := ⟨2, .ofList [(⟨"a", 0⟩, 2), (⟨"a", 1⟩, 2), (⟨"b", 0⟩, 3), (⟨"b", 1⟩, 3)]⟩
  fees := ⟨1, 2⟩
  withdrawn := .ofList [("a", 2)]

/-- The provider who left was due a fee that the undistributed balance did not cover. It was paid
nothing, but its stake took the weight of the fee along. -/
theorem reachable_swallowing : swallowing.Reachable :=
  ⟨0, 2, "T", 0, 100, _,
    [.trade "a" (.addLiquidity 5 none), .trade "a" (.exitPool 2), .trade "a" (.redeem 1),
      .trade "a" (.redeem 1), .trade "b" (.addLiquidity 3 none), .trade "a" (.exitPool 1),
      .trade "a" (.exitPool 1), .trade "b" (.exitPool 3)], rfl, rfl⟩

/-- The fee of one for redeeming a set reaches nobody, though one account has all pool tokens. -/
theorem fee_is_swallowed :
    ∃ after r, swallowing.Reachable ∧ 0 < swallowing.stakes.supply ∧
      swallowing.stakes.balance "a" = swallowing.stakes.supply ∧
      swallowing.trade "b" (.redeem 1) = .ok (after, r) ∧ r.collected = 1 ∧
      after.feesWithdrawable "a" = 0 ∧
      ¬after.feesWithdrawable "a" = swallowing.feesWithdrawable "a" + r.collected :=
  ⟨_, _, reachable_swallowing, by decide, by decide, rfl, rfl, by decide, by decide⟩

end PredictionMarket.Pool
