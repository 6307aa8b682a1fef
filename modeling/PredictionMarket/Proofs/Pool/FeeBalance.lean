import PredictionMarket.Proofs.Pool.Run

/-!
# Fees are paid out of fees

Whatever the order of deposits, exits, trades and settlements, a pool never pays more in fees than
it collected, and the balance that it could still pay is covered by what is left.
-/

namespace PredictionMarket.Pool

/-- A new pool has collected nothing and owes nothing. -/
theorem backed_make {marketId outcomes decimals swapFee : Int} {token : Text} {p : Pool}
    (h : Pool.make marketId outcomes token decimals swapFee = .ok p) : p.fees.Backed 0 0 := by
  obtain ⟨-, -, rfl⟩ := make_ok h
  exact FeeState.backed_empty

/-- A stake that is given back is paid within the undistributed balance, which falls by at least the
payment. -/
theorem Planned.undistributed_le {p : Pool} {sender : Text} {stake : Int} {plan : ExitPlan}
    (h : p.Planned sender stake plan) :
    plan.fees ≤ max 0 p.fees.undistributed ∧
      plan.state.undistributed ≤ p.fees.undistributed - plan.fees := by
  obtain ⟨w, hpaid, hfees, hburn⟩ := h.paid
  have hbalance := FeeState.undistributed_withdraw hpaid
  have hleft := FeeState.undistributed_onBurn_le hburn
  obtain rfl := FeeState.withdraw_ok hpaid
  rw [hfees]
  exact ⟨FeeState.withdrawable_le _ _ _ _, hleft.trans hbalance.le⟩

/-- A trade collects and pays fees within the bounds of the fee accounting. -/
theorem Traded.backed {p after : Pool} {sender : Text} {t : Trade Int} {r : Receipt}
    {collected paid : Int} (h : p.Traded sender t after r) (hp : p.fees.Backed collected paid) :
    after.fees.Backed (collected + r.collected) (paid + r.feesPaid) := by
  -- A trade that pays no fees only has to say what it collects.
  have hcollect : ∀ {fees : FeeState} {fee : Int}, p.fees.accrue fee = .ok fees →
      fees.Backed (collected + fee) (paid + 0) := by
    intro fees fee haccrued
    refine hp.step (FeeState.accrue_ok haccrued).1 (le_max_left _ _) ?_
    rw [FeeState.undistributed_accrue haccrued]
    omega
  cases h with
  | addLiquidity _ _ hminted =>
    refine hp.step le_rfl (le_max_left _ _) ?_
    rw [FeeState.undistributed_onMint hminted]
    dsimp only [Receipt.collected, Receipt.feesPaid]
    omega
  | exitPool hplanned hcommitted =>
    obtain ⟨hwithin, hleft⟩ := hplanned.undistributed_le
    rw [hcommitted.after_eq]
    refine hp.step le_rfl hwithin ?_
    dsimp only [Receipt.collected, Receipt.feesPaid, ExitPlan.result]
    omega
  | buy _ _ _ _ _ _ haccrued _ => exact hcollect haccrued
  | sell _ _ _ _ _ _ _ _ haccrued => exact hcollect haccrued
  | redeem _ _ _ _ haccrued => exact hcollect haccrued

/-- A settlement collects nothing, and pays fees within the bounds of the fee accounting. -/
theorem Settled.backed {p after : Pool} {account : Text} {numerator : Numerator} {s : Settlement}
    {collected paid : Int} (h : p.Settled account numerator after s)
    (hp : p.fees.Backed collected paid) : after.fees.Backed (collected + 0) (paid + s.fees) := by
  cases h with
  | stake _ hplanned hcommitted =>
    obtain ⟨hwithin, hleft⟩ := hplanned.undistributed_le
    rw [hcommitted.after_eq]
    refine hp.step le_rfl hwithin ?_
    dsimp only
    omega
  | shares _ =>
    refine hp.step le_rfl (le_max_left _ _) ?_
    dsimp only
    omega

/-- The fees that a list of calls left in the pool. -/
def collected (receipts : List PoolReceipt) : Int :=
  (receipts.map PoolReceipt.collected).sum

/-- The fees that a list of calls paid out. -/
def feesPaid (receipts : List PoolReceipt) : Int :=
  (receipts.map PoolReceipt.feesPaid).sum

/-- One call keeps the fee accounting covered. -/
theorem backed_call {p after : Pool} {c : PoolCall} {r : PoolReceipt}
    {past : List PoolReceipt} (hp : p.fees.Backed (collected past) (feesPaid past))
    (h : p.call c = .ok (after, r)) :
    after.fees.Backed (collected (past ++ [r])) (feesPaid (past ++ [r])) := by
  simp only [collected, feesPaid, List.map_append, List.map_cons, List.map_nil, List.sum_append,
    List.sum_cons, List.sum_nil, add_zero] at *
  rcases call_ok h with ⟨sender, t, receipt, rfl, rfl, htraded⟩ |
    ⟨account, numerator, s, rfl, rfl, hsettled⟩
  · exact htraded.backed hp
  · exact hsettled.backed hp

/-- After every run of a new pool, what could still be paid in fees is at most what is left of the
collected fees, and no more was paid than collected. -/
theorem fees_covered_after_run {marketId outcomes decimals swapFee : Int} {token : Text} {p : Pool}
    (hmake : Pool.make marketId outcomes token decimals swapFee = .ok p) (calls : List PoolCall) :
    (p.run calls).1.fees.weight - (p.run calls).1.fees.withdrawn ≤
        collected (p.run calls).2 - feesPaid (p.run calls).2 ∧
      feesPaid (p.run calls).2 ≤ collected (p.run calls).2 := by
  have hbacked := run_invariant
    (P := fun p past => p.fees.Backed (collected past) (feesPaid past))
    backed_call [] (backed_make hmake) calls
  exact ⟨hbacked.balance_le, hbacked.paid_le⟩

/-- A provider who leaves after a purchase is paid the fee of it, and the bounds are met. -/
theorem fees_covered_after_exit :
    ∃ p calls, Pool.make 0 2 "T" 0 100 = .ok p ∧
      calls = [.trade "a" (.addLiquidity 100 none), .trade "b" (.buy 50 (.int 0) 0),
        .trade "a" (.exitPool 100)] ∧
      feesPaid (p.run calls).2 = 1 ∧
      (p.run calls).1.fees.weight - (p.run calls).1.fees.withdrawn ≤
        collected (p.run calls).2 - feesPaid (p.run calls).2 ∧
      feesPaid (p.run calls).2 ≤ collected (p.run calls).2 := by
  have hmake : Pool.make 0 2 "T" 0 100 = .ok _ := rfl
  exact ⟨_, _, hmake, rfl, by decide +kernel, fees_covered_after_run hmake _⟩

end PredictionMarket.Pool
