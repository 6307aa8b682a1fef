import PredictionMarket.Proofs.Pool.Leaving

/-!
# The ledgers of withdrawn fees

What each account has withdrawn is kept in the pool, and what all have withdrawn together in its fee
accounting. A stake that is given back lowers both: the entry of the account as far as there is any,
and the total, which the accounting rounds up to zero where it would fall below. An entry is part of
the total, so the total never does, and both ledgers fall by the same amount.
-/

namespace PredictionMarket

namespace FeeState

/-- What a holder was paid is booked alike in both ledgers. -/
theorem withdrawn_sub_withdrawn {s : FeeState} {stake supply withdrawn : Int} {w : Withdrawal}
    (h : s.withdraw stake supply withdrawn = .ok w) :
    w.state.withdrawn - s.withdrawn = w.withdrawn - withdrawn := by
  obtain rfl := withdraw_ok h
  dsimp only
  omega

/-- The total after a stake was given back, before it is rounded up to zero. -/
def unclipped (s : FeeState) (supply burned withdrawn : Int) : Int :=
  s.withdrawn - min (s.releasedWeight supply burned) withdrawn

/-- If what the holder has withdrawn is part of the total, nothing is rounded up. -/
theorem unclipped_nonneg {s : FeeState} {withdrawn : Int} (h : withdrawn ≤ s.withdrawn)
    (supply burned : Int) : 0 ≤ s.unclipped supply burned withdrawn := by
  have hforgotten := min_le_right (s.releasedWeight supply burned) withdrawn
  unfold unclipped
  omega

/-- Where nothing is rounded up, both ledgers fall by the same amount. -/
theorem onBurn_ok_of_unclipped {s s' : FeeState} {supply burned withdrawn left : Int}
    (h : s.onBurn supply burned withdrawn = .ok (left, s'))
    (hnone : 0 ≤ s.unclipped supply burned withdrawn) :
    s'.withdrawn = s.unclipped supply burned withdrawn ∧
      s.withdrawn - s'.withdrawn = withdrawn - left := by
  obtain ⟨-, -, hleft, rfl⟩ := onBurn_ok h
  have htotal : max 0 (s.unclipped supply burned withdrawn) = s.unclipped supply burned withdrawn :=
    max_eq_right hnone
  unfold unclipped at htotal ⊢
  refine ⟨htotal, ?_⟩
  dsimp only
  rw [htotal, hleft]
  omega

end FeeState

namespace Pool

/-- Once an account is paid its pending fees, what it has withdrawn is still part of the total. -/
theorem Ledgered.paid_le {p : Pool} (h : p.Ledgered) {account : Text} {w : FeeState.Withdrawal}
    (hpaid : p.fees.withdraw (p.stakes.balance account) p.stakes.supply (p.withdrawnBy account) =
      .ok w) : w.withdrawn ≤ w.state.withdrawn := by
  have hpart := h.withdrawnBy_le account
  have halike := FeeState.withdrawn_sub_withdrawn hpaid
  omega

/-- **The fee ledgers agree**: in a pool that can be reached, the total of withdrawn fees is the sum
of what the accounts have withdrawn, and every amount that is stored is positive. Every account can
therefore be paid its pending fees and then give back any part of its stake, and the total that is
left is never rounded up to zero: it falls by exactly as much as the entry of the account. -/
theorem fee_ledgers_agree {p : Pool} (hp : p.Reachable) :
    p.fees.withdrawn = p.withdrawn.total ∧ (∀ e ∈ p.withdrawn.entries, 0 < e.2) ∧
    ∀ account, ∃ w,
      p.fees.withdraw (p.stakes.balance account) p.stakes.supply (p.withdrawnBy account) = .ok w ∧
      ∀ stake, 0 ≤ w.state.unclipped p.stakes.supply stake w.withdrawn ∧
        (0 < stake → stake ≤ p.stakes.balance account → ∃ plan,
          p.planExit account stake = .ok plan ∧
          w.state.onBurn p.stakes.supply stake w.withdrawn = .ok (plan.withdrawn, plan.state) ∧
          plan.state.withdrawn = w.state.unclipped p.stakes.supply stake w.withdrawn ∧
          w.state.withdrawn - plan.state.withdrawn = w.withdrawn - plan.withdrawn) := by
  have hledgered := hp.ledgered
  refine ⟨hledgered.withdrawn_total.symm, hledgered.withdrawn_positive, fun account => ?_⟩
  obtain ⟨w, hpaid⟩ := FeeState.exists_withdraw hledgered.weight_nonneg hledgered.withdrawn_nonneg
    (p.stakes.balance account) p.stakes.supply (p.withdrawnBy account)
  have hnone := FeeState.unclipped_nonneg (hledgered.paid_le hpaid) p.stakes.supply
  refine ⟨w, hpaid, fun stake => ⟨hnone stake, fun hstake hle => ?_⟩⟩
  obtain ⟨plan, hplan⟩ := hledgered.exists_planExit hstake hle
  obtain ⟨paid, hpaid', -, hburn⟩ := (planExit_ok hplan).paid
  obtain rfl : paid = w := Except.ok.inj (hpaid'.symm.trans hpaid)
  exact ⟨plan, hplan, hburn, FeeState.onBurn_ok_of_unclipped hburn (hnone stake)⟩

/-- The pool that earned a fee, after a second account joined it with twice as much. The fee is not
for the newcomer, so two of its three parts count as withdrawn. -/
def joinedEarning : Pool :=
  { earning with
    reserves := [29, 25]
    stakes := ⟨.ofList [("a", 10), ("c", 22)], 32⟩
    shares := ⟨2, .ofList [(⟨"a", 1⟩, 3), (⟨"b", 0⟩, 2), (⟨"c", 1⟩, 3)]⟩
    fees := ⟨3, 2⟩
    withdrawn := .ofList [("c", 2)] }

/-- The newcomer joins by a deposit. -/
theorem reachable_joinedEarning : joinedEarning.Reachable :=
  ⟨0, 2, "T", 0, 100, _,
    [.trade "a" (.addLiquidity 10 (some [10, 7])), .trade "b" (.buy 2 (.int 0) 0),
      .trade "c" (.addLiquidity 20 none)], rfl, rfl⟩

/-- Half of the newcomer's stake takes one of its two withdrawn parts along. -/
theorem fee_ledgers_agree_joinedEarning :
    joinedEarning.Reachable ∧ joinedEarning.fees.withdrawn = 2 ∧
      joinedEarning.fees.withdrawn = joinedEarning.withdrawn.total ∧
      (∀ e ∈ joinedEarning.withdrawn.entries, 0 < e.2) ∧
      ∃ plan, joinedEarning.planExit "c" 11 = .ok plan ∧ plan.withdrawn = 1 ∧
        plan.state.withdrawn = 1 := by
  obtain ⟨htotal, hpositive, hpayable⟩ := fee_ledgers_agree reachable_joinedEarning
  obtain ⟨w, -, hexit⟩ := hpayable "c"
  obtain ⟨plan, hplan, -⟩ := (hexit 11).2 (by decide) (by decide)
  have hwhole : joinedEarning.planExit "c" 11 = .ok _ := rfl
  obtain rfl := Except.ok.inj (hwhole.symm.trans hplan)
  exact ⟨reachable_joinedEarning, rfl, htotal, hpositive, _, hplan, rfl, rfl⟩

end Pool

end PredictionMarket
