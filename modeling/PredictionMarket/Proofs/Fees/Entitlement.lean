import PredictionMarket.Proofs.Curve.Portions
import PredictionMarket.Proofs.Fees

/-!
# What stakes are entitled to

The weight is shared among the stakes as a reserve is, and whenever a stake is issued or given back
the accounting rounds. Who is issued a stake has nothing to be paid for it, all others can be paid
as before, up to one unit, and who gives a stake back was paid everything: nothing is left to be
paid for the rest.
-/

namespace PredictionMarket.FeeState

/-! ## Portions of the weight -/

/-- What is shared among nobody gives no portion. -/
theorem shareOfReserve_none (stake reserve : Int) : Curve.shareOfReserve stake 0 reserve = 0 :=
  Int.fdiv_zero _

/-- A raw share is a portion of the weight. -/
theorem rawShare_eq (s : FeeState) (stake : Int) {supply : Int} (h : 0 ≤ supply) :
    s.rawShare stake supply = Curve.shareOfReserve stake supply s.weight := by
  rcases h.eq_or_lt with rfl | hpos
  · rw [rawShare, if_pos le_rfl, shareOfReserve_none]
  · rw [rawShare, if_neg (not_le.2 hpos), Curve.shareOfReserve, mul_comm]

/-- What a stake takes along is its portion of the weight. -/
theorem releasedWeight_eq (s : FeeState) (supply burned : Int) :
    s.releasedWeight supply burned = Curve.shareOfReserve burned supply s.weight := by
  rw [releasedWeight, Curve.shareOfReserve, mul_comm]

/-- What a new stake must not claim is its portion of the weight. -/
theorem ineligible_eq (s : FeeState) (supply minted : Int) :
    s.ineligible supply minted = Curve.shareOfReserve minted supply s.weight := by
  unfold ineligible
  split
  · next hnone => rw [hnone, shareOfReserve_none]
  · rw [Curve.shareOfReserve, mul_comm]

/-! ## Issued stakes -/

section Issued

variable {s s' : FeeState} {supply minted amount : Int}

/-- When a stake is issued, the payment for every other one stays, or falls by one unit. -/
theorem withdrawable_onMint (h : s.onMint supply minted = .ok (amount, s')) (hsupply : 0 < supply)
    {stake : Int} (hstake : 0 ≤ stake) (hle : stake ≤ supply) (withdrawn : Int) :
    s'.withdrawable stake (supply + minted) withdrawn ≤ s.withdrawable stake supply withdrawn ∧
      s.withdrawable stake supply withdrawn - 1 ≤
        s'.withdrawable stake (supply + minted) withdrawn := by
  have hbalance := undistributed_onMint h
  obtain ⟨hminted, hamount, hstate⟩ := onMint_ok h
  have hshare : s'.rawShare stake (supply + minted) = Curve.shareOfReserve stake (supply + minted)
      (s.weight + Curve.shareOfReserve minted supply s.weight) := by
    rw [rawShare_eq _ _ (by omega), hstate, hamount, ineligible_eq]
  have hmost : s'.rawShare stake (supply + minted) ≤ s.rawShare stake supply := by
    rw [hshare, rawShare_eq _ _ hsupply.le]
    exact Curve.shareOfReserve_diluted_le hstake hminted.le hsupply
  have hleast : s.rawShare stake supply - 1 ≤ s'.rawShare stake (supply + minted) := by
    rw [hshare, rawShare_eq _ _ hsupply.le]
    exact Curve.le_shareOfReserve_diluted hstake hle hminted.le hsupply
  unfold withdrawable
  omega

/-- For a stake that was just issued nothing can be paid. -/
theorem withdrawable_of_minted (h : s.onMint supply minted = .ok (amount, s'))
    (hsupply : 0 ≤ supply) (hempty : supply = 0 → s.weight = 0) {withdrawn : Int}
    (hwithdrawn : 0 ≤ withdrawn) :
    s'.withdrawable minted (supply + minted) (withdrawn + amount) = 0 := by
  obtain ⟨hminted, hamount, hstate⟩ := onMint_ok h
  rw [ineligible_eq] at hamount
  have hshare : s'.rawShare minted (supply + minted) ≤ amount := by
    rw [rawShare_eq _ _ (by omega), hstate]
    rcases hsupply.eq_or_lt with hnone | hpos
    · -- The first stake finds no weight.
      rw [← hnone, zero_add, hempty hnone.symm, zero_add, Curve.shareOfReserve_self hminted]
    · exact Curve.shareOfReserve_joined_le hminted hpos hamount.ge
  unfold withdrawable
  omega

end Issued

/-! ## Stakes that are given back -/

/-- Who was paid everything and gives a part of the stake back can be paid nothing for the rest. -/
theorem withdrawable_onBurn {s s' : FeeState} {balance supply burned withdrawn left : Int}
    {w : Withdrawal} (hpaid : s.withdraw balance supply withdrawn = .ok w)
    (hburn : w.state.onBurn supply burned w.withdrawn = .ok (left, s')) (hpart : burned ≤ balance)
    (hle : balance ≤ supply) : s'.withdrawable (balance - burned) (supply - burned) left = 0 := by
  have hbalance := undistributed_onBurn_le hburn
  rw [undistributed_withdraw hpaid] at hbalance
  obtain rfl := withdraw_ok hpaid
  obtain ⟨hburned, -, hleft, hstate⟩ := onBurn_ok hburn
  rw [releasedWeight_eq] at hleft hstate
  dsimp only at hleft hstate
  have hsupply : 0 < supply := by omega
  have hall := s.rawShare_eq balance hsupply.le
  have hrest : s'.rawShare (balance - burned) (supply - burned) =
      Curve.shareOfReserve (balance - burned) (supply - burned)
        (s.weight - Curve.shareOfReserve burned supply s.weight) := by
    rw [rawShare_eq _ _ (by omega), hstate]
  have hparts := Curve.shareOfReserve_add_le hsupply (sub_nonneg.2 hpart)
    (show burned + (balance - burned) ≤ supply by omega) s.weight
  rw [add_sub_cancel, ← hrest, ← hall] at hparts
  -- The payment took all that is undistributed, or all that belongs to the stake, and neither has
  -- become more.
  unfold withdrawable at *
  omega

end PredictionMarket.FeeState
