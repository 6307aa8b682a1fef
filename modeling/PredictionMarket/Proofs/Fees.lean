import PredictionMarket.Fees
import PredictionMarket.Proofs.Curve

/-!
# What fee accounting keeps

The undistributed balance is all that fee accounting can ever pay. It grows by collected fees alone:
a new stake leaves it as it is, and a stake that is given back can only lower it, because it takes
its rounded part of the weight along and never forgets more withdrawals than that.
-/

namespace PredictionMarket.FeeState

/-- Accounting is made of two amounts that are not negative. -/
theorem make_eq_ok {weight withdrawn : Int} {s : FeeState} :
    make weight withdrawn = .ok s ↔ 0 ≤ weight ∧ 0 ≤ withdrawn ∧ s = ⟨weight, withdrawn⟩ := by
  simp only [make, refuseIf_bind_eq_ok, pure, Except.pure, Except.ok.injEq, not_lt,
    eq_comm (a := s)]

/-- A credited fee joins the weight. -/
theorem accrue_ok {s s' : FeeState} {fee : Int} (h : s.accrue fee = .ok s') :
    0 ≤ fee ∧ s' = ⟨s.weight + fee, s.withdrawn⟩ := by
  simp only [accrue, refuseIf_bind_eq_ok, make_eq_ok, not_lt] at h
  obtain ⟨hfee, -, -, rfl⟩ := h
  exact ⟨hfee, rfl⟩

/-- What is paid is booked as withdrawn, by the account and by all together. -/
theorem withdraw_ok {s : FeeState} {stake supply withdrawn : Int} {w : Withdrawal}
    (h : s.withdraw stake supply withdrawn = .ok w) :
    w = ⟨s.withdrawable stake supply withdrawn,
      withdrawn + s.withdrawable stake supply withdrawn,
      ⟨s.weight, s.withdrawn + s.withdrawable stake supply withdrawn⟩⟩ := by
  unfold withdraw at h
  by_cases hzero : s.withdrawable stake supply withdrawn = 0
  · simp only [hzero, if_true, pure, Except.pure, Except.ok.injEq] at h
    rw [← h, hzero, Int.add_zero, Int.add_zero]
  · simp only [hzero, if_false, bind_eq_ok, make_eq_ok, pure, Except.pure, Except.ok.injEq] at h
    obtain ⟨_, ⟨-, -, rfl⟩, rfl⟩ := h
    rfl

/-- A new stake raises the weight and the withdrawn amount alike. -/
theorem onMint_ok {s s' : FeeState} {supply minted amount : Int}
    (h : s.onMint supply minted = .ok (amount, s')) :
    0 < minted ∧ amount = s.ineligible supply minted ∧
      s' = ⟨s.weight + amount, s.withdrawn + amount⟩ := by
  simp only [onMint, refuseIf_bind_eq_ok, bind_eq_ok (make _ _), make_eq_ok, pure, Except.pure,
    Except.ok.injEq, Prod.mk.injEq, not_le] at h
  obtain ⟨hminted, _, ⟨-, -, rfl⟩, rfl, rfl⟩ := h
  exact ⟨hminted, rfl, rfl⟩

/-- A stake that is given back takes weight along, and as much of the withdrawn amounts, as far as
the holder has withdrawn any. -/
theorem onBurn_ok {s s' : FeeState} {supply burned withdrawn left : Int}
    (h : s.onBurn supply burned withdrawn = .ok (left, s')) :
    0 < burned ∧ burned ≤ supply ∧
      left = withdrawn - min (s.releasedWeight supply burned) withdrawn ∧
      s' = ⟨s.weight - s.releasedWeight supply burned,
        max 0 (s.withdrawn - min (s.releasedWeight supply burned) withdrawn)⟩ := by
  simp only [onBurn, refuseIf_bind_eq_ok, bind_eq_ok (make _ _), make_eq_ok, pure, Except.pure,
    Except.ok.injEq, Prod.mk.injEq, not_le, not_lt] at h
  obtain ⟨hburned, hle, _, ⟨-, -, rfl⟩, rfl, rfl⟩ := h
  exact ⟨hburned, hle, rfl, rfl⟩

/-! ## Raw shares -/

/-- A stake that is not negative has a raw share that is not. -/
theorem rawShare_nonneg {s : FeeState} (hweight : 0 ≤ s.weight) {stake : Int} (hstake : 0 ≤ stake)
    (supply : Int) : 0 ≤ s.rawShare stake supply := by
  unfold rawShare
  split
  · exact le_rfl
  · next hsupply =>
    exact Curve.floorDiv_nonneg (mul_nonneg hweight hstake) (not_le.1 hsupply).le

/-- To no stake nothing belongs. -/
theorem rawShare_zero (s : FeeState) (supply : Int) : s.rawShare 0 supply = 0 := by
  unfold rawShare
  split
  · rfl
  · next hsupply =>
    rw [mul_zero, Curve.floorDiv_eq_ediv _ (not_le.1 hsupply).le, Int.zero_ediv]

/-- A raw share is rounded down. -/
theorem rawShare_mul_le (s : FeeState) (stake : Int) {supply : Int} (hsupply : 0 < supply) :
    s.rawShare stake supply * supply ≤ s.weight * stake := by
  rw [rawShare, if_neg (not_le.2 hsupply)]
  exact Curve.floorDiv_mul_le _ hsupply

/-- To all stakes together belongs the whole weight. -/
theorem rawShare_self (s : FeeState) {supply : Int} (hsupply : 0 < supply) :
    s.rawShare supply supply = s.weight := by
  rw [rawShare, if_neg (not_le.2 hsupply), Curve.floorDiv_eq_ediv _ hsupply.le]
  exact Int.mul_ediv_cancel _ hsupply.ne'

/-- All stakes together take the whole weight along. -/
theorem releasedWeight_self (s : FeeState) {supply : Int} (hsupply : 0 < supply) :
    s.releasedWeight supply supply = s.weight := by
  rw [releasedWeight, Curve.floorDiv_eq_ediv _ hsupply.le]
  exact Int.mul_ediv_cancel _ hsupply.ne'

/-! ## The undistributed balance -/

/-- A payment is not negative. -/
theorem withdrawable_nonneg (s : FeeState) (stake supply withdrawn : Int) :
    0 ≤ s.withdrawable stake supply withdrawn :=
  le_max_left _ _

/-- A payment stays within the undistributed balance. -/
theorem withdrawable_le (s : FeeState) (stake supply withdrawn : Int) :
    s.withdrawable stake supply withdrawn ≤ max 0 s.undistributed :=
  max_le_max le_rfl (min_le_right _ _)

/-- A credited fee joins the undistributed balance. -/
theorem undistributed_accrue {s s' : FeeState} {fee : Int} (h : s.accrue fee = .ok s') :
    s'.undistributed = s.undistributed + fee := by
  obtain ⟨-, rfl⟩ := accrue_ok h
  unfold undistributed
  dsimp only
  omega

/-- What is paid leaves the undistributed balance. -/
theorem undistributed_withdraw {s : FeeState} {stake supply withdrawn : Int} {w : Withdrawal}
    (h : s.withdraw stake supply withdrawn = .ok w) :
    w.state.undistributed = s.undistributed - s.withdrawable stake supply withdrawn := by
  obtain rfl := withdraw_ok h
  unfold undistributed
  dsimp only
  omega

/-- A new stake leaves the undistributed balance as it is. -/
theorem undistributed_onMint {s s' : FeeState} {supply minted amount : Int}
    (h : s.onMint supply minted = .ok (amount, s')) : s'.undistributed = s.undistributed := by
  obtain ⟨-, -, rfl⟩ := onMint_ok h
  unfold undistributed
  dsimp only
  omega

/-- A stake that is given back does not raise the undistributed balance. -/
theorem undistributed_onBurn_le {s s' : FeeState} {supply burned withdrawn left : Int}
    (h : s.onBurn supply burned withdrawn = .ok (left, s')) :
    s'.undistributed ≤ s.undistributed := by
  obtain ⟨-, -, -, rfl⟩ := onBurn_ok h
  have hforgotten := min_le_left (s.releasedWeight supply burned) withdrawn
  have hclipped :=
    le_max_right 0 (s.withdrawn - min (s.releasedWeight supply burned) withdrawn)
  unfold undistributed
  dsimp only
  omega

/-- The undistributed balance, given what was collected and paid so far: it never exceeds what is
left of the collected fees, and no more than these was paid. -/
structure Backed (s : FeeState) (collected paid : Int) : Prop where
  /-- The balance is covered by the fees that are left. -/
  balance_le : s.undistributed ≤ collected - paid
  /-- Payments are covered by the collected fees. -/
  paid_le : paid ≤ collected

/-- A new accounting is covered before anything is collected. -/
theorem backed_empty : Backed {} 0 0 := by
  constructor <;> decide

/-- The accounting stays covered when its balance changes by no more than what is collected and
paid, and the payment was within the balance. -/
theorem Backed.step {s s' : FeeState} {collected paid fee payment : Int}
    (h : s.Backed collected paid) (hfee : 0 ≤ fee) (hwithin : payment ≤ max 0 s.undistributed)
    (hbalance : s'.undistributed ≤ s.undistributed + fee - payment) :
    s'.Backed (collected + fee) (paid + payment) := by
  have hleft := h.balance_le
  have hpaid := h.paid_le
  constructor
  · omega
  · -- A balance that is not positive pays nothing, and any other is left of the collected fees.
    rcases le_total s.undistributed 0 with hneg | hpos
    · rw [max_eq_left hneg] at hwithin
      omega
    · rw [max_eq_right hpos] at hwithin
      omega

end PredictionMarket.FeeState
