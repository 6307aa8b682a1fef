import PredictionMarket.Proofs.Pool.Run

/-!
# The ledgers of a pool agree

A pool keeps two sums beside the tables that they are sums of: the number of pool tokens beside the
stakes, and what is withdrawn in fees beside what each account has withdrawn. Every call changes
both sides alike. In particular the withdrawn amount never falls below zero when a stake is given
back, so nothing is lost where the accounting rounds it up to zero.
-/

namespace PredictionMarket

/-! ## Stakes -/

namespace Stakes

/-- Stakes whose balances are positive and add up to the number of pool tokens. -/
structure WellFormed (s : Stakes) : Prop where
  /-- A stored balance is positive. -/
  positive : s.balances.Positive
  /-- The balances add up to the supply. -/
  total_eq : s.balances.total = s.supply

/-- Nobody has a negative stake. -/
theorem WellFormed.balance_nonneg {s : Stakes} (h : s.WellFormed) (account : Text) :
    0 ≤ s.balance account :=
  h.positive.getD_nonneg account

/-- The number of pool tokens is not negative. -/
theorem WellFormed.supply_nonneg {s : Stakes} (h : s.WellFormed) : 0 ≤ s.supply :=
  h.total_eq ▸ h.positive.total_nonneg

/-- A stake is at most all of them. -/
theorem WellFormed.balance_le_supply {s : Stakes} (h : s.WellFormed) (account : Text) :
    s.balance account ≤ s.supply :=
  h.total_eq ▸ h.positive.getD_le_total account

/-- The number of pool tokens is the sum of the stakes of all accounts that have one, and more
accounts add nothing. -/
theorem WellFormed.supply_eq_sum {s : Stakes} (h : s.WellFormed) {accounts : Finset Text}
    (hall : s.balances.keys.toFinset ⊆ accounts) :
    s.supply = ∑ account ∈ accounts, s.balance account := by
  rw [← h.total_eq]
  exact s.balances.total_eq_sum hall

/-- Issued pool tokens keep stakes well formed. -/
theorem WellFormed.mint {s s' : Stakes} {account : Text} {amount : Int} (h : s.WellFormed)
    (hissued : s.mint account amount = .ok s') : s'.WellFormed := by
  obtain ⟨hamount, rfl⟩ := mint_ok hissued
  have hbalance := h.balance_nonneg account
  refine ⟨h.positive.insert account (by omega), ?_⟩
  dsimp only
  rw [Table.total_insert, h.total_eq, balance]
  omega

/-- Pool tokens that are taken back keep stakes well formed. -/
theorem WellFormed.burn {s s' : Stakes} {account : Text} {amount : Int} (h : s.WellFormed)
    (htaken : s.burn account amount = .ok s') : s'.WellFormed := by
  simp only [Stakes.burn, refuseIf_bind_eq_ok, pure, Except.pure, Except.ok.injEq, not_le,
    not_lt] at htaken
  obtain ⟨hamount, hle, rfl⟩ := htaken
  by_cases hall : amount = s.balance account
  · rw [if_pos hall]
    refine ⟨h.positive.erase account, ?_⟩
    dsimp only
    rw [Table.total_erase, h.total_eq, hall, balance]
  · rw [if_neg hall]
    refine ⟨h.positive.insert account (by omega), ?_⟩
    dsimp only
    rw [Table.total_insert, h.total_eq, balance]
    omega

end Stakes

namespace Pool

/-! ## Withdrawn fees -/

/-- Remembering another withdrawn amount for an account changes the total by the difference. -/
theorem total_storeWithdrawn (p : Pool) (account : Text) (amount : Int) :
    (p.storeWithdrawn account amount).total =
      p.withdrawn.total + (amount - p.withdrawnBy account) := by
  unfold storeWithdrawn withdrawnBy
  by_cases hzero : amount = 0
  · rw [if_pos hzero, Table.total_erase, hzero]
    omega
  · rw [if_neg hzero, Table.total_insert]

/-- What is remembered as withdrawn is positive. -/
theorem positive_storeWithdrawn {p : Pool} (h : p.withdrawn.Positive) (account : Text)
    {amount : Int} (hamount : 0 ≤ amount) : (p.storeWithdrawn account amount).Positive := by
  unfold storeWithdrawn
  by_cases hzero : amount = 0
  · rw [if_pos hzero]
    exact h.erase account
  · rw [if_neg hzero]
    exact h.insert account (by omega)

/-- A pool whose sums are those of its tables. -/
structure Ledgered (p : Pool) : Prop where
  /-- The stakes add up to the number of pool tokens. -/
  stakes : p.stakes.WellFormed
  /-- What an account has withdrawn is stored if it is positive. -/
  withdrawn_positive : p.withdrawn.Positive
  /-- What the accounts have withdrawn adds up to what is withdrawn. -/
  withdrawn_total : p.withdrawn.total = p.fees.withdrawn
  /-- The weight is not negative. -/
  weight_nonneg : 0 ≤ p.fees.weight

/-- Nobody has withdrawn a negative amount. -/
theorem Ledgered.withdrawnBy_nonneg {p : Pool} (h : p.Ledgered) (account : Text) :
    0 ≤ p.withdrawnBy account :=
  h.withdrawn_positive.getD_nonneg account

/-- What an account has withdrawn is part of all that is withdrawn. -/
theorem Ledgered.withdrawnBy_le {p : Pool} (h : p.Ledgered) (account : Text) :
    p.withdrawnBy account ≤ p.fees.withdrawn :=
  h.withdrawn_total ▸ h.withdrawn_positive.getD_le_total account

/-- What is withdrawn by all accounts is not negative. -/
theorem Ledgered.withdrawn_nonneg {p : Pool} (h : p.Ledgered) : 0 ≤ p.fees.withdrawn :=
  h.withdrawn_total ▸ h.withdrawn_positive.total_nonneg

/-- The ledgers of a new pool are empty. -/
theorem ledgered_make {marketId outcomes decimals swapFee : Int} {token : Text} {p : Pool}
    (h : Pool.make marketId outcomes token decimals swapFee = .ok p) : p.Ledgered := by
  obtain ⟨-, -, rfl⟩ := make_ok h
  exact ⟨⟨Table.positive_empty, rfl⟩, Table.positive_empty, rfl, le_rfl⟩

/-! ## All calls -/

/-- The ledgers depend on the stakes and on the fee accounting. -/
theorem Ledgered.congr {p after : Pool} (h : p.Ledgered) (hstakes : after.stakes = p.stakes)
    (hwithdrawn : after.withdrawn = p.withdrawn) (hfees : after.fees = p.fees) :
    after.Ledgered := by
  constructor
  · rw [hstakes]
    exact h.stakes
  · rw [hwithdrawn]
    exact h.withdrawn_positive
  · rw [hwithdrawn, hfees]
    exact h.withdrawn_total
  · rw [hfees]
    exact h.weight_nonneg

/-- A collected fee keeps the ledgers. -/
theorem Ledgered.accrue {p after : Pool} (h : p.Ledgered) {fee : Int}
    (haccrued : p.fees.accrue fee = .ok after.fees) (hstakes : after.stakes = p.stakes)
    (hwithdrawn : after.withdrawn = p.withdrawn) : after.Ledgered := by
  obtain ⟨hfee, hfees⟩ := FeeState.accrue_ok haccrued
  constructor
  · rw [hstakes]
    exact h.stakes
  · rw [hwithdrawn]
    exact h.withdrawn_positive
  · rw [hwithdrawn, hfees]
    exact h.withdrawn_total
  · rw [hfees]
    exact add_nonneg h.weight_nonneg hfee

/-- The fees that a new stake must not claim are not negative. -/
theorem Ledgered.ineligible_nonneg {p : Pool} (h : p.Ledgered) {minted : Int}
    (hminted : 0 < minted) : 0 ≤ p.fees.ineligible p.stakes.supply minted := by
  unfold FeeState.ineligible
  split
  · exact le_rfl
  · exact Curve.floorDiv_nonneg (mul_nonneg h.weight_nonneg hminted.le) h.stakes.supply_nonneg

/-- The weight that a stake takes along is part of the weight. -/
theorem Ledgered.releasedWeight_le {p : Pool} (h : p.Ledgered) {burned : Int} (hburned : 0 < burned)
    (hle : burned ≤ p.stakes.supply) :
    0 ≤ p.fees.releasedWeight p.stakes.supply burned ∧
      p.fees.releasedWeight p.stakes.supply burned ≤ p.fees.weight := by
  have hsupply : 0 < p.stakes.supply := by omega
  have hfloor := Curve.floorDiv_mul_le (p.fees.weight * burned) hsupply
  have hwhole := mul_le_mul_of_nonneg_left hle h.weight_nonneg
  unfold FeeState.releasedWeight
  refine ⟨Curve.floorDiv_nonneg (mul_nonneg h.weight_nonneg hburned.le) hsupply.le, ?_⟩
  exact le_of_mul_le_mul_right (by linarith) hsupply

/-- What a plan to give a stake back does to the accounting: the account is paid all that it can be
paid, the weight falls with the stake, and as much withdrawn fees are forgotten, as far as the
account has withdrawn any. -/
theorem Planned.accounting {p : Pool} {sender : Text} {stake : Int} {plan : ExitPlan}
    (h : p.Planned sender stake plan) :
    plan.fees = p.feesWithdrawable sender ∧
      ∃ forgotten, forgotten = min (p.fees.releasedWeight p.stakes.supply stake)
          (p.withdrawnBy sender + plan.fees) ∧
        plan.withdrawn = p.withdrawnBy sender + plan.fees - forgotten ∧
        plan.state.weight = p.fees.weight - p.fees.releasedWeight p.stakes.supply stake ∧
        plan.state.withdrawn = max 0 (p.fees.withdrawn + plan.fees - forgotten) := by
  obtain ⟨w, hpaid, hfees, hburn⟩ := h.paid
  obtain rfl := FeeState.withdraw_ok hpaid
  obtain ⟨-, -, hleft, hstate⟩ := FeeState.onBurn_ok hburn
  rw [hfees, hstate]
  exact ⟨rfl, _, rfl, hleft, rfl, rfl⟩

/-- A stake that is given back keeps the ledgers. -/
theorem Ledgered.exit {p after : Pool} (h : p.Ledgered) {sender : Text} {stake : Int}
    {plan : ExitPlan} (hplanned : p.Planned sender stake plan)
    (hcommitted : p.Committed sender plan after) : after.Ledgered := by
  obtain ⟨-, forgotten, hforgotten, hleft, hweight, hwithdrawn⟩ := hplanned.accounting
  have hreleased := h.releasedWeight_le hplanned.stake_pos hplanned.stake_le_supply
  have hpositive := positive_storeWithdrawn h.withdrawn_positive sender
    (show 0 ≤ plan.withdrawn by omega)
  have htotal := p.total_storeWithdrawn sender plan.withdrawn
  have hnonneg := hpositive.total_nonneg
  have hbefore := h.withdrawn_total
  rw [hcommitted.after_eq]
  refine ⟨h.stakes.burn hcommitted.stakes, hpositive, ?_, ?_⟩
  · -- A total of positive amounts is not negative, so nothing is rounded up to zero.
    dsimp only
    omega
  · dsimp only
    omega

/-- A trade keeps the ledgers. -/
theorem Traded.ledgered {p after : Pool} {sender : Text} {t : Trade Int} {r : Receipt}
    (h : p.Traded sender t after r) (hp : p.Ledgered) : after.Ledgered := by
  cases h with
  | addLiquidity _ _ hminted hissued _ =>
    obtain ⟨hpos, rfl, rfl⟩ := FeeState.onMint_ok hminted
    have hineligible := hp.ineligible_nonneg hpos
    have hheld := hp.withdrawnBy_nonneg sender
    have htotal := hp.withdrawn_total
    refine ⟨hp.stakes.mint hissued, ?_, ?_, add_nonneg hp.weight_nonneg hineligible⟩
    · dsimp only
      split
      · exact hp.withdrawn_positive
      · exact hp.withdrawn_positive.insert sender (by omega)
    · dsimp only
      split
      · omega
      · rw [Table.total_insert, ← withdrawnBy]
        omega
  | exitPool hplanned hcommitted => exact hp.exit hplanned hcommitted
  | buy _ _ _ _ _ _ haccrued _ => exact hp.accrue haccrued rfl rfl
  | sell _ _ _ _ _ _ _ _ haccrued => exact hp.accrue haccrued rfl rfl
  | redeem _ _ _ _ haccrued => exact hp.accrue haccrued rfl rfl

/-- A settlement keeps the ledgers. -/
theorem Settled.ledgered {p after : Pool} {account : Text} {numerator : Numerator}
    {s : Settlement} (h : p.Settled account numerator after s) (hp : p.Ledgered) :
    after.Ledgered := by
  cases h with
  | stake _ hplanned hcommitted => exact (hp.exit hplanned hcommitted).congr rfl rfl rfl
  | shares _ => exact hp.congr rfl rfl rfl

/-- A call keeps the ledgers. -/
theorem ledgered_call {p after : Pool} {c : PoolCall} {r : PoolReceipt} (hp : p.Ledgered)
    (h : p.call c = .ok (after, r)) : after.Ledgered := by
  rcases call_ok h with ⟨_, _, _, -, -, htraded⟩ | ⟨_, _, _, -, -, hsettled⟩
  · exact htraded.ledgered hp
  · exact hsettled.ledgered hp

/-- The ledgers of all pools that can be reached agree. -/
theorem Reachable.ledgered {p : Pool} (h : p.Reachable) : p.Ledgered :=
  h.induct ledgered_make ledgered_call

end Pool

end PredictionMarket
