import PredictionMarket.Pool.Trading
import PredictionMarket.Proofs.Fees
import PredictionMarket.Proofs.Shares

/-!
# What a trade does to a pool

Everything that a successful trade can do, with all the guards that it has passed, one constructor
for each of the five. What is proved about pools starts from this relation and never from the
definitions of the trades.
-/

namespace PredictionMarket

/-! ## Stakes -/

/-- Issued pool tokens join the supply. -/
theorem Stakes.mint_ok {s s' : Stakes} {account : Text} {amount : Int}
    (h : s.mint account amount = .ok s') :
    0 < amount ∧ s' = ⟨s.balances.insert account (s.balance account + amount),
      s.supply + amount⟩ := by
  simp only [mint, refuseIf_bind_eq_ok, pure, Except.pure, Except.ok.injEq, not_le] at h
  exact ⟨h.1, h.2.symm⟩

/-- Pool tokens that are taken back leave the supply. -/
theorem Stakes.burn_ok {s s' : Stakes} {account : Text} {amount : Int}
    (h : s.burn account amount = .ok s') :
    0 < amount ∧ amount ≤ s.balance account ∧ s'.supply = s.supply - amount := by
  simp only [burn, refuseIf_bind_eq_ok, pure, Except.pure, Except.ok.injEq, not_le, not_lt] at h
  obtain ⟨hamount, hle, rfl⟩ := h
  exact ⟨hamount, hle, rfl⟩

/-- A stake grows by what is issued of it, and no other stake changes. -/
theorem Stakes.balance_mint {s s' : Stakes} {account : Text} {amount : Int}
    (h : s.mint account amount = .ok s') (a : Text) :
    s'.balance a = s.balance a + if a = account then amount else 0 := by
  obtain ⟨-, rfl⟩ := mint_ok h
  unfold balance
  rw [Table.getD_insert]
  by_cases ha : a = account
  · rw [if_pos ha, if_pos ha, ha]
  · rw [if_neg ha, if_neg ha, add_zero]

/-- A stake falls by what is taken back of it, and no other stake changes. -/
theorem Stakes.balance_burn {s s' : Stakes} {account : Text} {amount : Int}
    (h : s.burn account amount = .ok s') (a : Text) :
    s'.balance a = s.balance a - if a = account then amount else 0 := by
  simp only [burn, refuseIf_bind_eq_ok, pure, Except.pure, Except.ok.injEq] at h
  obtain ⟨-, -, rfl⟩ := h
  unfold balance
  by_cases hall : amount = s.balances.getD account 0
  · rw [if_pos hall, Table.getD_erase]
    by_cases ha : a = account
    · rw [if_pos ha, if_pos ha, ha, hall, sub_self]
    · rw [if_neg ha, if_neg ha, sub_zero]
  · rw [if_neg hall, Table.getD_insert]
    by_cases ha : a = account
    · rw [if_pos ha, if_pos ha, ha]
    · rw [if_neg ha, if_neg ha, sub_zero]

namespace Pool

/-! ## Deposits -/

/-- The first deposit is split by its weights, a later one in the proportions of the reserves. -/
theorem splitDeposit_ok {p : Pool} {total : Int} {weights : Option (List Int)} {f : Curve.Funding}
    (h : p.splitDeposit total weights = .ok f) :
    (p.stakes.supply = 0 ∧ Curve.initialFunding total p.outcomes weights = .ok f) ∨
      (p.stakes.supply ≠ 0 ∧
        Curve.proportionalFunding p.reserves total p.stakes.supply = .ok f) := by
  unfold splitDeposit at h
  split at h
  · next hnone => exact .inl ⟨hnone, (mapError_eq_ok _ _ _).1 h⟩
  · next hsome =>
    rw [refuseIf_bind_eq_ok, mapError_eq_ok] at h
    exact .inr ⟨hsome, h.2⟩

/-! ## Giving a stake back -/

/-- A plan to give a stake back, against the pool that it was made for. The fee accounting passes
through a payment of all pending fees. -/
structure Planned (p : Pool) (sender : Text) (stake : Int) (plan : ExitPlan) : Prop where
  /-- The stake of the plan is the one that is given back. -/
  stake_eq : plan.stake = stake
  /-- Something is given back. -/
  stake_pos : 0 < stake
  /-- The account has the stake. -/
  stake_le : stake ≤ p.stakes.balance sender
  /-- There are as many pool tokens. -/
  stake_le_supply : stake ≤ p.stakes.supply
  /-- The pending fees are paid, and only then the weight of the stake leaves. -/
  paid : ∃ w : FeeState.Withdrawal,
    p.fees.withdraw (p.stakes.balance sender) p.stakes.supply (p.withdrawnBy sender) = .ok w ∧
      plan.fees = w.paid ∧
      w.state.onBurn p.stakes.supply stake w.withdrawn = .ok (plan.withdrawn, plan.state)
  /-- The stake takes its part of every reserve. -/
  sharesOut_eq : plan.sharesOut = p.reserves.map (Curve.shareOfReserve stake p.stakes.supply)

/-- What can be planned is a plan for the pool. -/
theorem planExit_ok {p : Pool} {sender : Text} {stake : Int} {plan : ExitPlan}
    (h : p.planExit sender stake = .ok plan) : p.Planned sender stake plan := by
  simp only [planExit, refuseIf_bind_eq_ok, bind_eq_ok (Except.mapError _ _), mapError_eq_ok,
    pure, Except.pure, Except.ok.injEq, not_le, not_lt, Prod.exists] at h
  obtain ⟨hstake, hle, w, hpaid, withdrawn, state, hburn, sharesOut, hrelease, rfl⟩ := h
  obtain ⟨-, hsupply, rfl⟩ := Curve.release_eq_ok.1 hrelease
  exact ⟨rfl, hstake, hle, hsupply, ⟨w, hpaid, rfl, hburn⟩, rfl⟩

/-- The fees that are paid for a stake are not negative. -/
theorem Planned.fees_nonneg {p : Pool} {sender : Text} {stake : Int} {plan : ExitPlan}
    (h : p.Planned sender stake plan) : 0 ≤ plan.fees := by
  obtain ⟨w, hpaid, hfees, -⟩ := h.paid
  obtain rfl := FeeState.withdraw_ok hpaid
  rw [hfees]
  exact FeeState.withdrawable_nonneg _ _ _ _

/-- A plan that is carried out: the stake leaves the supply, and its part of the reserves becomes
shares of the account. -/
structure Committed (p : Pool) (sender : Text) (plan : ExitPlan) (after : Pool) : Prop where
  /-- The stake is taken back. -/
  stakes : p.stakes.burn sender plan.stake = .ok after.stakes
  /-- The account gets the shares. -/
  shares : p.shares.addAll sender plan.sharesOut = .ok after.shares
  /-- All else is as it was planned. -/
  after_eq : after = { p with
    fees := plan.state
    withdrawn := p.storeWithdrawn sender plan.withdrawn
    stakes := after.stakes
    reserves := List.zipWith (· - ·) p.reserves plan.sharesOut
    shares := after.shares }

/-- Carrying a plan out does what the plan says. -/
theorem commitExit_ok {p after : Pool} {sender : Text} {plan : ExitPlan}
    (h : p.commitExit sender plan = .ok after) : p.Committed sender plan after := by
  simp only [commitExit, bind_eq_ok, mapError_eq_ok, pure, Except.pure, Except.ok.injEq] at h
  obtain ⟨stakes, hstakes, shares, hshares, rfl⟩ := h
  exact ⟨hstakes, hshares, rfl⟩

/-- A stake that was given back was given back as it was planned. -/
theorem exitPool_ok {p after : Pool} {sender : Text} {stake : Int} {e : Exit}
    (h : p.exitPool sender stake = .ok (after, e)) :
    ∃ plan, p.Planned sender stake plan ∧ p.Committed sender plan after ∧ e = plan.result := by
  simp only [exitPool, bind_eq_ok, pure, Except.pure, Except.ok.injEq, Prod.mk.injEq] at h
  obtain ⟨plan, hplan, _, hcommit, rfl, rfl⟩ := h
  exact ⟨plan, planExit_ok hplan, commitExit_ok hcommit, rfl⟩

/-! ## Trades -/

/-- What is asked about an outcome of a pool with liquidity names an outcome, and there is a
stake. -/
theorem checkFunded_ok {p : Pool} {outcome : Value} {o : Nat}
    (h : p.checkFunded outcome = .ok o) :
    outcome = .int o ∧ o < p.outcomes ∧ p.stakes.supply ≠ 0 := by
  simp only [checkFunded, bind_eq_ok (p.checkOutcome outcome), refuseIf_bind_eq_ok, pure,
    Except.pure, Except.ok.injEq] at h
  obtain ⟨_, hout, hsupply, rfl⟩ := h
  unfold checkOutcome at hout
  split at hout
  · next n =>
    split at hout
    · next hrange =>
      cases hout
      refine ⟨?_, by omega, hsupply⟩
      rw [Int.toNat_of_nonneg hrange.1]
    · cases hout
  · cases hout

/-- The fee for complete sets is at most their number. -/
theorem redeemFee_le {p : Pool} {sets fee : Int} (hsets : 0 < sets)
    (h : p.redeemFee sets = .ok fee) : fee ≤ sets := by
  unfold redeemFee at h
  split at h
  · exact Curve.fee_le ((mapError_eq_ok _ _ _).1 h)
  · cases h
    exact hsets.le

/-- Taking complete sets off an account takes as many shares of each outcome. -/
theorem credited_takeSets {s s' : Shares} {account : Text} {sets : Int}
    (h : takeSets s account sets = .ok s') :
    s.Credited s' account fun o => if o < s.outcomes then -sets else 0 := by
  -- The induction is on how many outcomes have been served.
  have hserved : ∀ (n : Nat) (left : Shares),
      (List.range n).foldlM (fun (left : Shares) (o : Nat) => left.subtract account o sets) s =
        .ok left →
      s.Credited left account fun o => if o < n then -sets else 0 := by
    intro n
    induction n with
    | zero =>
      intro left hleft
      simp only [List.range_zero, List.foldlM_nil, pure, Except.pure, Except.ok.injEq] at hleft
      subst hleft
      exact (Shares.Credited.refl s account).congr fun o => by simp
    | succ n ih =>
      intro left hleft
      rw [List.range_succ, List.foldlM_append, bind_eq_ok] at hleft
      obtain ⟨before, hbefore, hlast⟩ := hleft
      simp only [List.foldlM_cons, List.foldlM_nil, bind_eq_ok, pure, Except.pure,
        Except.ok.injEq] at hlast
      obtain ⟨_, hsubtract, rfl⟩ := hlast
      refine ((ih before hbefore).trans (Shares.credited_subtract hsubtract)).congr fun o => ?_
      rcases Nat.lt_trichotomy o n with hlt | rfl | hgt
      · rw [if_pos hlt, if_neg (by omega), if_pos (by omega), add_zero]
      · rw [if_neg (lt_irrefl _), if_pos rfl, if_pos (by omega), zero_add]
      · rw [if_neg (by omega), if_neg (by omega), if_neg (by omega), add_zero]
  exact hserved s.outcomes s' h

/-- A pool, a trade of an account in it, and what comes of it: the pool afterwards and the
receipt. -/
inductive Traded (p : Pool) (sender : Text) : Trade Int → Pool → Receipt → Prop
  /-- A deposit is split, a stake is issued for it, and the rest returns as shares. -/
  | addLiquidity {total : Int} {weights : Option (List Int)} {f : Curve.Funding}
      {ineligible : Int} {fees : FeeState} {stakes : Stakes} {shares : Shares}
      (positive : 0 < total) (split : p.splitDeposit total weights = .ok f)
      (minted : p.fees.onMint p.stakes.supply f.minted = .ok (ineligible, fees))
      (issued : p.stakes.mint sender f.minted = .ok stakes)
      (given : p.shares.addAll sender f.returned = .ok shares) :
      Traded p sender (.addLiquidity total weights)
        { p with
          reserves := List.zipWith (· + ·) p.reserves f.added
          stakes
          shares
          fees
          withdrawn :=
            if ineligible = 0 then p.withdrawn
            else p.withdrawn.insert sender (p.withdrawnBy sender + ineligible) }
        (.addLiquidity total ⟨f.minted, f.returned⟩)
  /-- A stake is given back as it was planned. -/
  | exitPool {stake : Int} {plan : ExitPlan} {after : Pool}
      (planned : p.Planned sender stake plan) (committed : p.Committed sender plan after) :
      Traded p sender (.exitPool stake) after (.exitPool plan.result)
  /-- The payment less its fee joins the reserves as complete sets, and the bought shares leave. -/
  | buy {collateralIn minShares : Int} {o : Nat} {q : Curve.BuyQuote} {reserves : List Int}
      {fees : FeeState} {shares : Shares}
      (known : o < p.outcomes) (funded : p.stakes.supply ≠ 0)
      (quoted : Curve.quoteBuy p.reserves collateralIn o p.swapFee = .ok q)
      (enough : minShares ≤ q.sharesOut) (some : q.sharesOut ≠ 0)
      (applied : Curve.applyBuy p.reserves (collateralIn - q.fee) o q.sharesOut = .ok reserves)
      (accrued : p.fees.accrue q.fee = .ok fees)
      (given : p.shares.add sender o q.sharesOut = .ok shares) :
      Traded p sender (.buy collateralIn (.int o) minShares) { p with reserves, fees, shares }
        (.buy collateralIn (.int o) q)
  /-- The sold shares join the reserves, and complete sets leave. -/
  | sell {collateralOut maxShares sharesIn fee : Int} {o : Nat} {reserves : List Int}
      {fees : FeeState} {shares : Shares}
      (known : o < p.outcomes) (funded : p.stakes.supply ≠ 0)
      (quoted : Curve.quoteSell p.reserves collateralOut o = .ok sharesIn)
      (enough : sharesIn ≤ maxShares) (held : sharesIn ≤ p.shares.balance sender o)
      (charged : Curve.fee collateralOut p.swapFee = .ok fee)
      (applied : Curve.applySell p.reserves collateralOut o sharesIn = .ok reserves)
      (taken : p.shares.subtract sender o sharesIn = .ok shares)
      (accrued : p.fees.accrue fee = .ok fees) :
      Traded p sender (.sell collateralOut (.int o) maxShares) { p with reserves, fees, shares }
        (.sell collateralOut (.int o) ⟨sharesIn, fee⟩)
  /-- Complete sets are taken off the account's shares. -/
  | redeem {sets fee : Int} {fees : FeeState} {shares : Shares}
      (positive : 0 < sets) (held : firstShort sets (p.shares.allOf sender) = none)
      (charged : p.redeemFee sets = .ok fee)
      (taken : takeSets p.shares sender sets = .ok shares)
      (accrued : p.fees.accrue fee = .ok fees) :
      Traded p sender (.redeem sets) { p with fees, shares } (.redeem ⟨sets, fee⟩)

/-- A successful trade is one of the five. -/
theorem trade_ok {p after : Pool} {sender : Text} {t : Trade Int} {r : Receipt}
    (h : p.trade sender t = .ok (after, r)) : p.Traded sender t after r := by
  cases t with
  | addLiquidity total weights =>
    simp only [trade, addLiquidity, bind_eq_ok, refuseIf_eq_ok, mapError_eq_ok, pure, Except.pure,
      Except.ok.injEq, Prod.exists, Prod.mk.injEq, not_le] at h
    obtain ⟨_, _, ⟨_, hpositive, f, hsplit, ineligible, fees, hminted, stakes, hissued, shares,
      hgiven, rfl, rfl⟩, rfl, rfl⟩ := h
    exact .addLiquidity hpositive hsplit hminted hissued hgiven
  | exitPool stake =>
    simp only [trade, bind_eq_ok, pure, Except.pure, Except.ok.injEq, Prod.exists,
      Prod.mk.injEq] at h
    obtain ⟨_, _, hexit, rfl, rfl⟩ := h
    obtain ⟨plan, hplanned, hcommitted, rfl⟩ := exitPool_ok hexit
    exact .exitPool hplanned hcommitted
  | buy collateralIn outcome minShares =>
    simp only [trade, buy, quoteBuy, bind_eq_ok, refuseIf_eq_ok, mapError_eq_ok, pure, Except.pure,
      Except.ok.injEq, Prod.exists, Prod.mk.injEq, not_lt] at h
    obtain ⟨_, _, ⟨o, hfunded, q, hquoted, _, henough, _, hsome, reserves, happlied, fees,
      haccrued, shares, hgiven, rfl, rfl⟩, rfl, rfl⟩ := h
    obtain ⟨rfl, hknown, hsupply⟩ := checkFunded_ok hfunded
    exact .buy hknown hsupply hquoted henough hsome happlied haccrued hgiven
  | sell collateralOut outcome maxShares =>
    simp only [trade, sell, quoteSell, bind_eq_ok, refuseIf_eq_ok, mapError_eq_ok, pure,
      Except.pure, Except.ok.injEq, Prod.exists, Prod.mk.injEq, not_lt] at h
    obtain ⟨_, _, ⟨o, hfunded, sharesIn, hquoted, _, henough, _, hheld, fee, hcharged, reserves,
      happlied, shares, htaken, fees, haccrued, rfl, rfl⟩, rfl, rfl⟩ := h
    obtain ⟨rfl, hknown, hsupply⟩ := checkFunded_ok hfunded
    exact .sell hknown hsupply hquoted henough hheld hcharged happlied htaken haccrued
  | redeem sets =>
    simp only [trade, redeem, bind_eq_ok, refuseIf_eq_ok, pure, Except.pure,
      Except.ok.injEq, Prod.exists, Prod.mk.injEq, not_le] at h
    obtain ⟨_, _, ⟨_, hpositive, h⟩, rfl, rfl⟩ := h
    cases hshort : firstShort sets (p.shares.allOf sender) with
    | some short => simp [hshort] at h
    | none =>
      simp only [hshort, bind_eq_ok, mapError_eq_ok, Except.ok.injEq,
        Prod.mk.injEq] at h
      obtain ⟨fee, hcharged, shares, htaken, fees, haccrued, rfl, rfl⟩ := h
      exact .redeem hpositive hshort hcharged htaken haccrued

/-! ## New pools -/

/-- A new pool has at least two outcomes, no more than there is room for, and nothing in it. -/
theorem make_ok {marketId outcomes decimals swapFee : Int} {token : Text} {p : Pool}
    (h : Pool.make marketId outcomes token decimals swapFee = .ok p) :
    2 ≤ outcomes ∧ outcomes ≤ mostItems ∧
      p = { marketId, token, denomination := (Nat.pow 10 decimals.toNat : Nat), swapFee,
            reserves := List.replicate outcomes.toNat 0
            shares := { outcomes := outcomes.toNat } } := by
  simp only [make, repeated, bind_eq_ok, refuseIf_eq_ok, mapError_eq_ok, pure, Except.pure,
    Except.ok.injEq, not_lt] at h
  obtain ⟨_, htwo, _, -, _, -, _, ⟨_, -, _, hroom, rfl⟩, rfl⟩ := h
  exact ⟨htwo, hroom, rfl⟩

/-- A new pool has the outcomes that it is made for. -/
theorem outcomes_eq_of_make {marketId outcomes decimals swapFee : Int} {token : Text} {p : Pool}
    (h : Pool.make marketId outcomes token decimals swapFee = .ok p) :
    (p.outcomes : Int) = outcomes := by
  obtain ⟨htwo, -, rfl⟩ := make_ok h
  exact Int.toNat_of_nonneg (by omega)

/-! ## Terms -/

/-- What no call of a pool changes. -/
structure SameTerms (p after : Pool) : Prop where
  /-- The number of the market. -/
  marketId : after.marketId = p.marketId
  /-- The collateral. -/
  token : after.token = p.token
  /-- The worth of a complete set. -/
  denomination : after.denomination = p.denomination
  /-- The fee rate. -/
  swapFee : after.swapFee = p.swapFee
  /-- The number of outcomes. -/
  outcomes : after.outcomes = p.outcomes

/-- The terms of a pool are its own. -/
theorem SameTerms.refl (p : Pool) : p.SameTerms p :=
  ⟨rfl, rfl, rfl, rfl, rfl⟩

/-- What keeps the terms twice keeps them. -/
theorem SameTerms.trans {p q r : Pool} (h : p.SameTerms q) (h' : q.SameTerms r) : p.SameTerms r :=
  ⟨h'.marketId.trans h.marketId, h'.token.trans h.token, h'.denomination.trans h.denomination,
    h'.swapFee.trans h.swapFee, h'.outcomes.trans h.outcomes⟩

/-- Giving a stake back keeps the terms. -/
theorem Committed.sameTerms {p after : Pool} {sender : Text} {plan : ExitPlan}
    (h : p.Committed sender plan after) : p.SameTerms after := by
  have houtcomes := (Shares.credited_addAll h.shares).outcomes
  have hafter := h.after_eq
  constructor
  case outcomes => exact houtcomes
  all_goals rw [hafter]

/-- A trade keeps the terms. -/
theorem Traded.sameTerms {p after : Pool} {sender : Text} {t : Trade Int} {r : Receipt}
    (h : p.Traded sender t after r) : p.SameTerms after := by
  cases h with
  | addLiquidity _ _ _ _ hgiven =>
    exact ⟨rfl, rfl, rfl, rfl, (Shares.credited_addAll hgiven).outcomes⟩
  | exitPool _ hcommitted => exact hcommitted.sameTerms
  | buy _ _ _ _ _ _ _ hgiven => exact ⟨rfl, rfl, rfl, rfl, (Shares.credited_add hgiven).outcomes⟩
  | sell _ _ _ _ _ _ _ htaken =>
    exact ⟨rfl, rfl, rfl, rfl, (Shares.credited_subtract htaken).outcomes⟩
  | redeem _ _ _ htaken => exact ⟨rfl, rfl, rfl, rfl, (credited_takeSets htaken).outcomes⟩

end Pool

end PredictionMarket
