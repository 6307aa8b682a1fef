import PredictionMarket.Pool

/-!
# Trading in a pool

The five calls by which an account changes a pool before the market is resolved. Each computes all
it needs before it changes anything, and returns the changed pool together with a receipt.
-/

namespace PredictionMarket

/-- A call that trades in a pool, with amounts of some type: integers, or values that are still to
be checked. -/
inductive Trade (amount : Type) where
  /-- Deposits collateral as liquidity. -/
  | addLiquidity (total : amount) (weights : Option (List Int))
  /-- Gives a stake back for shares and fees. -/
  | exitPool (stake : amount)
  /-- Buys shares of an outcome, at least so many. -/
  | buy (collateralIn : amount) (outcome : Value) (minShares : amount)
  /-- Sells shares of an outcome, at most so many. -/
  | sell (collateralOut : amount) (outcome : Value) (maxShares : amount)
  /-- Redeems complete sets for collateral. -/
  | redeem (sets : amount)

/-- The result of a deposit. -/
structure Deposit where
  /-- The stake that was issued. -/
  minted : Int
  /-- The shares that were returned, by outcome. -/
  returned : List Int
  deriving DecidableEq

/-- The result of giving a stake back. -/
structure Exit where
  /-- The stake that was given back. -/
  stake : Int
  /-- The fees that were paid. -/
  fees : Int
  /-- The shares that were handed out, by outcome. -/
  sharesOut : List Int
  deriving DecidableEq

/-- The result of a sale. -/
structure Sale where
  /-- The shares that were sold. -/
  sharesIn : Int
  /-- The fee, which is kept from the collateral. -/
  fee : Int
  deriving DecidableEq

/-- The result of redeeming complete sets. -/
structure Redemption where
  /-- The sets that were redeemed. -/
  sets : Int
  /-- The fee, which is kept from the collateral. -/
  fee : Int
  deriving DecidableEq

/-- What the redeemer is paid. -/
def Redemption.payout (r : Redemption) : Int :=
  r.sets - r.fee

/-- What was traded and what came of it. -/
inductive Receipt where
  /-- A deposit of so much collateral. -/
  | addLiquidity (total : Int) (d : Deposit)
  /-- A stake was given back. -/
  | exitPool (e : Exit)
  /-- Shares of an outcome were bought for so much collateral. -/
  | buy (collateralIn : Int) (outcome : Value) (q : Curve.BuyQuote)
  /-- Shares of an outcome were sold, which released so much collateral. -/
  | sell (collateralOut : Int) (outcome : Value) (s : Sale)
  /-- Complete sets were redeemed. -/
  | redeem (r : Redemption)

namespace Pool

/-! ## Liquidity -/

/-- How the curve splits a deposit: the first by weights, a later one in proportion. -/
def splitDeposit (p : Pool) (total : Int) (weights : Option (List Int)) :
    Except PoolError Curve.Funding :=
  if p.stakes.supply = 0 then
    (Curve.initialFunding total p.outcomes weights).mapError .quote
  else do
    refuseIf weights.isSome .weightsAfterFirst
    (Curve.proportionalFunding p.reserves total p.stakes.supply).mapError .quote

/-- Deposits collateral as liquidity and issues a stake for it. -/
def addLiquidity (p : Pool) (sender : Text) (total : Int) (weights : Option (List Int)) :
    Except PoolError (Pool × Deposit) := do
  refuseIf (total ≤ 0) (.totalNotPositive total)
  let funding ← p.splitDeposit total weights
  let (ineligible, fees) ← (p.fees.onMint p.stakes.supply funding.minted).mapError .fees
  let withdrawn :=
    if ineligible = 0 then p.withdrawn
    else p.withdrawn.insert sender (p.withdrawnBy sender + ineligible)
  let stakes ← (p.stakes.mint sender funding.minted).mapError .stakes
  let shares ← (p.shares.addAll sender funding.returned).mapError .shares
  let reserves := List.zipWith (· + ·) p.reserves funding.added
  return ({ p with reserves, stakes, shares, fees, withdrawn },
    ⟨funding.minted, funding.returned⟩)

/-- What giving a stake back comes to, before anything is changed. -/
structure ExitPlan where
  /-- The stake to be given back. -/
  stake : Int
  /-- The fees to be paid. -/
  fees : Int
  /-- The shares to be handed out, by outcome. -/
  sharesOut : List Int
  /-- What the account will have withdrawn. -/
  withdrawn : Int
  /-- The fee accounting afterwards. -/
  state : FeeState
  deriving DecidableEq

/-- The result that a plan leads to. -/
def ExitPlan.result (plan : ExitPlan) : Exit :=
  ⟨plan.stake, plan.fees, plan.sharesOut⟩

/-- Plans giving a stake back: all pending fees are paid, then the stake takes its part of the
weight and of every reserve. -/
def planExit (p : Pool) (sender : Text) (stake : Int) : Except PoolError ExitPlan := do
  refuseIf (stake ≤ 0) (.stakeNotPositive stake)
  let balance := p.stakes.balance sender
  refuseIf (balance < stake) (.stakeShort balance stake)
  let supply := p.stakes.supply
  let paid ← (p.fees.withdraw balance supply (p.withdrawnBy sender)).mapError .fees
  let (withdrawn, state) ← (paid.state.onBurn supply stake paid.withdrawn).mapError .fees
  let sharesOut ← (Curve.release stake p.reserves supply).mapError .curve
  return ⟨stake, paid.paid, sharesOut, withdrawn, state⟩

/-- Carries a plan out. -/
def commitExit (p : Pool) (sender : Text) (plan : ExitPlan) : Except PoolError Pool := do
  let stakes ← (p.stakes.burn sender plan.stake).mapError .stakes
  let shares ← (p.shares.addAll sender plan.sharesOut).mapError .shares
  return { p with
    fees := plan.state
    withdrawn := p.storeWithdrawn sender plan.withdrawn
    stakes
    reserves := List.zipWith (· - ·) p.reserves plan.sharesOut
    shares }

/-- Gives a stake back for its part of the reserves, as shares, and the pending fees. -/
def exitPool (p : Pool) (sender : Text) (stake : Int) : Except PoolError (Pool × Exit) := do
  let plan ← p.planExit sender stake
  let after ← p.commitExit sender plan
  return (after, plan.result)

/-! ## Trades -/

/-- Buys shares of an outcome. -/
def buy (p : Pool) (sender : Text) (collateralIn : Int) (outcome : Value) (minShares : Int) :
    Except PoolError (Pool × Curve.BuyQuote) := do
  let o ← p.checkFunded outcome
  let q ← p.quoteBuy collateralIn o
  refuseIf (q.sharesOut < minShares) (.tooFewShares minShares q.sharesOut)
  refuseIf (q.sharesOut = 0) (.nothingBought collateralIn)
  let reserves ←
    (Curve.applyBuy p.reserves (collateralIn - q.fee) o q.sharesOut).mapError .curve
  let fees ← (p.fees.accrue q.fee).mapError .fees
  let shares ← (p.shares.add sender o q.sharesOut).mapError .shares
  return ({ p with reserves, fees, shares }, q)

/-- Sells shares of an outcome. The fee stays in the pool, out of the collateral that is
released. -/
def sell (p : Pool) (sender : Text) (collateralOut : Int) (outcome : Value) (maxShares : Int) :
    Except PoolError (Pool × Sale) := do
  let o ← p.checkFunded outcome
  let sharesIn ← p.quoteSell collateralOut o
  refuseIf (maxShares < sharesIn) (.tooManyShares maxShares sharesIn)
  let held := p.shares.balance sender o
  refuseIf (held < sharesIn) (.sharesShort held sharesIn)
  let fee ← (Curve.fee collateralOut p.swapFee).mapError .curve
  let reserves ← (Curve.applySell p.reserves collateralOut o sharesIn).mapError .curve
  let shares ← (p.shares.subtract sender o sharesIn).mapError .shares
  let fees ← (p.fees.accrue fee).mapError .fees
  return ({ p with reserves, fees, shares }, ⟨sharesIn, fee⟩)

/-- The first outcome of which a list of balances has less than an amount. -/
def firstShort (sets : Int) (balances : List Int) : Option (Nat × Int) :=
  (balances.zipIdx.find? fun (balance, _) => balance < sets).map fun (balance, o) => (o, balance)

/-- The fee for redeeming complete sets. None is due when nobody has a stake to earn it. -/
def redeemFee (p : Pool) (sets : Int) : Except PoolError Int :=
  if 0 < p.stakes.supply then (Curve.fee sets p.swapFee).mapError .curve else .ok 0

/-- Takes complete sets off an account's balances. -/
def takeSets (s : Shares) (account : Text) (sets : Int) : Except SharesError Shares :=
  (List.range s.outcomes).foldlM
    (fun (left : Shares) (o : Nat) => left.subtract account o sets) s

/-- Redeems complete sets for collateral. -/
def redeem (p : Pool) (sender : Text) (sets : Int) : Except PoolError (Pool × Redemption) := do
  refuseIf (sets ≤ 0) (.setsNotPositive sets)
  match firstShort sets (p.shares.allOf sender) with
  | some (o, balance) => .error (.setsShort o balance sets)
  | none =>
    let fee ← p.redeemFee sets
    let shares ← (takeSets p.shares sender sets).mapError .shares
    let fees ← (p.fees.accrue fee).mapError .fees
    return ({ p with fees, shares }, ⟨sets, fee⟩)

/-- Carries a trade out. -/
def trade (p : Pool) (sender : Text) : Trade Int → Except PoolError (Pool × Receipt)
  | .addLiquidity total weights => do
    let (after, r) ← p.addLiquidity sender total weights
    return (after, .addLiquidity total r)
  | .exitPool stake => do
    let (after, r) ← p.exitPool sender stake
    return (after, .exitPool r)
  | .buy collateralIn outcome minShares => do
    let (after, r) ← p.buy sender collateralIn outcome minShares
    return (after, .buy collateralIn outcome r)
  | .sell collateralOut outcome maxShares => do
    let (after, r) ← p.sell sender collateralOut outcome maxShares
    return (after, .sell collateralOut outcome r)
  | .redeem sets => do
    let (after, r) ← p.redeem sender sets
    return (after, .redeem r)

end Pool

end PredictionMarket
