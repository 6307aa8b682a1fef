import PredictionMarket.Contract.Plan

/-!
# Trading

The calls that trade in a market. The contract checks that the amounts are in range, finds the
market, and pays out what the trade releases.
-/

namespace PredictionMarket

namespace Trade

/-- The name of the call that makes a trade. -/
def operation {amount : Type} : Trade amount → String
  | .addLiquidity _ _ => "add_liquidity"
  | .exitPool _ => "exit_pool"
  | .buy _ _ _ => "buy"
  | .sell _ _ _ => "sell"
  | .redeem _ => "burn_outcome_tokens_redeem_collateral"

/-- The trade with its amounts checked. -/
def check : Trade Value → Except ContractError (Trade Int)
  | .addLiquidity total weights => do
    return .addLiquidity (← Contract.checkPositive "total_in" total) weights
  | .exitPool stake => do
    return .exitPool (← Contract.checkPositive "lp_in" stake)
  | .buy collateralIn outcome minShares => do
    let collateralIn ← Contract.checkPositive "collateral_in" collateralIn
    let minShares ← Contract.checkAmount "min_shares_out" minShares
    return .buy collateralIn outcome minShares
  | .sell collateralOut outcome maxShares => do
    let collateralOut ← Contract.checkPositive "collateral_out" collateralOut
    let maxShares ← Contract.checkAmount "max_shares_in" maxShares
    return .sell collateralOut outcome maxShares
  | .redeem sets => do
    return .redeem (← Contract.checkPositive "to_burn" sets)

end Trade

namespace Receipt

/-- What the trader is owed, and why. -/
def owed : Receipt → Option (PaymentKind × Int)
  | .addLiquidity _ _ => none
  | .exitPool e => some (.exitPool, e.fees)
  | .buy _ _ _ => none
  | .sell collateralOut _ s => some (.sell, collateralOut - s.fee)
  | .redeem r => some (.redeem, r.payout)

/-- The log line of a trade in a market by an account. -/
def logLine (marketId : Int) (account : Text) (receipt : Receipt) : LogLine :=
  let place := [("market_id", Value.int marketId), ("account", Value.text account)]
  match receipt with
  | .addLiquidity total d =>
    ⟨.info, "liquidity_added", place ++ [("amount", .int total), ("lp_minted", .int d.minted)]⟩
  | .exitPool e =>
    ⟨.info, "pool_exited", place ++ [("lp_burned", .int e.stake), ("fees_earned", .int e.fees)]⟩
  | .buy collateralIn outcome q =>
    ⟨.info, "shares_bought", place ++ [("outcome", outcome), ("collateral_in", .int collateralIn),
      ("shares_out", .int q.sharesOut)]⟩
  | .sell collateralOut outcome s =>
    ⟨.info, "shares_sold", place ++ [("outcome", outcome), ("collateral_out", .int collateralOut),
      ("shares_in", .int s.sharesIn)]⟩
  | .redeem r =>
    ⟨.info, "collateral_redeemed", place ++ [("burned", .int r.sets), ("payout", .int r.payout)]⟩

end Receipt

namespace Contract

/-- Trades in a market. -/
def trade (c : Contract) (sender : Text) (marketId : Value) (t : Trade Value) (now : Int) :
    Except ContractError Plan := do
  c.checkRunning
  let checked ← t.check
  let m ← c.market marketId
  let (traded, receipt) ← (m.trade sender checked now).mapError .market
  return {
    reply := .traded receipt
    after := (c.store traded).record (some m.id) (.traded sender receipt)
    log := [receipt.logLine m.id sender]
    payment := receipt.owed.map fun (kind, amount) =>
      ⟨m.id, sender, .text m.pool.token, amount, kind⟩ }

end Contract

end PredictionMarket
