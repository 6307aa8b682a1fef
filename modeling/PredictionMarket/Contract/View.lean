import PredictionMarket.Contract

/-!
# Views

What can be asked of a contract without changing it. All views but the first name a market.
-/

namespace PredictionMarket.Contract

/-- The number of markets. -/
def marketCount (c : Contract) : Nat :=
  c.arena.markets.length

/-- What is shown of a market, with its status at a time if one is given. -/
def describe (c : Contract) (marketId : Value) (now : Option Int) :
    Except ContractError Value := do
  ((← c.market marketId).describe now).mapError .market

/-- Where a market stands at a time. -/
def status (c : Contract) (marketId : Value) (now : Int) : Except ContractError MarketStatus := do
  return (← c.market marketId).status now

/-- The ledger of a market. -/
def pool (c : Contract) (marketId : Value) : Except ContractError Pool := do
  return (← c.market marketId).pool

/-- The stake of an account in a market. -/
def stake (c : Contract) (marketId : Value) (account : Text) : Except ContractError Int := do
  return (← c.pool marketId).stakes.balance account

/-- The shares of an outcome that an account holds in a market. -/
def shareBalance (c : Contract) (marketId : Value) (account : Text) (outcome : Value) :
    Except ContractError Int := do
  ((← c.pool marketId).shareBalance account outcome).mapError .pool

/-- The fees that an account could be paid now. -/
def feesWithdrawable (c : Contract) (marketId : Value) (account : Text) :
    Except ContractError Int := do
  return (← c.pool marketId).feesWithdrawable account

/-- The price of an outcome with the fee. -/
def spotPrice (c : Contract) (marketId outcome : Value) : Except ContractError Int := do
  ((← c.pool marketId).spotPrice outcome).mapError .pool

/-- The price of an outcome without the fee. -/
def spotPriceSansFee (c : Contract) (marketId outcome : Value) : Except ContractError Int := do
  ((← c.pool marketId).spotPriceSansFee outcome).mapError .pool

/-- The shares that a payment would buy. -/
def buyQuote (c : Contract) (marketId : Value) (collateralIn : Int) (outcome : Value) :
    Except ContractError Int := do
  ((← c.pool marketId).buyQuote collateralIn outcome).mapError .pool

/-- The shares that would have to be sold for an amount of collateral. -/
def sellQuote (c : Contract) (marketId : Value) (collateralOut : Int) (outcome : Value) :
    Except ContractError Int := do
  ((← c.pool marketId).sellQuote collateralOut outcome).mapError .pool

/-- The transfers that are due. -/
def pendingTransfers (c : Contract) : List Transfer :=
  c.outbox.pending

end PredictionMarket.Contract
