import PredictionMarket.Fees
import PredictionMarket.Payout
import PredictionMarket.Shares
import PredictionMarket.Stakes

/-!
# Pools

The ledger of one market: the reserves of the curve, the stakes of the liquidity providers with
their fees, and the shares of all accounts. This file has the type and what can be asked of a pool;
trading and settlement are in files of their own.
-/

namespace PredictionMarket

/-- Why a pool turns a call down. Errors of its parts keep their causes. -/
inductive PoolError where
  /-- A pool is for fewer than two outcomes. -/
  | tooFewOutcomes (outcomes : Int)
  /-- The fee rate of a new pool is negative, or takes everything. -/
  | swapFeeOutOfRange (swapFee : Int)
  /-- The collateral has a negative number of decimals. -/
  | negativeDecimals (decimals : Int)
  /-- There is no such outcome. -/
  | unknownOutcome (outcome : Value) (outcomes : Nat)
  /-- There is no room for the reserves of a new pool. -/
  | room (e : RoomError)
  /-- Nobody has provided liquidity. -/
  | unfunded
  /-- Nothing is deposited. -/
  | totalNotPositive (total : Int)
  /-- Weights are given with a deposit that is not the first. -/
  | weightsAfterFirst
  /-- The curve refuses the amounts of a call. -/
  | quote (e : CurveError)
  /-- A purchase yields fewer shares than the buyer asked for. -/
  | tooFewShares (bound actual : Int)
  /-- A sale takes more shares than the seller allows. -/
  | tooManyShares (bound actual : Int)
  /-- A payment is too small for a single share. -/
  | nothingBought (collateralIn : Int)
  /-- No stake is given back. -/
  | stakeNotPositive (stake : Int)
  /-- More stake is given back than the account has. -/
  | stakeShort (balance stake : Int)
  /-- More shares are sold than the account has. -/
  | sharesShort (balance shares : Int)
  /-- No complete set is redeemed. -/
  | setsNotPositive (sets : Int)
  /-- The account lacks shares of an outcome for the sets it redeems. -/
  | setsShort (outcome : Nat) (balance sets : Int)
  /-- The market is not resolved. -/
  | unresolved
  /-- The account is owed nothing. -/
  | nothingToClaim (account : Text)
  /-- An error of the curve. -/
  | curve (e : CurveError)
  /-- An error of the fee accounting. -/
  | fees (e : FeeError)
  /-- An error of the share balances. -/
  | shares (e : SharesError)
  /-- An error of the stakes. -/
  | stakes (e : StakesError)
  /-- An error of the payout vector. -/
  | payout (e : PayoutError)

namespace PoolError

/-- What is said of a trade whose result is beyond the bound that the caller set. -/
def slippage (what : String) (bound actual : Int) : Notice :=
  .refusal .slippageExceeded [what, " (bound=", bound, ", actual=", actual, ")"]

/-- What a pool error says. What the curve says of the amounts of a call is a refusal of the call,
whatever it is. -/
def notice : PoolError → Notice
  | .tooFewOutcomes n => .refusal .validation ["a pool needs at least 2 outcomes: ", n]
  | .swapFeeOutOfRange f => .refusal .invalidSwapFee ["swap_fee must be in [0, 10000): ", f]
  | .negativeDecimals d =>
    .refusal .validation ["collateral decimals must be non-negative: ", d]
  | .unknownOutcome o n =>
    .refusal .outcomeNotFound ["outcome out of range: ", o, " (outcomes=", n, ")"]
  | .room e => .wordless e.kind
  | .unfunded => .refusal .validation ["pool has no liquidity"]
  | .totalNotPositive t => .refusal .validation ["total_in must be positive: ", t]
  | .weightsAfterFirst =>
    .refusal .validation ["weight_indication is only accepted for the initial deposit"]
  | .quote e => ⟨.refusal .validation, e.message.map fun t => [.text t]⟩
  | .tooFewShares bound actual =>
    slippage "buy returns fewer shares than min_shares_out" bound actual
  | .tooManyShares bound actual =>
    slippage "sell needs more shares than max_shares_in" bound actual
  | .nothingBought c =>
    .refusal .validation ["collateral_in too small to buy any shares: ", c]
  | .stakeNotPositive s => .refusal .validation ["LP amount must be positive: ", s]
  | .stakeShort b s =>
    .refusal .insufficientBalance ["LP balance ", b, " < requested exit ", s]
  | .sharesShort b s =>
    .refusal .insufficientBalance ["share balance ", b, " < shares required ", s]
  | .setsNotPositive s => .refusal .validation ["to_burn must be positive: ", s]
  | .setsShort o b s =>
    .refusal .insufficientBalance ["outcome ", o, " balance ", b, " < to_burn ", s]
  | .unresolved => .refusal .notFinalized ["cannot pay out an unresolved market"]
  | .nothingToClaim account => .refusal .noPayout ["nothing to claim for ", account]
  | .curve e => e.notice
  | .fees e => e.notice
  | .shares e => e.notice
  | .stakes e => e.notice
  | .payout e => e.notice

/-- The kind of a pool error. -/
def kind (e : PoolError) : ErrorKind := e.notice.kind

/-- The text of a pool error. -/
def message (e : PoolError) : Option Text := e.notice.message

/-- The bound that a trade missed and the value it would have had, if they can be written. -/
def slippage? (e : PoolError) : Option (Int × Int) :=
  match e with
  | .tooFewShares bound actual | .tooManyShares bound actual =>
    if e.notice.isWorded then some (bound, actual) else none
  | _ => none

end PoolError

/-- The ledger of a market. -/
structure Pool where
  /-- The number of the market. -/
  marketId : Int
  /-- The collateral. -/
  token : Text
  /-- The worth of a complete set: one whole unit of the collateral. -/
  denomination : Int
  /-- The fee on trades, in basis points. -/
  swapFee : Int
  /-- The reserve of each outcome. -/
  reserves : List Int
  /-- The stakes of the liquidity providers. -/
  stakes : Stakes := {}
  /-- The shares of all accounts. -/
  shares : Shares
  /-- The fee accounting. -/
  fees : FeeState := {}
  /-- What each account has withdrawn in fees, as far as it is remembered. -/
  withdrawn : Table Text Int := .empty

namespace Pool

/-- A new pool, with nothing in it. -/
def make (marketId outcomes : Int) (token : Text) (decimals swapFee : Int) :
    Except PoolError Pool := do
  refuseIf (outcomes < 2) (.tooFewOutcomes outcomes)
  refuseIf (!Curve.isFeeRate swapFee) (.swapFeeOutOfRange swapFee)
  refuseIf (decimals < 0) (.negativeDecimals decimals)
  let reserves ← (repeated outcomes 0).mapError .room
  return {
    marketId
    token
    denomination := (Nat.pow 10 decimals.toNat : Nat)
    swapFee
    reserves
    shares := { outcomes := outcomes.toNat } }

/-- The number of outcomes. -/
def outcomes (p : Pool) : Nat :=
  p.shares.outcomes

/-- What an account has withdrawn in fees. -/
def withdrawnBy (p : Pool) (account : Text) : Int :=
  p.withdrawn.getD account 0

/-- The pool with the remembered withdrawals of an account set; zero is forgotten. -/
def storeWithdrawn (p : Pool) (account : Text) (amount : Int) : Table Text Int :=
  if amount = 0 then p.withdrawn.erase account else p.withdrawn.insert account amount

/-- The number of an outcome, given as a value. -/
def checkOutcome (p : Pool) (outcome : Value) : Except PoolError Nat :=
  match outcome with
  | .int n =>
    if 0 ≤ n ∧ n < p.outcomes then .ok n.toNat else .error (.unknownOutcome outcome p.outcomes)
  | _ => .error (.unknownOutcome outcome p.outcomes)

/-- The number of an outcome of a pool that has liquidity. -/
def checkFunded (p : Pool) (outcome : Value) : Except PoolError Nat := do
  let o ← p.checkOutcome outcome
  refuseIf (p.stakes.supply = 0) .unfunded
  return o

/-! ## Views -/

/-- The shares of an outcome that an account holds. -/
def shareBalance (p : Pool) (account : Text) (outcome : Value) : Except PoolError Int := do
  let o ← p.checkOutcome outcome
  (p.shares.get account o).mapError .shares

/-- The price of an outcome without the fee. -/
def spotPriceSansFee (p : Pool) (outcome : Value) : Except PoolError Int := do
  let o ← p.checkOutcome outcome
  (Curve.spotPriceSansFee p.reserves o p.denomination).mapError .curve

/-- The price of an outcome with the fee. -/
def spotPrice (p : Pool) (outcome : Value) : Except PoolError Int := do
  let o ← p.checkOutcome outcome
  (Curve.spotPrice p.reserves o p.denomination p.swapFee).mapError .curve

/-- The fees that an account could be paid now. -/
def feesWithdrawable (p : Pool) (account : Text) : Int :=
  p.fees.withdrawable (p.stakes.balance account) p.stakes.supply (p.withdrawnBy account)

/-- What the curve quotes for a purchase; what it refuses is an invalid call. -/
def quoteBuy (p : Pool) (collateralIn : Int) (outcome : Nat) : Except PoolError Curve.BuyQuote :=
  (Curve.quoteBuy p.reserves collateralIn outcome p.swapFee).mapError .quote

/-- What the curve quotes for a sale; what it refuses is an invalid call. -/
def quoteSell (p : Pool) (collateralOut : Int) (outcome : Nat) : Except PoolError Int :=
  (Curve.quoteSell p.reserves collateralOut outcome).mapError .quote

/-- The shares that a payment would buy. -/
def buyQuote (p : Pool) (collateralIn : Int) (outcome : Value) : Except PoolError Int := do
  let o ← p.checkFunded outcome
  return (← p.quoteBuy collateralIn o).sharesOut

/-- The shares that would have to be sold for an amount of collateral. -/
def sellQuote (p : Pool) (collateralOut : Int) (outcome : Value) : Except PoolError Int := do
  let o ← p.checkFunded outcome
  p.quoteSell collateralOut o

/-- The plain form of a table of amounts by account. -/
def amountsByAccount (t : Table Text Int) : Value :=
  .object (t.entries.map fun (account, amount) => (.text account, .numeral amount))

/-- The plain form of a pool. -/
def toValue (p : Pool) : Value :=
  .record [("market_id", .int p.marketId), ("outcomes", .int p.outcomes),
    ("collateral_token_id", .text p.token),
    ("collateral_denomination", .numeral p.denomination), ("swap_fee", .numeral p.swapFee),
    ("reserves", .list (p.reserves.map .numeral)), ("lp_supply", .numeral p.stakes.supply),
    ("fee_pool_weight", .numeral p.fees.weight),
    ("total_withdrawn_fees", .numeral p.fees.withdrawn),
    ("lp_balances", amountsByAccount p.stakes.balances),
    ("withdrawn_fees", amountsByAccount p.withdrawn),
    ("share_balances", .list (p.shares.balances.entries.map fun (holding, amount) =>
      .list [.text holding.account, .int holding.outcome, .numeral amount]))]

/-- The numbers that stand as numerals in the plain form of a pool. -/
def numerals (p : Pool) : List Int :=
  p.denomination :: p.swapFee :: p.stakes.supply :: p.fees.weight :: p.fees.withdrawn ::
    (p.reserves ++ p.stakes.balances.values ++ p.withdrawn.values ++ p.shares.balances.values)

end Pool

end PredictionMarket
