import PredictionMarket.Amounts
import PredictionMarket.Guard
import PredictionMarket.Room
import PredictionMarket.Wording

/-!
# The bonding curve

A pool holds a reserve of every outcome, and a trade keeps the product of the reserves from falling.
All amounts are integers. Every division rounds in favour of the pool: fees and the reserve that
remains of the traded outcome round up, what is paid out in proportion rounds down. The functions
here compute quotes and new reserves; they hold no state.
-/

namespace PredictionMarket

/-- Why the curve has no answer. -/
inductive CurveError where
  /-- A divisor is zero or negative. -/
  | divisorNotPositive (divisor : Int)
  /-- There is no outcome with this number. -/
  | outcomeOutOfRange (outcome : Int) (outcomes : Nat)
  /-- A reserve is empty. -/
  | noLiquidity (reserves : List Int)
  /-- The amount to charge a fee on is negative. -/
  | negativeAmount (amount : Int)
  /-- The fee rate is negative, or takes everything. -/
  | feeOutOfRange (swapFee : Int)
  /-- Nothing is paid in. -/
  | collateralInNotPositive (collateralIn : Int)
  /-- Nothing is taken out. -/
  | collateralOutNotPositive (collateralOut : Int)
  /-- A purchase would hand out a negative number of shares. -/
  | negativeShares (shares : Int)
  /-- A sale takes out as much as the least of the other reserves holds. -/
  | drainsReserve (collateralOut least : Int)
  /-- The traded outcome would have no reserve left. -/
  | targetDrained (reserve : Int)
  /-- An outcome would have no reserve left. -/
  | reserveDrained (reserves : List Int)
  /-- Nothing is deposited. -/
  | totalNotPositive (total : Int)
  /-- There are more or fewer weights than outcomes. -/
  | weightCount (weights : Nat) (outcomes : Int)
  /-- A weight is zero or negative. -/
  | weightNotPositive (weights : List Int)
  /-- A deposit is too small for its weights. -/
  | emptyReserve
  /-- Nobody holds a stake. -/
  | supplyNotPositive (supply : Int)
  /-- A deposit is too small for any stake. -/
  | nothingMinted (minted : Int)
  /-- No stake is given back. -/
  | stakeNotPositive (stake : Int)
  /-- More stake is given back than there is. -/
  | stakeAboveSupply (stake supply : Int)
  /-- There is no largest reserve or weight among none. -/
  | noLargest
  /-- There is no reserve at this position. -/
  | noSuchReserve
  /-- There is no room for the reserves. -/
  | room (e : RoomError)
  deriving DecidableEq

namespace CurveError

/-- What a curve error says: a value is bad, a position is outside the reserves, or there is no
room. -/
def notice : CurveError → Notice
  | .divisorNotPositive d => .badValue ["divisor must be positive: ", d]
  | .outcomeOutOfRange o n => .badValue ["outcome out of range: ", o, " (outcomes=", n, ")"]
  | .noLiquidity rs => .badValue ["pool has no liquidity: reserves=", Value.ofInts rs]
  | .negativeAmount a => .badValue ["amount must be non-negative: ", a]
  | .feeOutOfRange f => .badValue ["swap_fee must be in [0, 10000): ", f]
  | .collateralInNotPositive c => .badValue ["collateral_in must be positive: ", c]
  | .collateralOutNotPositive c => .badValue ["collateral_out must be positive: ", c]
  | .negativeShares s => .badValue ["Invariant violation: negative shares_out (", s, ")"]
  | .drainsReserve c least =>
    .badValue ["Cannot drain full reserve: collateral_out (", c, ") >= min reserve (", least, ")"]
  | .targetDrained r => .badValue ["Invariant violation: target reserve drained (", r, ")"]
  | .reserveDrained rs =>
    .badValue ["Invariant violation: reserve drained (", Value.ofInts rs, ")"]
  | .totalNotPositive t => .badValue ["total_in must be positive: ", t]
  | .weightCount n outcomes =>
    .badValue ["weight_indication length ", n, " != outcomes ", outcomes]
  | .weightNotPositive ws => .badValue ["weights must be positive: ", Value.ofInts ws]
  | .emptyReserve =>
    .badValue ["weight_indication yields an empty reserve; deposit more or flatten the weights"]
  | .supplyNotPositive s => .badValue ["LP supply must be positive: ", s]
  | .nothingMinted m => .badValue ["Computed LP amount is non-positive: ", m]
  | .stakeNotPositive s => .badValue ["LP amount must be positive: ", s]
  | .stakeAboveSupply s supply =>
    .badValue ["Cannot burn more LP than supply: ", s, " > ", supply]
  | .noLargest => .wordless .badValue
  | .noSuchReserve => .wordless .missingIndex
  | .room e => .wordless e.kind

/-- The kind of a curve error. -/
def kind (e : CurveError) : ErrorKind := e.notice.kind

/-- The text of a curve error. -/
def message (e : CurveError) : Option Text := e.notice.message

end CurveError

namespace Curve

/-- The number of basis points in a whole. -/
def feeUnit : Int := 10000

/-- The quotient rounded down. -/
def floorDiv (a b : Int) : Int := a.fdiv b

/-- The quotient rounded up. -/
def ceilDiv (a b : Int) : Int := -((-a).fdiv b)

/-- The quotient rounded up, for a divisor that may be given wrong. -/
def ceilDiv? (a b : Int) : Except CurveError Int :=
  if b ≤ 0 then .error (.divisorNotPositive b) else .ok (ceilDiv a b)

/-- The fee on an amount, rounded up. -/
def feeOf (amount swapFee : Int) : Int :=
  ceilDiv (amount * swapFee) feeUnit

/-- Whether a rate leaves something of every amount. -/
def isFeeRate (swapFee : Int) : Bool :=
  0 ≤ swapFee && swapFee < feeUnit

/-- The fee on an amount. -/
def fee (amount swapFee : Int) : Except CurveError Int := do
  refuseIf (amount < 0) (.negativeAmount amount)
  refuseIf (!isFeeRate swapFee) (.feeOutOfRange swapFee)
  return feeOf amount swapFee

/-- Whether a reserve, or a weight, is zero or negative. -/
def anyEmpty (reserves : List Int) : Bool :=
  reserves.any (· ≤ 0)

/-- The number of an outcome of the pool. -/
def checkOutcome (reserves : List Int) (outcome : Int) : Except CurveError Nat :=
  if 0 ≤ outcome && outcome < reserves.length then .ok outcome.toNat
  else .error (.outcomeOutOfRange outcome reserves.length)

/-- The number of an outcome of a pool that has liquidity. -/
def checkReserves (reserves : List Int) (outcome : Int) : Except CurveError Nat := do
  let target ← checkOutcome reserves outcome
  if anyEmpty reserves then .error (.noLiquidity reserves) else .ok target

/-! ## Prices -/

/-- The odds weight of an outcome: the product of all the other reserves. -/
def oddsWeight (reserves : List Int) (outcome : Nat) : Int :=
  Amounts.product (reserves.eraseIdx outcome)

/-- The odds weights of all outcomes. -/
def oddsWeights (reserves : List Int) : List Int :=
  (List.range reserves.length).map (oddsWeight reserves)

/-- The price of an outcome in units of collateral, rounded down, without the fee. A pool without
liquidity has no price, and zero stands for it. -/
def spotPriceSansFee (reserves : List Int) (outcome denomination : Int) :
    Except CurveError Int := do
  let target ← checkOutcome reserves outcome
  return if anyEmpty reserves then 0
    else floorDiv (oddsWeight reserves target * denomination) (Amounts.sum (oddsWeights reserves))

/-- The price of an outcome with the fee on top. -/
def spotPrice (reserves : List Int) (outcome denomination swapFee : Int) :
    Except CurveError Int := do
  refuseIf (!isFeeRate swapFee) (.feeOutOfRange swapFee)
  let price ← spotPriceSansFee reserves outcome denomination
  return floorDiv (price * feeUnit) (feeUnit - swapFee)

/-! ## Trades -/

/-- What a purchase yields. -/
structure BuyQuote where
  /-- The shares of the bought outcome. -/
  sharesOut : Int
  /-- The part of the payment that the pool keeps as its fee. -/
  fee : Int
  deriving DecidableEq

/-- The reserve that must remain of the traded outcome, when every other reserve changes by
`change`, so that the product of the reserves does not fall. -/
def targetAfter (target : Int) (others : List Int) (change : Int) : Int :=
  ceilDiv (target * Amounts.product others) (Amounts.product (others.map (· + change)))

/-- The shares for a payment. The payment less its fee buys complete sets for the pool; the bought
outcome then shrinks until the product of the reserves is as before. -/
def quoteBuy (reserves : List Int) (collateralIn outcome swapFee : Int) :
    Except CurveError BuyQuote := do
  let t ← checkReserves reserves outcome
  refuseIf (collateralIn ≤ 0) (.collateralInNotPositive collateralIn)
  let fee ← fee collateralIn swapFee
  let net := collateralIn - fee
  let target := reserves.getD t 0
  let sharesOut := target + net - targetAfter target (reserves.eraseIdx t) net
  refuseIf (sharesOut < 0) (.negativeShares sharesOut)
  return ⟨sharesOut, fee⟩

/-- The shares that must be sold to release collateral. The sold shares join the pool, then complete
sets leave it; the reserve of the sold outcome must be large enough to restore the product. -/
def quoteSell (reserves : List Int) (collateralOut outcome : Int) : Except CurveError Int := do
  let t ← checkReserves reserves outcome
  refuseIf (collateralOut ≤ 0) (.collateralOutNotPositive collateralOut)
  let target := reserves.getD t 0
  let others := reserves.eraseIdx t
  refuseIf (others.any (· ≤ collateralOut)) (.drainsReserve collateralOut (others.min?.getD 0))
  return collateralOut + targetAfter target others (-collateralOut) - target

/-- The position that an index names; a negative index counts from the end. -/
def position? (length : Nat) (index : Int) : Option Nat :=
  if 0 ≤ index then if index < length then some index.toNat else none
  else if 0 ≤ index + length then some (index + length).toNat
  else none

/-- The reserves after a purchase: complete sets join, the bought shares leave. -/
def applyBuy (reserves : List Int) (net outcome sharesOut : Int) :
    Except CurveError (List Int) :=
  match position? reserves.length outcome with
  | none => .error .noSuchReserve
  | some t =>
    let grown := (reserves.map (· + net)).modify t (· - sharesOut)
    if grown.getD t 0 ≤ 0 then .error (.targetDrained (grown.getD t 0)) else .ok grown

/-- The reserves after a sale: the sold shares join, complete sets leave. -/
def applySell (reserves : List Int) (collateralOut outcome sharesIn : Int) :
    Except CurveError (List Int) :=
  match position? reserves.length outcome with
  | none => .error .noSuchReserve
  | some t =>
    let shrunk := (reserves.modify t (· + sharesIn)).map (· - collateralOut)
    if anyEmpty shrunk then .error (.reserveDrained shrunk) else .ok shrunk

/-! ## Liquidity -/

/-- What becomes of a deposit: the part of each complete set that joins the reserves, and the rest,
which returns to the depositor as shares. -/
structure Funding where
  /-- The amounts that join the reserves. -/
  added : List Int
  /-- The shares that return to the depositor. -/
  returned : List Int
  /-- The stake that the depositor receives. -/
  minted : Int
  deriving DecidableEq

/-- Splits the first deposit. Without weights all of it joins every reserve; with weights all of it
joins the reserve of the heaviest outcome and a proportional part the others. -/
def initialFunding (total outcomes : Int) (weights : Option (List Int)) :
    Except CurveError Funding := do
  refuseIf (total ≤ 0) (.totalNotPositive total)
  match weights with
  | none =>
    let added ← (repeated outcomes total).mapError .room
    return ⟨added, added.map fun _ => 0, total⟩
  | some ws =>
    refuseIf (ws.length ≠ outcomes) (.weightCount ws.length outcomes)
    refuseIf (anyEmpty ws) (.weightNotPositive ws)
    match ws.max? with
    | none => .error .noLargest
    | some heaviest =>
      let added := ws.map fun w => floorDiv (total * w) heaviest
      refuseIf (anyEmpty added) .emptyReserve
      return ⟨added, added.map (total - ·), total⟩

/-- Splits a later deposit so that the proportions of the reserves stay. The stake grows as the
largest reserve does. -/
def proportionalFunding (reserves : List Int) (total supply : Int) :
    Except CurveError Funding := do
  refuseIf (total ≤ 0) (.totalNotPositive total)
  refuseIf (supply ≤ 0) (.supplyNotPositive supply)
  refuseIf (anyEmpty reserves) (.noLiquidity reserves)
  match reserves.max? with
  | none => .error .noLargest
  | some largest =>
    let added := reserves.map fun r => floorDiv (total * r) largest
    let minted := floorDiv (total * supply) largest
    refuseIf (minted ≤ 0) (.nothingMinted minted)
    return ⟨added, added.map (total - ·), minted⟩

/-- The part of a reserve that belongs to a stake, rounded down. -/
def shareOfReserve (stake supply reserve : Int) : Int :=
  floorDiv (stake * reserve) supply

/-- The shares that a stake is given back for. -/
def release (stake : Int) (reserves : List Int) (supply : Int) :
    Except CurveError (List Int) := do
  refuseIf (stake ≤ 0) (.stakeNotPositive stake)
  refuseIf (supply ≤ 0) (.supplyNotPositive supply)
  refuseIf (supply < stake) (.stakeAboveSupply stake supply)
  return reserves.map (shareOfReserve stake supply)

end Curve

end PredictionMarket
