import PredictionMarket.Contract.Creation
import PredictionMarket.Contract.Governance
import PredictionMarket.Contract.Settlement
import PredictionMarket.Contract.Trading
import PredictionMarket.Value.Alike
import PredictionMarket.Value.Equality

/-!
# Calls

Everything that can be asked of a contract that changes it. A transfer of collateral is passed on to
the action that its message states, as if the sender had asked for it, and the log shows both. A
list of calls is run from left to right.
-/

namespace PredictionMarket

/-- What an account can ask for. -/
inductive Action where
  /-- To pass governance on. -/
  | setGov (account : Option Text)
  /-- To stop the contract. -/
  | pause
  /-- To restart the contract. -/
  | unpause
  /-- To accept a collateral token. -/
  | setCollateral (token : Option Text) (decimals : Value)
  /-- To accept a collateral token no longer. -/
  | removeCollateral (token : Text)
  /-- To switch a market on or off. -/
  | switchMarket (marketId : Value) (enabled : Bool)
  /-- To create a market. -/
  | createMarket (terms : MarketTerms) (bond : Value) (now : Int)
  /-- To trade in a market. -/
  | trade (marketId : Value) (trade : Trade Value) (now : Int)
  /-- To resolve a market by a ruling. -/
  | rule (marketId : Value) (vector : Option (List Value)) (now : Int)
  /-- To resolve a market by an answer. -/
  | answer (marketId : Value) (given : GivenAnswer) (bondReturned : Value) (now : Int)
  /-- To be paid for what it holds. -/
  | claim (marketId : Value)

/-- A call of a contract: by an account, or by the layer that settles transfers. -/
inductive Call where
  /-- An account asks for something. -/
  | ask (sender : Text) (action : Action)
  /-- An account hands collateral over, for what the message says. -/
  | transfer (sender : Text) (token amount message : Value) (now : Int)
  /-- A transfer out of the contract is settled. -/
  | acknowledge (key : Text)
  /-- A transfer out of the contract failed. -/
  | reportFailure (key : Text) (reason : Value)

/-- The name of an action in the log. -/
def Action.operation : Action → String
  | .setGov _ => "set_gov"
  | .pause => "pause"
  | .unpause => "unpause"
  | .setCollateral _ _ => "set_collateral_token"
  | .removeCollateral _ => "remove_collateral_token"
  | .switchMarket _ _ => "set_market_enabled"
  | .createMarket _ _ _ => "create_market"
  | .trade _ t _ => t.operation
  | .rule _ _ _ => "resolute_market"
  | .answer _ _ _ _ => "set_outcome"
  | .claim _ => "claim_earnings"

/-- Where a transfer leads. -/
structure Route where
  /-- The action that its message states. -/
  action : Action
  /-- What is given back of it. -/
  refund : Int

namespace Contract

/-! ## Actions -/

/-- The plan of an action. -/
def plan (c : Contract) (sender : Text) : Action → Except ContractError Plan
  | .setGov account => c.setGov sender account
  | .pause => c.pause sender
  | .unpause => c.unpause sender
  | .setCollateral token decimals => c.setCollateral sender token decimals
  | .removeCollateral token => c.removeCollateral sender token
  | .switchMarket marketId enabled => c.switchMarket sender marketId enabled
  | .createMarket terms bond now => c.createMarket sender terms now bond
  | .trade marketId t now => c.trade sender marketId t now
  | .rule marketId vector now => c.rule sender marketId vector now
  | .answer marketId given bondReturned now => c.answer sender marketId given bondReturned now
  | .claim marketId => c.claim sender marketId

/-- Does what an account asks for. -/
def ask (c : Contract) (sender : Text) (action : Action) : Outcome :=
  (c.perform (c.plan sender action)).logRejection action.operation

/-! ## Transfers -/

/-- Refuses a bond in another token than the one that the configuration names. -/
def checkBondToken (c : Contract) (token : Value) : Except ContractError Unit :=
  let bond := c.config.bondToken
  refuseIf (bond.truthy ∧ (!token.alike bond ∨ bond = .float .notANumber)) (.wrongBondToken bond)

/-- Refuses collateral in another token than the one that a market takes. -/
def checkCollateral (c : Contract) (marketId : Int) (token : Value) :
    Except ContractError Unit := do
  let m ← c.market (.int marketId)
  refuseIf (token ≠ .text m.pool.token) (.wrongCollateral marketId m.pool.token token)

/-- Where a transfer of an amount of a token leads. -/
def route (c : Contract) (token amount message : Value) (now : Int) :
    Except ContractError Route := do
  c.checkRunning
  let n ← checkPositive "amount" amount
  match ← (Message.parse message).mapError .message with
  | .createMarket terms => do
    c.checkBondToken token
    return ⟨.createMarket terms (.int n) now, n - c.config.validityBond⟩
  | .addLiquidity marketId weights => do
    c.checkCollateral marketId token
    return ⟨.trade (.int marketId) (.addLiquidity (.int n) weights) now, 0⟩
  | .buy marketId outcome minShares => do
    c.checkCollateral marketId token
    return ⟨.trade (.int marketId) (.buy (.int n) (.int outcome) (.int minShares)) now, 0⟩

/-- Passes a transfer on. -/
def follow (c : Contract) (sender : Text) (route : Except ContractError Route) : Outcome :=
  match route with
  | .error e => ⟨.error e, c, []⟩
  | .ok r =>
    let o := c.ask sender r.action
    { o with result := o.result.map fun _ => .refund r.refund }

/-- Takes collateral in. -/
def transfer (c : Contract) (sender : Text) (token amount message : Value) (now : Int) :
    Outcome :=
  (c.follow sender (c.route token amount message now)).logRejection "ft_on_transfer"

/-! ## Runs -/

/-- Answers a call. -/
def step (c : Contract) : Call → Outcome
  | .ask sender action => c.ask sender action
  | .transfer sender token amount message now => c.transfer sender token amount message now
  | .acknowledge key => (c.perform (c.acknowledge key)).logRejection "acknowledge_transfer"
  | .reportFailure key reason =>
    (c.perform (c.reportFailure key reason)).logRejection "fail_transfer"

/-- The state after a list of calls. -/
def run (c : Contract) (calls : List Call) : Contract :=
  calls.foldl (fun c call => (c.step call).after) c

end Contract

end PredictionMarket
