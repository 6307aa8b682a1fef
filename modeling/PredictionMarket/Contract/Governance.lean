import PredictionMarket.Contract.Plan

/-!
# Governance

The governing account can pass its power on, stop and restart the contract, choose the collateral of
new markets, and switch single markets off and on.
-/

namespace PredictionMarket.Contract

/-- Passes governance to another account. -/
def setGov (c : Contract) (sender : Text) (account : Option Text) :
    Except ContractError Plan := do
  c.checkGovernance sender
  match account with
  | none => .error .noAccount
  | some account => do
    refuseIf account.isEmpty .noAccount
    return {
      reply := .done
      after := { c with gov := account }.record none (.governanceChanged account)
      log := [⟨.info, "governance_changed", [("gov", .text account)]⟩] }

/-- Stops trading and creation. -/
def pause (c : Contract) (sender : Text) : Except ContractError Plan := do
  c.checkGovernance sender
  return {
    reply := .done
    after := { c with paused := true }
    log := [⟨.info, "contract_paused", []⟩] }

/-- Starts trading and creation again. -/
def unpause (c : Contract) (sender : Text) : Except ContractError Plan := do
  c.checkGovernance sender
  return {
    reply := .done
    after := { c with paused := false }
    log := [⟨.info, "contract_unpaused", []⟩] }

/-- The number of decimals of a collateral token, given as a value. -/
def checkDecimals : Value → Except ContractError Int
  | .int d => if 0 ≤ d ∧ d ≤ 38 then .ok d else .error (.badDecimals (.int d))
  | v => .error (.badDecimals v)

/-- Accepts a token as collateral of new markets. -/
def setCollateral (c : Contract) (sender : Text) (token : Option Text) (decimals : Value) :
    Except ContractError Plan := do
  c.checkGovernance sender
  match token with
  | none => .error .noTokenId
  | some token => do
    refuseIf token.isEmpty .noTokenId
    let d ← checkDecimals decimals
    return {
      reply := .done
      after := { c with whitelist := c.whitelist.insert token d }
      log := [⟨.info, "collateral_whitelisted",
        [("token_id", .text token), ("decimals", .int d)]⟩] }

/-- Accepts a token no longer. Markets that use it keep it. -/
def removeCollateral (c : Contract) (sender token : Text) : Except ContractError Plan := do
  c.checkGovernance sender
  refuseIf (c.whitelist.get? token).isNone (.notListed token)
  return {
    reply := .done
    after := { c with whitelist := c.whitelist.erase token }
    log := [⟨.info, "collateral_removed", [("token_id", .text token)]⟩] }

/-- Switches a market off or on. -/
def switchMarket (c : Contract) (sender : Text) (marketId : Value) (enabled : Bool) :
    Except ContractError Plan := do
  c.checkGovernance sender
  let m ← c.market marketId
  return {
    reply := .done
    after := (c.store { m with enabled }).record (some m.id) (.switched enabled m.finalized)
    log := [⟨.info, "market_enabled_changed",
      [("market_id", .int m.id), ("enabled", .bool enabled)]⟩] }

end PredictionMarket.Contract
