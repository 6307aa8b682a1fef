import PredictionMarket.Contract.Plan

/-!
# Creation of markets

The terms of a new market are checked one after another. Then the oracle is asked, and only when it
has accepted the request is the market taken into the arena.
-/

namespace PredictionMarket.Contract

/-- Whether a multiplier is missing or zero. -/
def lacksMultiplier : Option Int → Bool
  | none => true
  | some k => k = 0

/-- The number of decimals of the collateral of a new market. -/
def checkListed (c : Contract) (token : Text) : Except ContractError Int :=
  match c.whitelist.get? token with
  | some decimals => .ok decimals
  | none => .error (.notCollateral token)

/-- Checks the terms of a new market, and returns the number of decimals of its collateral. -/
def checkTerms (c : Contract) (terms : MarketTerms) (now : Int) : Except ContractError Int := do
  let decimals ← c.checkListed terms.collateral
  refuseIf (terms.outcomes < c.config.minOutcomes ∨ c.config.maxOutcomes < terms.outcomes)
    (.outcomesOutOfBounds terms.outcomes c.config.minOutcomes c.config.maxOutcomes)
  refuseIf (terms.endTime ≤ now) (.endNotAfterNow terms.endTime now)
  refuseIf (terms.resolutionTime < terms.endTime)
    (.resolutionBeforeEnd terms.resolutionTime terms.endTime)
  refuseIf (c.config.maxSwapFee < terms.swapFee)
    (.swapFeeTooLarge terms.swapFee c.config.maxSwapFee)
  refuseIf (terms.isScalar ∧ lacksMultiplier terms.scalarMultiplier) .noMultiplier
  let multiplier :=
    if lacksMultiplier terms.scalarMultiplier then 1 else terms.scalarMultiplier.getD 1
  (Resolution.checkTags terms.tags terms.outcomes terms.isScalar multiplier).mapError .tags
  return decimals

/-- The bond for a new market. -/
def checkBond (c : Contract) (bond : Value) : Except ContractError Unit := do
  let n ← checkAmount "bond_in" bond
  refuseIf (n < c.config.validityBond) (.bondShort n c.config.validityBond)

/-- The market that terms describe, with the next number. -/
def newMarket (c : Contract) (sender : Text) (terms : MarketTerms) (decimals : Int) :
    Except ContractError Market := do
  let id := c.arena.nextId
  let pool ←
    (Pool.make id terms.outcomes terms.collateral decimals terms.swapFee).mapError .pool
  return {
    id
    creator := sender
    pool
    tags := terms.tags
    endTime := terms.endTime
    resolutionTime := terms.resolutionTime
    isScalar := terms.isScalar
    scalarMultiplier := terms.scalarMultiplier
    challengePeriod := terms.challengePeriod.getD c.config.challengePeriod
    validityBond := c.config.validityBond
    description := terms.description
    extraInfo := terms.extraInfo
    categories := terms.categories
    sources := terms.sources }

/-- The request that a market makes to the oracle. -/
def requestOf (c : Contract) (m : Market) : Except ContractError DataRequest := do
  let labels ← (Tag.labels? m.tags).mapError fun type => .tags (.unknownTag type)
  return {
    marketId := m.id
    requester := m.creator
    bondToken := c.config.bondToken
    validityBond := m.validityBond
    settlementTime := m.resolutionTime
    challengePeriod := m.challengePeriod
    sources := m.sources
    outcomes := labels
    description := m.description
    isScalar := m.isScalar }

/-- The event that a market was created. -/
def creationEvent (m : Market) : Event :=
  .marketCreated m.creator m.pool.outcomes m.pool.token m.pool.swapFee m.isScalar m.endTime
    m.resolutionTime

/-- The log line of a new market. -/
def creationLine (m : Market) : LogLine where
  event := "market_created"
  fields := [("market_id", .int m.id), ("creator", .text m.creator),
    ("outcomes", .int m.pool.outcomes), ("collateral", .text m.pool.token),
    ("is_scalar", .bool m.isScalar)]

/-- Creates a market. The bond must cover the one that the configuration asks for. -/
def createMarket (c : Contract) (sender : Text) (terms : MarketTerms) (now : Int)
    (bond : Value) : Except ContractError Plan := do
  c.checkRunning
  c.checkBond bond
  let decimals ← c.checkTerms terms now
  let m ← c.newMarket sender terms decimals
  let oracle ← (c.oracle.accept (← c.requestOf m)).mapError .oracle
  let arena ← (c.arena.push m).mapError .arena
  let created := { c with oracle, arena }
  return {
    reply := .created m.id
    after := (created.record (some m.id) (creationEvent m)).record (some m.id)
      (.statusChanged (m.status now))
    log := [creationLine m] }

end PredictionMarket.Contract
