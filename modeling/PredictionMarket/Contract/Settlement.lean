import PredictionMarket.Contract.Plan

/-!
# Settlement

How a market is resolved, what its accounts are paid, and what becomes of the payments. Governance
may resolve a market at its end; the oracle answers later, and its answer also frees the bond of the
market's creator. An answer that the journal cannot show resolves the market all the same, but
nothing comes after that. Payments are reported on by the layer that settles them.
-/

namespace PredictionMarket

/-- An answer as the oracle hands it in: as it is, or as a text on the wire. -/
inductive GivenAnswer where
  /-- The answer itself. -/
  | plain (answer : Answer)
  /-- The text of an answer. -/
  | wire (text : Text)

/-- The answer that is given. -/
def GivenAnswer.read : GivenAnswer → Except ContractError Answer
  | .plain answer => .ok answer
  | .wire text => (Message.parseAnswer text).mapError .answer

namespace Contract

/-- The contract with the resolution of a market in its journal. -/
def recordFinal (c : Contract) (m : Market) (source : RulingSource) : Contract :=
  (c.record (some m.id) (.marketFinalized source m.numerator)).record (some m.id)
    (.statusChanged .finalized)

/-- The log line of a resolution. -/
def finalLine (m : Market) (source : RulingSource) : LogLine where
  event := "market_finalized"
  fields := [("market_id", .int m.id), ("source", .text source.name),
    ("payout_kind", .text m.numerator.kindName), ("payout_numerator", m.numerator.toValue)]

/-- Resolves a market by a ruling of governance; without a vector the market is invalid. -/
def rule (c : Contract) (sender : Text) (marketId : Value) (vector : Option (List Value))
    (now : Int) : Except ContractError Plan := do
  c.checkGovernance sender
  let m ← c.market marketId
  let (final, numerator) ← (m.rule vector now).mapError .market
  return {
    reply := .resolved numerator
    after := (c.store final).recordFinal final .governance
    log := [finalLine final .governance] }

/-- Resolves a market by the answer of the oracle, and returns the bond to its creator. -/
def answer (c : Contract) (sender : Text) (marketId : Value) (given : GivenAnswer)
    (bondReturned : Value) (now : Int) : Except ContractError Plan := do
  c.checkOracle sender
  let bond ← checkAmount "bond_returned" bondReturned
  let answer ← given.read
  let m ← c.market marketId
  let answered ← (m.recordAnswer answer now).mapError .market
  let (final, numerator) ← (answered.finalizeFromOracle now).mapError .market
  let stored := c.store final
  if answer.isWritable then
    return {
      reply := .resolved numerator
      after := (stored.record (some m.id) (.answerRecorded answer)).recordFinal final .oracle
      log := [finalLine final .oracle]
      payment := some ⟨m.id, m.creator, c.config.bondToken, bond, .validityBond⟩ }
  else
    return {
      reply := .resolved numerator
      after := stored
      log := []
      failure := some (.badAnswer answer) }

/-- Pays an account for all it holds in a market. -/
def claim (c : Contract) (sender : Text) (marketId : Value) : Except ContractError Plan := do
  c.checkRunning
  let m ← c.market marketId
  let (left, settlement) ← (m.claim sender).mapError .market
  return {
    reply := .settled settlement
    after := (c.store left).record (some m.id) (.earningsClaimed sender settlement)
    log := [⟨.info, "earnings_claimed", [("market_id", .int m.id), ("account", .text sender),
      ("total", .int settlement.total)]⟩]
    payment := some ⟨m.id, sender, .text m.pool.token, settlement.total, .claim⟩ }

/-- Takes the report that a transfer is settled. -/
def acknowledge (c : Contract) (key : Text) : Except ContractError Plan := do
  let (t, outbox) ← (c.outbox.acknowledge key).mapError .outbox
  return {
    reply := .reported t
    after := { c with outbox }.record t.id.marketId (.transferAcknowledged key)
    log := [⟨.info, "transfer_acknowledged", [("key", .text key), ("receiver", .text t.id.receiver),
      ("amount", .int t.amount)]⟩] }

/-- Takes the report that a transfer failed. -/
def reportFailure (c : Contract) (key : Text) (reason : Value) : Except ContractError Plan := do
  let (t, outbox) ← (c.outbox.fail key reason).mapError .outbox
  return {
    reply := .reported t
    after := { c with outbox }.record t.id.marketId (.transferFailed key reason t.attempts)
    log := [⟨.warning, "transfer_failed", [("key", .text key), ("receiver", .text t.id.receiver),
      ("reason", reason), ("attempts", .int t.attempts)]⟩] }

end Contract

end PredictionMarket
