import PredictionMarket.Config
import PredictionMarket.Contract.Error
import PredictionMarket.Journal

/-!
# The contract

The contract holds all markets and everything around them: who governs it, which tokens count as
collateral, what it owes, and what it did. Its calls are in files of their own. Each is planned in
full before anything is changed, and paying out comes last.
-/

namespace PredictionMarket

/-- The state of a contract. -/
structure Contract where
  /-- The configuration. -/
  config : Config := {}
  /-- The account that governs. -/
  gov : Text
  /-- The account of the oracle. -/
  oracleId : Text
  /-- Whether trading and creation are stopped. -/
  paused : Bool := false
  /-- The collateral tokens that new markets may use, with their numbers of decimals. -/
  whitelist : Table Text Int := .empty
  /-- The markets. -/
  arena : Arena := {}
  /-- What is owed. -/
  outbox : Outbox := {}
  /-- The numbers of the transfers to each account. -/
  nonces : Nonces := .empty
  /-- What was done. -/
  journal : List JournalEntry := []
  /-- The oracle that is asked. -/
  oracle : Oracle := {}

namespace Contract

/-- A new contract. -/
def make (config : Config) (gov oracleId : Text) : Contract where
  config := config
  gov := gov
  oracleId := oracleId
  whitelist := config.whitelist

/-! ## Guards -/

/-- Refuses a caller that is not governance. -/
def checkGovernance (c : Contract) (sender : Text) : Except ContractError Unit :=
  refuseIf (sender ≠ c.gov) (.notGovernance sender)

/-- Refuses a caller that is not the oracle. -/
def checkOracle (c : Contract) (sender : Text) : Except ContractError Unit :=
  refuseIf (sender ≠ c.oracleId) (.notOracle sender)

/-- Refuses all calls while the contract is paused. -/
def checkRunning (c : Contract) : Except ContractError Unit :=
  refuseIf c.paused .paused

/-- An amount of a call, given as a value: an integer of at most 128 bits. -/
def checkAmount (name : String) : Value → Except ContractError Int
  | .int n =>
    if n < 0 ∨ Part.maxAmount < n then .error (.amountOutOfRange name n) else .ok n
  | _ => .error (.amountNotInteger name)

/-- An amount of a call that must not be zero. -/
def checkPositive (name : String) (amount : Value) : Except ContractError Int := do
  let n ← checkAmount name amount
  refuseIf (n = 0) (.amountZero name)
  return n

/-! ## Access -/

/-- The market with a number. -/
def market (c : Contract) (marketId : Value) : Except ContractError Market :=
  (c.arena.get marketId).mapError .arena

/-- The contract with one market replaced. -/
def store (c : Contract) (m : Market) : Contract :=
  { c with arena := c.arena.store m }

/-- The contract with one more entry in its journal. -/
def record (c : Contract) (marketId : Option Int) (event : Event) : Contract :=
  { c with journal := c.journal ++ [⟨marketId, event⟩] }

/-- The contract with an oracle that refuses all requests from now on, or accepts them again. -/
def withRefusing (c : Contract) (refusing : Bool) : Contract :=
  { c with oracle := { c.oracle with refusing } }

/-- The entries of the journal that concern a market, or those that concern none for null. -/
def journalOf (c : Contract) (marketId : Value) : List JournalEntry :=
  match marketId, marketId.number? with
  | .null, _ => c.journal.filter fun e => e.marketId.isNone
  | _, some n => c.journal.filter fun e => e.marketId == some n
  | _, none => []

end Contract

end PredictionMarket
