import PredictionMarket.Market

/-!
# The journal

Everything that a contract does leaves an entry in its journal, in order. Entries are never taken
back. Beside the journal there is the log, which tells an operator what went on, rejected calls
included, and which nothing depends on.
-/

namespace PredictionMarket

/-- Who resolved a market. -/
inductive RulingSource where
  /-- Governance, by a ruling. -/
  | governance
  /-- The oracle, by its answer. -/
  | oracle
  deriving DecidableEq

/-- The name of a source. -/
def RulingSource.name : RulingSource → String
  | .governance => "governance"
  | .oracle => "oracle"

/-- Something that a contract did. -/
inductive Event where
  /-- A market was created. -/
  | marketCreated (creator : Text) (outcomes : Int) (collateral : Text) (swapFee : Int)
      (isScalar : Bool) (endTime resolutionTime : Int)
  /-- The status of a market is a new one. -/
  | statusChanged (status : MarketStatus)
  /-- A market was switched on or off. -/
  | switched (enabled finalized : Bool)
  /-- An account traded. -/
  | traded (account : Text) (receipt : Receipt)
  /-- The oracle answered. -/
  | answerRecorded (answer : Answer)
  /-- A market was resolved. -/
  | marketFinalized (source : RulingSource) (numerator : Numerator)
  /-- An account was paid for what it held. -/
  | earningsClaimed (account : Text) (settlement : Settlement)
  /-- A payment was put into the outbox. -/
  | transferQueued (key receiver : Text) (token : Value) (amount : Int) (operation : Text)
  /-- A transfer was reported as settled. -/
  | transferAcknowledged (key : Text)
  /-- A transfer was reported as failed. -/
  | transferFailed (key : Text) (reason : Value) (attempts : Nat)
  /-- Governance passed to another account. -/
  | governanceChanged (account : Text)

/-- The name of the event that a trade is. -/
def Receipt.eventName : Receipt → String
  | .addLiquidity _ _ => "LiquidityAdded"
  | .exitPool _ => "PoolExited"
  | .buy _ _ _ => "SharesBought"
  | .sell _ _ _ => "SharesSold"
  | .redeem _ => "CollateralRedeemed"

/-- The particulars of a trade. -/
def Receipt.fields : Receipt → List (String × Value)
  | .addLiquidity total d =>
    [("amount", .int total), ("lp_minted", .int d.minted), ("shares_returned", .ofInts d.returned)]
  | .exitPool e =>
    [("lp_burned", .int e.stake), ("fees_earned", .int e.fees), ("shares_out", .ofInts e.sharesOut)]
  | .buy collateralIn outcome q =>
    [("outcome", outcome), ("collateral_in", .int collateralIn), ("shares_out", .int q.sharesOut),
      ("fee", .int q.fee)]
  | .sell collateralOut outcome s =>
    [("outcome", outcome), ("collateral_out", .int collateralOut), ("shares_in", .int s.sharesIn),
      ("fee", .int s.fee)]
  | .redeem r => [("burned", .int r.sets), ("fee", .int r.fee), ("payout", .int r.payout)]

namespace Event

/-- The name of an event. -/
def name : Event → String
  | .marketCreated .. => "MarketCreated"
  | .statusChanged _ => "MarketStatusChanged"
  | .switched _ _ => "MarketStatusChanged"
  | .traded _ receipt => receipt.eventName
  | .answerRecorded _ => "OracleAnswerRecorded"
  | .marketFinalized _ _ => "MarketFinalized"
  | .earningsClaimed _ _ => "EarningsClaimed"
  | .transferQueued .. => "TransferQueued"
  | .transferAcknowledged _ => "TransferAcknowledged"
  | .transferFailed _ _ _ => "TransferFailed"
  | .governanceChanged _ => "GovernanceChanged"

/-- The particulars of an event. -/
def fields : Event → List (String × Value)
  | .marketCreated creator outcomes collateral swapFee isScalar endTime resolutionTime =>
    [("creator", .text creator), ("outcomes", .int outcomes),
      ("collateral_token_id", .text collateral), ("swap_fee", .int swapFee),
      ("is_scalar", .bool isScalar), ("end_time", .int endTime),
      ("resolution_time", .int resolutionTime)]
  | .statusChanged status => [("status", .text status.name)]
  | .switched enabled finalized => [("enabled", .bool enabled), ("finalized", .bool finalized)]
  | .traded account receipt => ("account", .text account) :: receipt.fields
  | .answerRecorded answer => [("answer", .text answer.written)]
  | .marketFinalized source numerator =>
    [("source", .text source.name), ("payout_kind", .text numerator.kindName),
      ("payout_numerator", numerator.toValue)]
  | .earningsClaimed account s =>
    [("account", .text account), ("share_payout", .int s.sharePayout),
      ("fees_earned", .int s.fees), ("total", .int s.total)]
  | .transferQueued key receiver token amount operation =>
    [("key", .text key), ("receiver", .text receiver), ("token_id", token),
      ("amount", .int amount), ("operation", .text operation)]
  | .transferAcknowledged key => [("key", .text key)]
  | .transferFailed key reason attempts =>
    [("key", .text key), ("reason", reason), ("attempts", .int attempts)]
  | .governanceChanged account => [("gov", .text account)]

end Event

/-- An entry of the journal. -/
structure JournalEntry where
  /-- The market that the event concerns, if it concerns one. -/
  marketId : Option Int
  /-- What was done. -/
  event : Event

/-- The plain form of an entry. -/
def JournalEntry.toValue (e : JournalEntry) : Value :=
  .record [("event", .text e.event.name), ("market_id", .ofInt? e.marketId),
    ("fields", .record e.event.fields)]

/-- How much a line of the log matters. -/
inductive LogLevel where
  /-- Things go as they should. -/
  | info
  /-- Something went wrong. -/
  | warning
  deriving DecidableEq

/-- The name of a level. -/
def LogLevel.name : LogLevel → String
  | .info => "info"
  | .warning => "warning"

/-- A line of the log. -/
structure LogLine where
  /-- How much it matters. -/
  level : LogLevel := .info
  /-- What happened. -/
  event : String
  /-- The particulars. -/
  fields : List (String × Value) := []

/-- The plain form of a line. -/
def LogLine.toValue (l : LogLine) : Value :=
  .record (l.fields ++ [("event", .text l.event), ("log_level", .text l.level.name)])

end PredictionMarket
