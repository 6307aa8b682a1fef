import PredictionMarket.Pool.Settlement
import PredictionMarket.Resolution

/-!
# Markets

A market is a pool with the tags of its outcomes and a life of its own. It is open for trading until
its end, then waits for a resolution, by a ruling or by the answer of the oracle, and is final from
then on. The market decides whether a call is in time; what the call does is up to the pool.
Times are integers that the caller supplies.
-/

namespace PredictionMarket

/-- Why a market turns a call down. -/
inductive MarketError where
  /-- The market is final, and trading is over. -/
  | finalized (marketId : Int)
  /-- The market is switched off. -/
  | disabled (marketId : Int)
  /-- Trading has ended. -/
  | ended (marketId endTime : Int)
  /-- The market is final, and cannot be resolved again. -/
  | alreadyFinalized (marketId : Int)
  /-- Trading has not ended yet. -/
  | notEnded (marketId endTime : Int)
  /-- The time of resolution has not come yet. -/
  | notResolvable (marketId resolutionTime now : Int)
  /-- The oracle has not answered yet. -/
  | noAnswer (marketId : Int)
  /-- The market is not final, and nothing can be claimed. -/
  | notFinalized (marketId : Int)
  /-- An error of the pool. -/
  | pool (e : PoolError)
  /-- The answer does not resolve the market. -/
  | resolution (e : ResolutionError)
  /-- The vector of a ruling is refused. -/
  | payout (e : PayoutError)
  /-- A numeral in the plain form of the market has too many digits. -/
  | unwritable (shown : Value)

namespace MarketError

/-- What a market error says. -/
def notice : MarketError → Notice
  | .finalized m => .refusal .alreadyFinalized ["market ", m, " is finalized"]
  | .disabled m => .refusal .marketDisabled ["market ", m, " is disabled"]
  | .ended m t => .refusal .marketEnded ["market ", m, " ended at ", t]
  | .alreadyFinalized m =>
    .refusal .alreadyFinalized ["market ", m, " is already finalized"]
  | .notEnded m t => .refusal .marketNotEnded ["market ", m, " ends at ", t]
  | .notResolvable m t now =>
    .refusal .resolutionTimeNotReached ["market ", m, " resolves at ", t, ", now=", now]
  | .noAnswer m =>
    .refusal .dataRequestNotFinalized ["market ", m, " has no finalized oracle answer"]
  | .notFinalized m => .refusal .notFinalized ["market ", m, " is not finalized"]
  | .pool e => e.notice
  | .resolution e => e.notice
  | .payout e => e.notice
  | .unwritable _ => .wordless .badValue

/-- The kind of a market error. -/
def kind (e : MarketError) : ErrorKind := e.notice.kind

/-- The text of a market error. -/
def message (e : MarketError) : Option Text := e.notice.message

/-- The bound that a trade missed and the value it would have had. -/
def slippage? : MarketError → Option (Int × Int)
  | .pool e => e.slippage?
  | _ => none

end MarketError

/-- Where a market stands. -/
inductive MarketStatus where
  /-- Trading is on. -/
  | opened
  /-- Trading is over and no resolution has come. -/
  | awaitingResolution
  /-- The payout is final. -/
  | finalized
  deriving DecidableEq

/-- The name of a status. -/
def MarketStatus.name : MarketStatus → String
  | .opened => "open"
  | .awaitingResolution => "awaiting_resolution"
  | .finalized => "finalized"

/-- A market. -/
structure Market where
  /-- Its number. -/
  id : Int
  /-- The account that created it. -/
  creator : Text
  /-- Its ledger. -/
  pool : Pool
  /-- The tags of the outcomes. -/
  tags : List Tag
  /-- When trading ends. -/
  endTime : Int
  /-- When the oracle may answer. -/
  resolutionTime : Int
  /-- Whether the outcomes are the two sides of a range. -/
  isScalar : Bool := false
  /-- The units in which a scalar market is resolved. -/
  scalarMultiplier : Option Int := none
  /-- How long an answer may be disputed. -/
  challengePeriod : Int := 0
  /-- The bond that travels with the request to the oracle. -/
  validityBond : Int := 0
  /-- The question. -/
  description : Text := []
  /-- More about the question. -/
  extraInfo : Text := []
  /-- What the question is about. -/
  categories : List Text := []
  /-- Where the answer can be found. -/
  sources : List Text := []
  /-- The resolution. -/
  numerator : Numerator := .unresolved
  /-- Whether the resolution is final. -/
  finalized : Bool := false
  /-- Whether trading is switched on. -/
  enabled : Bool := true
  /-- Whether the oracle has answered. -/
  dataRequestFinalized : Bool := false
  /-- The answer of the oracle. -/
  oracleAnswer : Option Answer := none

namespace Market

/-- Where the market stands at a time. -/
def status (m : Market) (now : Int) : MarketStatus :=
  if m.finalized then .finalized
  else if m.endTime ≤ now then .awaitingResolution
  else .opened

/-- Refuses a trade in a market that is final, switched off or over. -/
def checkTrading (m : Market) (now : Int) : Except MarketError Unit := do
  refuseIf m.finalized (.finalized m.id)
  refuseIf (!m.enabled) (.disabled m.id)
  refuseIf (m.endTime ≤ now) (.ended m.id m.endTime)

/-- Refuses a resolution of a market that is final or still open. -/
def checkAwaiting (m : Market) (now : Int) : Except MarketError Unit := do
  refuseIf m.finalized (.alreadyFinalized m.id)
  refuseIf (now < m.endTime) (.notEnded m.id m.endTime)

/-- Carries a trade out, if the market is open for it. -/
def trade (m : Market) (sender : Text) (t : Trade Int) (now : Int) :
    Except MarketError (Market × Receipt) := do
  m.checkTrading now
  let (pool, receipt) ← (m.pool.trade sender t).mapError .pool
  return ({ m with pool }, receipt)

/-- The market with its final resolution. -/
def finalize (m : Market) (numerator : Numerator) : Market :=
  { m with numerator, finalized := true }

/-- The numerator of a ruling: invalid without a vector. -/
def ruling (m : Market) (vector : Option (List Value)) : Except MarketError Numerator :=
  match vector with
  | none => .ok .invalid
  | some values => do
    let vector ←
      (Numerator.checkVector values m.pool.outcomes m.pool.denomination).mapError .payout
    (Numerator.ofVector vector).mapError .payout

/-- Resolves the market by a ruling of governance. -/
def rule (m : Market) (vector : Option (List Value)) (now : Int) :
    Except MarketError (Market × Numerator) := do
  m.checkAwaiting now
  let numerator ← m.ruling vector
  return (m.finalize numerator, numerator)

/-- The multiplier that resolution uses: one where the market has none. -/
def multiplier (m : Market) : Int :=
  match m.scalarMultiplier with
  | none => 1
  | some k => if k = 0 then 1 else k

/-- The numerator that an answer leads to. -/
def resolve (m : Market) (answer : Answer) : Except MarketError Numerator :=
  (Resolution.resolve answer m.tags m.pool.denomination m.isScalar m.multiplier).mapError
    .resolution

/-- Stores the answer of the oracle. An answer that does not resolve the market is refused. -/
def recordAnswer (m : Market) (answer : Answer) (now : Int) : Except MarketError Market := do
  refuseIf m.finalized (.alreadyFinalized m.id)
  refuseIf (now < m.resolutionTime) (.notResolvable m.id m.resolutionTime now)
  let _ ← m.resolve answer
  return { m with oracleAnswer := some answer, dataRequestFinalized := true }

/-- Resolves the market by the stored answer. -/
def finalizeFromOracle (m : Market) (now : Int) : Except MarketError (Market × Numerator) := do
  m.checkAwaiting now
  match m.dataRequestFinalized, m.oracleAnswer with
  | true, some answer =>
    let numerator ← m.resolve answer
    return (m.finalize numerator, numerator)
  | _, _ => .error (.noAnswer m.id)

/-- Pays an account for all it holds. -/
def claim (m : Market) (account : Text) : Except MarketError (Market × Settlement) := do
  refuseIf (!m.finalized) (.notFinalized m.id)
  let (pool, settlement) ← (m.pool.payout account m.numerator).mapError .pool
  return ({ m with pool }, settlement)

/-- The plain form of a market, with its status at a time if one is given. -/
def toValue (m : Market) (now : Option Int) : Except MarketError Value := do
  let tags ← (m.tags.mapM Tag.toValue?).mapError fun type => .resolution (.unknownTag type)
  let status := match now with
    | none => []
    | some t => [("status", Value.text (m.status t).name)]
  return .record ([("market_id", .int m.id), ("creator", .text m.creator),
    ("end_time", .int m.endTime), ("resolution_time", .int m.resolutionTime),
    ("is_scalar", .bool m.isScalar), ("scalar_multiplier", .ofInt? m.scalarMultiplier),
    ("outcome_tags", .list tags), ("payout_numerator", m.numerator.toValue),
    ("payout_kind", .text m.numerator.kindName), ("finalized", .bool m.finalized),
    ("enabled", .bool m.enabled), ("data_request_finalized", .bool m.dataRequestFinalized),
    ("challenge_period", .int m.challengePeriod), ("validity_bond", .numeral m.validityBond),
    ("description", .text m.description), ("extra_info", .text m.extraInfo),
    ("categories", .ofTexts m.categories), ("sources", .ofTexts m.sources),
    ("pool", m.pool.toValue)] ++ status)

/-- The numbers that stand as numerals in the plain form of a market. -/
def numerals (m : Market) : List Int :=
  m.validityBond :: (m.tags.flatMap Tag.numerals ++ m.numerator.numerals ++ m.pool.numerals)

/-- What is shown of a market: its plain form, if the numerals in it can be written. -/
def describe (m : Market) (now : Option Int) : Except MarketError Value := do
  let shown ← m.toValue now
  refuseIf (!m.numerals.all Text.canWrite) (.unwritable shown)
  return shown

end Market

end PredictionMarket
