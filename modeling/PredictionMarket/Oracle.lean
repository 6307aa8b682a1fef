import PredictionMarket.Guard
import PredictionMarket.Wording

/-!
# The oracle

Every new market opens a request with the oracle, which answers when the market has ended. An oracle
keeps the requests that it accepted, in order; it may refuse, and then no market is created.
-/

namespace PredictionMarket

/-- A request for the answer to a market's question. -/
structure DataRequest where
  /-- The market. -/
  marketId : Int
  /-- The account that created the market. -/
  requester : Text
  /-- The token of the bond. -/
  bondToken : Value
  /-- The bond. -/
  validityBond : Int
  /-- When the answer can be known. -/
  settlementTime : Int
  /-- How long the answer may be disputed. -/
  challengePeriod : Int
  /-- Where the answer can be found. -/
  sources : List Text
  /-- The labels to choose from, or nothing if the answer is a number. -/
  outcomes : Option (List Text)
  /-- The question. -/
  description : Text
  /-- Whether the answer is a number. -/
  isScalar : Bool

/-- The plain form of a request. -/
def DataRequest.toValue (r : DataRequest) : Value :=
  .record [("market_id", .int r.marketId), ("requester", .text r.requester),
    ("bond_token_id", r.bondToken), ("validity_bond", .int r.validityBond),
    ("settlement_time", .int r.settlementTime), ("challenge_period", .int r.challengePeriod),
    ("sources", .ofTexts r.sources), ("outcomes", (r.outcomes.map Value.ofTexts).getD .null),
    ("description", .text r.description), ("is_scalar", .bool r.isScalar)]

/-- Why an oracle has no answer to give. -/
inductive OracleError where
  /-- The oracle refuses the request of a market. -/
  | refused (marketId : Int)
  /-- There is no request of a market. -/
  | noRequest (marketId : Value)

namespace OracleError

/-- What an oracle error says. -/
def notice : OracleError → Notice
  | .refused m => .refusal .oracle ["oracle refused request for market ", m]
  | .noRequest m => ⟨.missingKey, some ["no data request for market ", .running m]⟩

/-- The kind of an oracle error. -/
def kind (e : OracleError) : ErrorKind := e.notice.kind

/-- The text of an oracle error. -/
def message (e : OracleError) : Option Text := e.notice.message

end OracleError

/-- An oracle. -/
structure Oracle where
  /-- The requests that it accepted. -/
  requests : List DataRequest := []
  /-- Whether it refuses all requests at present. -/
  refusing : Bool := false

namespace Oracle

/-- Accepts a request, unless the oracle is refusing. -/
def accept (o : Oracle) (r : DataRequest) : Except OracleError Oracle := do
  refuseIf o.refusing (.refused r.marketId)
  return { o with requests := o.requests ++ [r] }

/-- The first request of a market, whose number is given as a value. -/
def requestFor (o : Oracle) (marketId : Value) : Except OracleError DataRequest :=
  match o.requests.find? fun r => marketId.number? == some r.marketId with
  | some r => .ok r
  | none => .error (.noRequest marketId)

end Oracle

end PredictionMarket
