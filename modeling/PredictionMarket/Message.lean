import PredictionMarket.Message.Part

/-!
# Messages of transfers

A transfer of collateral says in a JSON text what it is for: to create a market, to provide
liquidity, or to buy shares. The text is a dictionary with one key, which names the purpose, and the
terms under it. The terms are checked in a fixed order, and the first that fails is reported.
-/

namespace PredictionMarket

/-- The terms of a new market. -/
structure MarketTerms where
  /-- The question. -/
  description : Text := []
  /-- More about the question. -/
  extraInfo : Text := []
  /-- The number of outcomes. -/
  outcomes : Int
  /-- The tags of the outcomes. -/
  tags : List Tag
  /-- What the question is about. -/
  categories : List Text := []
  /-- When trading ends. -/
  endTime : Int
  /-- When the oracle may answer. -/
  resolutionTime : Int
  /-- The collateral. -/
  collateral : Text
  /-- The fee on trades, in basis points. -/
  swapFee : Int
  /-- Whether the outcomes are the two sides of a range. -/
  isScalar : Bool := false
  /-- The units in which a scalar market is resolved. -/
  scalarMultiplier : Option Int := none
  /-- Where the answer can be found. -/
  sources : List Text := []
  /-- How long an answer may be disputed, if the terms say so. -/
  challengePeriod : Option Int := none
  deriving DecidableEq

/-- What a transfer is for. -/
inductive Purpose where
  /-- To create a market. -/
  | createMarket (terms : MarketTerms)
  /-- To provide liquidity. -/
  | addLiquidity (marketId : Int) (weights : Option (List Int))
  /-- To buy shares of an outcome, at least so many. -/
  | buy (marketId outcome minShares : Int)
  deriving DecidableEq

/-- Why a message is refused. -/
inductive MessageError where
  /-- The message is not a text. -/
  | notAText
  /-- The message has no encoding. -/
  | notEncodable
  /-- The message has too many octets. -/
  | tooLarge
  /-- The text is not JSON. -/
  | notJson
  /-- An integer in the text has too many digits. -/
  | tooManyDigits
  /-- A part is refused. -/
  | part (e : PartError)
  deriving DecidableEq

/-- Why the text of an answer is refused. -/
inductive AnswerError where
  /-- The text cannot be read as JSON. -/
  | notJson
  /-- A part is refused. -/
  | part (e : PartError)
  deriving DecidableEq

namespace MessageError

/-- What a message error says: that the message is invalid, unless it has no encoding or an integer
in it has too many digits. -/
def notice : MessageError → Notice
  | .notAText => .refusal .invalidMessage ["msg must be a string"]
  | .notEncodable => .wordless .notEncodable
  | .tooLarge => .refusal .invalidMessage ["msg too large"]
  | .notJson => .wordless (.refusal .invalidMessage)
  | .tooManyDigits => .wordless .badValue
  | .part e => ⟨.refusal .invalidMessage, e.message.map fun t => [.text t]⟩

/-- The kind of a message error. -/
def kind (e : MessageError) : ErrorKind := e.notice.kind

/-- The text of a message error. -/
def message (e : MessageError) : Option Text := e.notice.message

end MessageError

namespace AnswerError

/-- What an error of an answer says: that the message is invalid. -/
def notice : AnswerError → Notice
  | .notJson => .wordless (.refusal .invalidMessage)
  | .part e => ⟨.refusal .invalidMessage, e.message.map fun t => ["invalid answer: ", .text t]⟩

/-- The kind of an error of an answer. -/
def kind (e : AnswerError) : ErrorKind := e.notice.kind

/-- The text of an error of an answer. -/
def message (e : AnswerError) : Option Text := e.notice.message

end AnswerError

namespace Message

/-- The number of octets that a message may have. -/
def maxOctets : Nat := 65536

/-- The tags of the outcomes. -/
def readTags (v : Value) : Except PartError (List Value) :=
  match v with
  | .list items => .ok items
  | _ => .error (.needsList "outcome_tags")

/-- The terms of a new market. -/
def readTerms (entries : List (Value × Value)) : Except PartError MarketTerms := do
  let part := Part.field entries
  let tagItems ← readTags (part "outcome_tags")
  let isScalar ← Part.readBool "is_scalar" (Part.fieldOr entries "is_scalar" (.bool false))
  let description ←
    Part.readText "description" (Part.fieldOr entries "description" (.text []))
  let extraInfo ← Part.readText "extra_info" (Part.fieldOr entries "extra_info" (.text []))
  let outcomes ← Part.readSmall "outcomes" (part "outcomes")
  let tags ← Part.readItems "outcome_tags" Part.readTag tagItems
  let categories ← Part.readTexts "categories" (part "categories")
  let endTime ← Part.readNumeral "end_time" Part.maxTime (part "end_time")
  let resolutionTime ←
    Part.readNumeral "resolution_time" Part.maxTime (part "resolution_time")
  let collateral ← Part.readName "collateral_token_id" (part "collateral_token_id")
  let swapFee ← Part.readNumeral "swap_fee" Part.maxAmount (part "swap_fee")
  let scalarMultiplier ←
    Part.readOptional "scalar_multiplier" Part.maxAmount (part "scalar_multiplier")
  let sources ← Part.readTexts "sources" (part "sources")
  let challengePeriod ←
    Part.readOptional "challenge_period" Part.maxTime (part "challenge_period")
  return ⟨description, extraInfo, outcomes, tags, categories, endTime, resolutionTime, collateral,
    swapFee, isScalar, scalarMultiplier, sources, challengePeriod⟩

/-- The weights of a deposit, if there are any. -/
def readWeights (v : Value) : Except PartError (Option (List Int)) :=
  match v with
  | .null => .ok none
  | .list items =>
    (Part.readItems "weight_indication" (Part.readNumeral · Part.maxAmount) items).map some
  | _ => .error (.needsList "weight_indication")

/-- The terms of a deposit of liquidity. -/
def readDeposit (entries : List (Value × Value)) : Except PartError Purpose := do
  let weights ← readWeights (Part.field entries "weight_indication")
  let marketId ← Part.readNumeral "market_id" Part.maxTime (Part.field entries "market_id")
  return .addLiquidity marketId weights

/-- The terms of a purchase. -/
def readPurchase (entries : List (Value × Value)) : Except PartError Purpose := do
  let marketId ← Part.readNumeral "market_id" Part.maxTime (Part.field entries "market_id")
  let outcome ← Part.readSmall "outcome_target" (Part.field entries "outcome_target")
  let minShares ←
    Part.readNumeral "min_shares_out" Part.maxAmount (Part.field entries "min_shares_out")
  return .buy marketId outcome minShares

/-- The purpose that a value states. -/
def readPurpose (v : Value) : Except PartError Purpose := do
  let (key, body) ← Part.readForm "msg" v
  if key = "CreateMarketArgs" then
    return .createMarket (← readTerms (← Part.readObject key body))
  else if key = "AddLiquidityArgs" then readDeposit (← Part.readObject key body)
  else if key = "BuyArgs" then readPurchase (← Part.readObject key body)
  else .error (.unknownPurpose key)

/-- The purpose that the text of a message states. -/
def parseText (t : Text) : Except MessageError Purpose :=
  match t.utf8? with
  | none => .error .notEncodable
  | some octets => do
    refuseIf (maxOctets < octets.length) .tooLarge
    match Json.read t with
    | .error .malformed => .error .notJson
    | .error .tooManyDigits => .error .tooManyDigits
    | .ok v => (readPurpose v).mapError .part

/-- The purpose that a message states. -/
def parse : Value → Except MessageError Purpose
  | .text t => parseText t
  | _ => .error .notAText

/-- The answer that a text states. -/
def parseAnswer (t : Text) : Except AnswerError Answer :=
  match Json.read? t with
  | none => .error .notJson
  | some v => (Part.readAnswer "answer" v).mapError .part

end Message

end PredictionMarket
