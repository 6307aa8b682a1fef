import PredictionMarket.Contract.Call
import PredictionMarket.Contract.View
import PredictionMarket.Json.Writer

/-!
# A demonstration

The whole life of one market, in a contract of its own: it is created with the outcomes YES and NO,
gets liquidity, is traded in by two buyers, is resolved by an answer of the oracle, and pays every
account. The report shows the prices before the end, what each account got, and what is due.
-/

namespace PredictionMarket

/-- Why a demonstration cannot be finished. -/
inductive DemoError where
  /-- The collateral of the demonstration is not in the configuration. -/
  | notConfigured (token : Text)
  /-- The path of the configuration is no text. -/
  | notAPath
  /-- The path of the configuration cannot be one. -/
  | impossiblePath
  /-- The path of the configuration has no encoding. -/
  | pathNotEncodable
  /-- The path of the configuration is too long, or a step of it. -/
  | pathTooLong (path : Text)
  /-- There is a directory at the path of the configuration. -/
  | directory (path : Text)
  /-- There is no document at the path of the configuration. -/
  | noDocument (path : Text)
  /-- The answer of the oracle is no word. -/
  | answerNotText
  /-- The fee cannot be written into a message. -/
  | badSwapFee (swapFee : Value)
  /-- The configuration is refused. -/
  | config (e : ConfigError)
  /-- A call failed. -/
  | call (e : ContractError)

/-- The wording of a demonstration error. -/
def DemoError.message : DemoError → Option Text
  | .notConfigured token => some (token ++ " must be whitelisted in the config")
  | .notAPath => none
  | .impossiblePath => none
  | .pathNotEncodable => none
  | .pathTooLong path => some (path ++ " is too long")
  | .directory path => some (path ++ " is a directory")
  | .noDocument path => some (path ++ " does not exist")
  | .answerNotText => none
  | .badSwapFee _ => none
  | .config e => e.message
  | .call e => e.wording

namespace Demo

/-- What can be chosen in a demonstration. The contract checks the amounts. -/
structure Settings where
  /-- The configuration of the contract. -/
  config : Config := .shipped
  /-- The first liquidity. -/
  liquidity : Value := .int 10000000
  /-- What each buyer spends. -/
  buy : Value := .int 1000000
  /-- The fee on trades, in basis points. -/
  swapFee : Value := .int 100
  /-- The answer of the oracle. -/
  answer : Answer := .label "YES"

/-- The answer that a word stands for: a label in upper case, or the verdict that the market is
invalid. -/
def readAnswer : Value → Except DemoError Answer
  | .text word =>
    .ok (if word.map CodePoint.lowerAscii = "invalid" then .invalid else .label word.upper)
  | _ => .error .answerNotText

/-- The collateral of the market. -/
def collateral : Text := "usdc.token"

/-- When trading ends. -/
def endTime : Int := 1000

/-- When the oracle answers. -/
def resolutionTime : Int := 2000

/-- The message with some terms under its purpose. -/
def message (purpose : String) (terms : List (String × Value)) : Value :=
  .text ((Json.write? Json.spaced (.record [(purpose, .record terms)])).getD [])

/-- The message that creates the market. -/
def createMessage (swapFee : Value) : Value :=
  message "CreateMarketArgs" [("description", .text "Demo market"), ("outcomes", .int 2),
    ("outcome_tags", .list [.record [("String", .text "YES")], .record [("String", .text "NO")]]),
    ("categories", .ofTexts ["demo"]), ("end_time", .numeral endTime),
    ("resolution_time", .numeral resolutionTime), ("collateral_token_id", .text collateral),
    ("swap_fee", .text swapFee.shown)]

/-- The message that provides liquidity. -/
def liquidityMessage (marketId : Int) : Value :=
  message "AddLiquidityArgs" [("market_id", .numeral marketId)]

/-- The message that buys shares of an outcome, however few. -/
def buyMessage (marketId outcome : Int) : Value :=
  message "BuyArgs" [("market_id", .numeral marketId), ("outcome_target", .int outcome),
    ("min_shares_out", .numeral 0)]

/-- The contract and the log so far. -/
structure Stage where
  /-- The contract. -/
  contract : Contract
  /-- The log. -/
  log : List LogLine := []

/-- The stage after a call, which must succeed. -/
def Stage.call (s : Stage) (c : Call) : Except DemoError Stage :=
  let o := s.contract.step c
  match o.result with
  | .ok _ => .ok ⟨o.after, s.log ++ o.log⟩
  | .error e => .error (.call e)

/-- The stage after an account has claimed, and what it was paid: nothing if it has no claim. -/
def Stage.claim (s : Stage) (account : Text) (marketId : Int) : Except DemoError (Stage × Int) :=
  let o := s.contract.ask account (.claim (.int marketId))
  let next : Stage := ⟨o.after, s.log ++ o.log⟩
  match o.result with
  | .ok (.settled settlement) => .ok (next, settlement.total)
  | .ok _ => .ok (next, 0)
  | .error e => if e.kind = .refusal .noPayout then .ok (next, 0) else .error (.call e)

/-- What a demonstration showed. -/
structure Report where
  /-- The number of the market. -/
  marketId : Int
  /-- The price of each outcome before the end. -/
  prices : List Int
  /-- The resolution. -/
  numerator : Numerator
  /-- What each account was paid. -/
  claims : List (String × Int)
  /-- What is due. -/
  transfers : List Transfer

/-- The plain form of a report. -/
def Report.toValue (r : Report) : Value :=
  .record [("market_id", .int r.marketId), ("spot_prices_before_close", .ofInts r.prices),
    ("payout_numerator", r.numerator.toValue),
    ("claims", .record (r.claims.map fun (account, amount) => (account, .int amount))),
    ("transfers", .list (r.transfers.map Transfer.toValue))]

/-- The stage before the market is resolved: it is created, funded and traded in. -/
def trading (s : Settings) : Except DemoError Stage := do
  let start : Stage := { contract := Contract.make s.config "gov" "oracle" }
  refuseIf (!s.swapFee.isWritable) (.badSwapFee s.swapFee)
  let created ← start.call
    (.transfer "creator" s.config.bondToken (.int (max s.config.validityBond 1))
      (createMessage s.swapFee) 0)
  let marketId : Int := created.contract.marketCount - 1
  let funded ← created.call
    (.transfer "lp" (.text collateral) s.liquidity (liquidityMessage marketId) 10)
  let bought ← funded.call
    (.transfer "yes_buyer" (.text collateral) s.buy (buyMessage marketId 0) 20)
  bought.call (.transfer "no_buyer" (.text collateral) s.buy (buyMessage marketId 1) 21)

/-- Runs a demonstration. -/
def run (s : Settings) : Except DemoError (Report × List LogLine) := do
  refuseIf (s.config.whitelist.get? collateral).isNone (.notConfigured collateral)
  let traded ← trading s
  let marketId : Int := traded.contract.marketCount - 1
  let price := fun outcome => traded.contract.spotPrice (.int marketId) (.int outcome)
  let yes ← (price 0).mapError .call
  let no ← (price 1).mapError .call
  let resolved ← traded.call (.ask "oracle"
    (.answer (.int marketId) (.plain s.answer) (.int s.config.validityBond) resolutionTime))
  let (first, yesPaid) ← resolved.claim "yes_buyer" marketId
  let (second, noPaid) ← first.claim "no_buyer" marketId
  let (last, lpPaid) ← second.claim "lp" marketId
  let market ← (last.contract.market (.int marketId)).mapError .call
  return ({
    marketId
    prices := [yes, no]
    numerator := market.numerator
    claims := [("yes_buyer", yesPaid), ("no_buyer", noPaid), ("lp", lpPaid)]
    transfers := last.contract.pendingTransfers }, last.log)

/-- A line of the listing. -/
def listed (content : Text) : Text :=
  "[market-demo] " ++ content ++ "\n"

/-- A report as a listing. -/
def Report.listing (r : Report) : Text :=
  listed ("market_id=" ++ Text.ofInt r.marketId ++ " payout=" ++ r.numerator.toValue.written) ++
    r.claims.flatMap (fun (account, amount) => listed (account ++ ": " ++ Text.ofInt amount)) ++
    listed ("pending transfers: " ++ Text.ofNat r.transfers.length)

/-- A report as one line of JSON. -/
def Report.json (r : Report) : Text :=
  (Json.write? Json.spaced r.toValue).getD [] ++ "\n"

end Demo

end PredictionMarket
