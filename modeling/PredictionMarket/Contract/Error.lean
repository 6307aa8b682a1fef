import PredictionMarket.Arena
import PredictionMarket.Message
import PredictionMarket.Nonces
import PredictionMarket.Oracle
import PredictionMarket.Outbox

/-!
# Errors of the contract

A call fails for a reason of the contract itself, or for one of the part that it was passed on to.
Errors of the parts keep their causes.
-/

namespace PredictionMarket

/-- Why a call fails. -/
inductive ContractError where
  /-- Only governance may do this. -/
  | notGovernance (sender : Text)
  /-- Only the oracle may do this. -/
  | notOracle (sender : Text)
  /-- The contract is paused. -/
  | paused
  /-- An amount is not an integer. -/
  | amountNotInteger (name : String)
  /-- An amount does not fit into 128 bits. -/
  | amountOutOfRange (name : String) (amount : Int)
  /-- An amount is zero. -/
  | amountZero (name : String)
  /-- Governance cannot pass to nobody. -/
  | noAccount
  /-- A collateral token needs a name. -/
  | noTokenId
  /-- The decimals of a collateral token are not from zero to thirty-eight. -/
  | badDecimals (decimals : Value)
  /-- There is no such collateral token to be removed. -/
  | notListed (token : Text)
  /-- The collateral of a new market is not accepted. -/
  | notCollateral (token : Text)
  /-- The number of outcomes of a new market is out of its bounds. -/
  | outcomesOutOfBounds (outcomes least most : Int)
  /-- Trading in a new market would be over. -/
  | endNotAfterNow (endTime now : Int)
  /-- A new market would be resolved before trading ends. -/
  | resolutionBeforeEnd (resolutionTime endTime : Int)
  /-- The fee of a new market is too large. -/
  | swapFeeTooLarge (swapFee most : Int)
  /-- A new scalar market has no multiplier. -/
  | noMultiplier
  /-- The bond for a new market is too small. -/
  | bondShort (bond required : Int)
  /-- The bond for a new market is paid in another token. -/
  | wrongBondToken (required : Value)
  /-- A market is paid in another token. -/
  | wrongCollateral (marketId : Int) (expected : Text) (got : Value)
  /-- The tags of a new market are refused. -/
  | tags (e : ResolutionError)
  /-- The pool of a new market is refused. -/
  | pool (e : PoolError)
  /-- An error of the market. -/
  | market (e : MarketError)
  /-- An error of the arena. -/
  | arena (e : ArenaError)
  /-- An error of the outbox. -/
  | outbox (e : OutboxError)
  /-- An error of the nonces. -/
  | nonce (e : NonceError)
  /-- The message of a transfer is refused. -/
  | message (e : MessageError)
  /-- The text of an answer is refused. -/
  | answer (e : AnswerError)
  /-- An error of the oracle. -/
  | oracle (e : OracleError)
  /-- The answer of a market that is resolved cannot be written into the journal. -/
  | badAnswer (answer : Answer)

namespace ContractError

/-- What a contract error says. -/
def notice : ContractError → Notice
  | .notGovernance sender => .refusal .authorization [sender, " is not governance"]
  | .notOracle sender => .refusal .authorization [sender, " is not the oracle"]
  | .paused => .refusal .contractPaused ["contract is paused"]
  | .amountNotInteger name => .refusal .validation [name, " must be an int"]
  | .amountOutOfRange name n => .refusal .validation [name, " out of u128 range: ", n]
  | .amountZero name => .refusal .validation [name, " must be positive"]
  | .noAccount => .refusal .validation ["new governance account must be non-empty"]
  | .noTokenId => .refusal .validation ["token_id must be non-empty"]
  | .badDecimals d => .refusal .validation ["decimals must be an int in [0, 38]: ", d]
  | .notListed token => .refusal .invalidCollateral [token, " is not whitelisted"]
  | .notCollateral token =>
    .refusal .invalidCollateral [token, " is not a whitelisted collateral token"]
  | .outcomesOutOfBounds n least most =>
    .refusal .tooManyOutcomes ["outcomes must be in ", Value.ofInts [least, most], ": ", n]
  | .endNotAfterNow endTime now =>
    .refusal .invalidEndTime ["end_time ", endTime, " is not after now ", now]
  | .resolutionBeforeEnd resolutionTime endTime =>
    .refusal .invalidResolutionTime ["resolution_time ", resolutionTime, " precedes end_time ",
      endTime]
  | .swapFeeTooLarge fee most =>
    .refusal .invalidSwapFee ["swap_fee ", fee, " exceeds ", most, " bps"]
  | .noMultiplier =>
    .refusal .missingMultiplier ["scalar markets need a positive scalar_multiplier"]
  | .bondShort bond required =>
    .refusal .validation ["validity bond ", required, " required, got ", bond]
  | .wrongBondToken required =>
    .refusal .invalidCollateral ["market creation bond must be paid in ", .running required]
  | .wrongCollateral marketId expected got =>
    .refusal .invalidCollateral ["market ", marketId, " takes ", expected, ", got ",
      .running got]
  | .tags e => e.notice
  | .pool e => e.notice
  | .market e => e.notice
  | .arena e => e.notice
  | .outbox e => e.notice
  | .nonce e => e.notice
  | .message e => e.notice
  | .answer e => e.notice
  | .oracle e => e.notice
  | .badAnswer _ => .wordless .badValue

/-- The kind of a contract error. -/
def kind (e : ContractError) : ErrorKind := e.notice.kind

/-- The text of a contract error. -/
def wording (e : ContractError) : Option Text := e.notice.message

/-- The bound that a trade missed and the value it would have had. -/
def slippage? : ContractError → Option (Int × Int)
  | .market e => e.slippage?
  | _ => none

end ContractError

end PredictionMarket
