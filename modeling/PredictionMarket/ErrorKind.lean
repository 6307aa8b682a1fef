/-!
# Kinds of errors

Every error has a cause, which its own type states, and a kind, which callers act on. A refusal is
an answer of the market to its caller: the call was understood and turned down. All other kinds mark
values that an operation cannot work with at all.
-/

namespace PredictionMarket

/-- Why a call was turned down. -/
inductive Refusal where
  /-- The oracle turned the request down. -/
  | oracle
  /-- An argument is malformed or out of its domain. -/
  | validation
  /-- The token is not accepted as collateral. -/
  | invalidCollateral
  /-- There are more or fewer tags than outcomes. -/
  | invalidTagLength
  /-- The end of trading is not in the future. -/
  | invalidEndTime
  /-- The time of resolution is before the end of trading. -/
  | invalidResolutionTime
  /-- The number of outcomes is out of its bounds. -/
  | tooManyOutcomes
  /-- A bound of a scalar market is not a number. -/
  | nonNumericTag
  /-- A bound is zero with a minus sign. -/
  | negativeZeroBound
  /-- The bounds of a scalar market do not enclose a range. -/
  | wrongBounds
  /-- A scalar market has no multiplier. -/
  | missingMultiplier
  /-- The swap fee is out of its bounds. -/
  | invalidSwapFee
  /-- The message of a transfer cannot be read. -/
  | invalidMessage
  /-- The operation is not open in the present state. -/
  | state
  /-- The contract is paused. -/
  | contractPaused
  /-- The market is switched off. -/
  | marketDisabled
  /-- Trading has ended. -/
  | marketEnded
  /-- Trading has not ended yet. -/
  | marketNotEnded
  /-- The market has its final payout. -/
  | alreadyFinalized
  /-- The market has no final payout yet. -/
  | notFinalized
  /-- The oracle has not answered yet. -/
  | dataRequestNotFinalized
  /-- The time of resolution has not come yet. -/
  | resolutionTimeNotReached
  /-- The caller may not do this. -/
  | authorization
  /-- The result of a trade is beyond the bound that the caller set. -/
  | slippageExceeded
  /-- A payout vector has wrong entries or a wrong sum. -/
  | payoutSumMismatch
  /-- A payout vector has the wrong length. -/
  | payoutLengthMismatch
  /-- There is nothing under the given name. -/
  | notFound
  /-- There is no market with the given number. -/
  | marketNotFound
  /-- There is no outcome with the given number or label. -/
  | outcomeNotFound
  /-- The caller has nothing to claim. -/
  | noPayout
  /-- The caller holds less than the call needs. -/
  | insufficientBalance
  deriving DecidableEq

/-- The name under which a refusal is reported. -/
def Refusal.name : Refusal → String
  | .oracle => "AmmError"
  | .validation => "ValidationError"
  | .invalidCollateral => "InvalidCollateral"
  | .invalidTagLength => "InvalidTagLength"
  | .invalidEndTime => "InvalidEndTime"
  | .invalidResolutionTime => "InvalidResolutionTime"
  | .tooManyOutcomes => "TooManyOutcomes"
  | .nonNumericTag => "NonNumericTag"
  | .negativeZeroBound => "NegativeZeroBound"
  | .wrongBounds => "WrongBounds"
  | .missingMultiplier => "MissingMultiplier"
  | .invalidSwapFee => "InvalidSwapFee"
  | .invalidMessage => "InvalidMessage"
  | .state => "StateError"
  | .contractPaused => "ContractPaused"
  | .marketDisabled => "MarketDisabled"
  | .marketEnded => "MarketEnded"
  | .marketNotEnded => "MarketNotEnded"
  | .alreadyFinalized => "AlreadyFinalized"
  | .notFinalized => "NotFinalized"
  | .dataRequestNotFinalized => "DataRequestNotFinalized"
  | .resolutionTimeNotReached => "ResolutionTimeNotReached"
  | .authorization => "AuthorizationError"
  | .slippageExceeded => "SlippageExceeded"
  | .payoutSumMismatch => "PayoutSumMismatch"
  | .payoutLengthMismatch => "PayoutLengthMismatch"
  | .notFound => "NotFound"
  | .marketNotFound => "MarketNotFound"
  | .outcomeNotFound => "OutcomeNotFound"
  | .noPayout => "NoPayout"
  | .insufficientBalance => "InsufficientBalance"

/-- Why a document cannot be read. -/
inductive Flaw where
  /-- The document holds a code point that no document may hold. -/
  | unprintable
  /-- Something in the document is no part of any document. -/
  | unreadable
  /-- A part of the document stands where it cannot stand. -/
  | misplaced
  /-- A second document follows. -/
  | anotherDocument
  /-- A name is used and not given to anything before. -/
  | unknownName
  /-- A name is given twice. -/
  | repeatedName
  /-- Lists and dictionaries stand in each other too deep. -/
  | tooDeep
  /-- The key of a dictionary is a list or a dictionary. -/
  | compoundKey
  /-- What is to be merged into a dictionary is no dictionary. -/
  | badMerge
  /-- A part is not of the shape that its tag asks for. -/
  | wrongShape
  /-- A part has a tag that stands for nothing. -/
  | meaningless
  /-- A number is not one of a code point. -/
  | noCodePoint
  /-- A number is far above those of code points. -/
  | hugeCodePoint
  /-- A number has too many places of sixty. -/
  | hugeNumber
  /-- Something that is tagged as a number is none. -/
  | noNumber
  /-- Something that is tagged as a number has no digits. -/
  | emptyNumber
  /-- Something that is tagged as octets does not spell any. -/
  | noOctets
  /-- Something that is tagged as a truth value is none. -/
  | noTruthValue
  /-- Something that is tagged as a moment is none. -/
  | noMoment
  /-- Something that is tagged as a moment is a dictionary. -/
  | compoundMoment
  /-- There is no such day or no such time. -/
  | impossibleMoment
  deriving DecidableEq

/-- What sort of error a call ended in. -/
inductive ErrorKind where
  /-- The call was turned down. -/
  | refusal (r : Refusal)
  /-- A value is out of the domain of an operation. -/
  | badValue
  /-- A value is not of the type that an operation needs. -/
  | badType
  /-- A value lacks a part that an operation needs. -/
  | missingPart
  /-- A key is not in a collection. -/
  | missingKey
  /-- An index is outside a list. -/
  | missingIndex
  /-- A divisor is zero. -/
  | zeroDivisor
  /-- A number is too large for an operation. -/
  | tooLarge
  /-- There is no room for a list of the size that is asked for. -/
  | noRoom
  /-- A text has no encoding. -/
  | notEncodable
  /-- A document cannot be read. -/
  | badDocument (flaw : Flaw)
  deriving DecidableEq

/-- The kind of error that a flaw is. -/
def Flaw.kind : Flaw → ErrorKind
  | .noCodePoint => .badValue
  | .hugeCodePoint => .tooLarge
  | .hugeNumber => .tooLarge
  | .noNumber => .badValue
  | .emptyNumber => .missingIndex
  | .noTruthValue => .missingKey
  | .noMoment => .missingPart
  | .compoundMoment => .badType
  | .impossibleMoment => .badValue
  | flaw => .badDocument flaw

end PredictionMarket
