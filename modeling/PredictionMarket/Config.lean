import PredictionMarket.Guard
import PredictionMarket.Table
import PredictionMarket.Text.Case
import PredictionMarket.Text.Digits
import PredictionMarket.Value.Dictionary
import PredictionMarket.Wording

/-!
# Configuration

The limits and defaults under which markets are created, the tokens that count as collateral, the
bond that an oracle request carries, and how the log is written. A configuration is read from a
dictionary. Unknown keys are refused, so that a misspelled one is noticed.
-/

namespace PredictionMarket

/-- Why a configuration is refused. -/
inductive ConfigError where
  /-- There are keys that no setting has. -/
  | unknownKeys (keys : List Value)
  /-- There are keys that no setting has, and they cannot be listed in order. -/
  | unorderedKeys
  /-- The list of collateral tokens cannot be read as one of pairs. -/
  | notPairs
  /-- An entry of the list of collateral tokens is no pair. -/
  | notAPair
  /-- The bond is not an integer. -/
  | bondNotInteger (bond : Value)
  /-- The bond is made of digits that are no number. -/
  | bondUnreadable
  /-- A setting is not an amount. -/
  | notAmount (name : String) (value : Value)
  /-- The least number of outcomes is below two. -/
  | minTooSmall (minOutcomes : Int)
  /-- The greatest number of outcomes is below the least. -/
  | maxBelowMin (maxOutcomes minOutcomes : Int)
  /-- The greatest fee takes everything. -/
  | feeTooLarge (maxSwapFee : Int)
  /-- A collateral token has no name. -/
  | badTokenId (token : Value)
  /-- The decimals of a collateral token are not from zero to thirty-eight. -/
  | badDecimals (token : Text) (decimals : Value)
  /-- The log has no such format. -/
  | badFormat (format : Value)
  /-- The level of the log is not a name. -/
  | levelNotText
  /-- The name of the level of the log is that of a text. -/
  | levelNotNumber
  /-- The name of the level of the log is that of a dictionary, by which nothing is looked up. -/
  | levelNotKeyable
  /-- The document is not a dictionary. -/
  | notAMapping (path : Text)
  /-- The document cannot be read. -/
  | document (flaw : Flaw)

namespace ConfigError

/-- What a configuration error says. -/
def notice : ConfigError → Notice
  | .unknownKeys keys => .refusal .validation ["unknown config keys: ", Value.list keys]
  | .unorderedKeys => .wordless .badType
  | .notPairs => .wordless .badType
  | .notAPair => .wordless .badValue
  | .bondNotInteger v => .refusal .validation ["validity_bond must be an integer, got ", v]
  | .bondUnreadable => .wordless .badValue
  | .notAmount name v => .refusal .validation [name, " must be a non-negative int, got ", v]
  | .minTooSmall n => .refusal .validation ["min_outcomes must be at least 2: ", n]
  | .maxBelowMin most least =>
    .refusal .validation ["max_outcomes ", most, " is below min_outcomes ", least]
  | .feeTooLarge fee => .refusal .validation ["max_swap_fee_bps must be below 10000: ", fee]
  | .badTokenId token =>
    .refusal .validation ["collateral token ids must be non-empty strings: ", token]
  | .badDecimals token d =>
    .refusal .validation ["decimals for ", token, " must be an int in [0, 38]: ", d]
  | .badFormat f =>
    .refusal .validation ["log_format must be one of ('console', 'json'): ", f]
  | .levelNotText => .wordless .missingPart
  | .levelNotNumber => .wordless .missingKey
  | .levelNotKeyable => .wordless .badType
  | .notAMapping path => .refusal .validation ["config root must be a mapping: ", path]
  | .document flaw => .wordless flaw.kind

/-- Whether a configuration error can be put into words: it shows nothing that cannot be written. -/
def isWorded (e : ConfigError) : Bool := e.notice.isWorded

/-- The kind of a configuration error. -/
def kind (e : ConfigError) : ErrorKind := e.notice.kind

/-- The text of a configuration error. -/
def message (e : ConfigError) : Option Text := e.notice.message

end ConfigError

/-- How the lines of the log are written. -/
inductive LogFormat where
  /-- For people. -/
  | console
  /-- For programs. -/
  | json
  deriving DecidableEq

/-- The name of a log format. -/
def LogFormat.name : LogFormat → String
  | .console => "console"
  | .json => "json"

/-- A configuration. -/
structure Config where
  /-- The least number of outcomes. -/
  minOutcomes : Int := 2
  /-- The greatest number of outcomes. -/
  maxOutcomes : Int := 8
  /-- The greatest fee on trades, in basis points. -/
  maxSwapFee : Int := 9999
  /-- The collateral tokens with their numbers of decimals. -/
  whitelist : Table Text Int := .empty
  /-- The token in which bonds are paid; nothing, or an empty name, for any token. -/
  bondToken : Value := .text []
  /-- The bond that a new market must bring. -/
  validityBond : Int := 0
  /-- How long answers may be disputed where the terms of a market do not say. -/
  challengePeriod : Int := 0
  /-- The least level of the lines that are logged. -/
  logLevel : Value := .text "INFO"
  /-- How the lines of the log are written. -/
  logFormat : LogFormat := .console

namespace Config

/-- The configuration that is shipped. -/
def shipped : Config where
  maxSwapFee := 1000
  whitelist := Table.ofList [("usdc.token", 6), ("wnear.token", 24)]
  bondToken := .text "stake.token"
  validityBond := 100000000000000000000
  challengePeriod := 43200000

/-- The keys of the settings. -/
def keys : List Text :=
  ["min_outcomes", "max_outcomes", "max_swap_fee_bps", "collateral_whitelist", "bond_token_id",
    "validity_bond", "default_challenge_period", "log_level", "log_format"]

/-- Whether a key is one of a setting. -/
def isKey : Value → Bool
  | .text t => keys.contains t
  | _ => false

/-- Refuses keys that no setting has. -/
def checkKeys (entries : List (Value × Value)) : Except ConfigError Unit :=
  match Value.inOrder? ((entries.map Prod.fst).filter fun key => !isKey key) with
  | some [] => .ok ()
  | some unknown => .error (.unknownKeys unknown)
  | none => .error .unorderedKeys

/-- A pair of a list of pairs: anything with two parts, of which the first can be a key. -/
def readPair (v : Value) : Except ConfigError (Value × Value) :=
  match v.parts? with
  | some [key, v] => if key.isKeyable then .ok (key, v) else .error .notPairs
  | some _ => .error .notAPair
  | none => .error .notPairs

/-- The collateral tokens as pairs: a dictionary, a list of pairs, or nothing. -/
def readWhitelist (v : Value) : Except ConfigError (List (Value × Value)) :=
  if !v.truthy then .ok []
  else
    match v, v.parts? with
    | .object entries, _ => .ok entries
    | _, some items => do return Value.collect (← items.mapM readPair)
    | _, none => .error .notPairs

/-- The bond as an integer; one in a text may use the digits of any script. -/
def readBond : Value → Except ConfigError Value
  | .int n => .ok (.int n)
  | .text t =>
    if t.isDigits then
      match t.natural? with
      | some n => .ok (.int n)
      | none => .error .bondUnreadable
    else .error (.bondNotInteger (.text t))
  | v => .error (.bondNotInteger v)

/-- A setting that is an amount. -/
def readAmount (name : String) : Value → Except ConfigError Int
  | .int n => if n < 0 then .error (.notAmount name (.int n)) else .ok n
  | v => .error (.notAmount name v)

/-- A collateral token with its decimals. -/
def readToken : Value × Value → Except ConfigError (Text × Int)
  | (.text [], _) => .error (.badTokenId (.text []))
  | (.text token, .int d) =>
    if 0 ≤ d ∧ d ≤ 38 then .ok (token, d) else .error (.badDecimals token (.int d))
  | (.text token, v) => .error (.badDecimals token v)
  | (v, _) => .error (.badTokenId v)

/-- The format of the log. -/
def readFormat : Value → Except ConfigError LogFormat
  | .text t =>
    if t = "console" then .ok .console
    else if t = "json" then .ok .json
    else .error (.badFormat (.text t))
  | v => .error (.badFormat v)

/-- A setting, or what stands for it where it is missing. -/
def setting (entries : List (Value × Value)) (key : String) (missing : Value) : Value :=
  (Value.lookup key entries).getD missing

/-- Reads a configuration. Missing settings have their defaults. -/
def read (entries : List (Value × Value)) : Except ConfigError Config := do
  checkKeys entries
  let pairs ← readWhitelist (setting entries "collateral_whitelist" .null)
  let bond ← readBond (setting entries "validity_bond" (.int 0))
  let minOutcomes ← readAmount "min_outcomes" (setting entries "min_outcomes" (.int 2))
  let maxOutcomes ← readAmount "max_outcomes" (setting entries "max_outcomes" (.int 8))
  let maxSwapFee ←
    readAmount "max_swap_fee_bps" (setting entries "max_swap_fee_bps" (.int 9999))
  let validityBond ← readAmount "validity_bond" bond
  let challengePeriod ←
    readAmount "default_challenge_period" (setting entries "default_challenge_period" (.int 0))
  refuseIf (minOutcomes < 2) (.minTooSmall minOutcomes)
  refuseIf (maxOutcomes < minOutcomes) (.maxBelowMin maxOutcomes minOutcomes)
  refuseIf (10000 ≤ maxSwapFee) (.feeTooLarge maxSwapFee)
  let whitelist ← pairs.mapM readToken
  let logFormat ← readFormat (setting entries "log_format" (.text "console"))
  return ⟨minOutcomes, maxOutcomes, maxSwapFee, Table.ofList whitelist,
    setting entries "bond_token_id" (.text []), validityBond, challengePeriod,
    setting entries "log_level" (.text "INFO"), logFormat⟩

/-- Reads a configuration from a document; an empty document leaves all defaults. -/
def ofDocument (path : Text) : Value → Except ConfigError Config
  | .null => .ok {}
  | .object entries => read entries
  | _ => .error (.notAMapping path)

/-- A configuration of keys without values. There must be none. -/
def ofKeys (keys : List Value) : Except ConfigError Config := do
  refuseIf (!Value.areKeyable keys) .notPairs
  checkKeys (Value.collect (keys.map fun key => (key, .null)))
  refuseIf (!keys.isEmpty) .notAPair
  read []

/-- Reads a configuration from a value, which must be a dictionary or hold nothing. -/
def ofValue : Value → Except ConfigError Config
  | .object entries => read entries
  | v =>
    match v.parts? with
    | some keys => ofKeys keys
    | none => .error .notPairs

/-- What the names of levels stand for: numbers, but one name is that of the layout of a line. -/
def levels : List (Text × Value) :=
  [("NOTSET", .int 0), ("DEBUG", .int 10), ("INFO", .int 20), ("WARN", .int 30),
    ("WARNING", .int 30), ("ERROR", .int 40), ("FATAL", .int 50), ("CRITICAL", .int 50),
    ("BASIC_FORMAT", .text "%(levelname)s:%(name)s:%(message)s")]

/-- The name of the dictionary of the styles in which a line can be laid out. It is no level. -/
def styles : Text := "_STYLES"

/-- What the level of the log stands for. A name that is not known stands for INFO. -/
def level (c : Config) : Except ConfigError Value :=
  match c.logLevel with
  | .text t =>
    if t.upper = styles then .error .levelNotKeyable
    else .ok ((levels.lookup t.upper).getD (.int 20))
  | _ => .error .levelNotText

/-- The level of the log as a number. -/
def levelNumber (c : Config) : Except ConfigError Int := do
  match ← c.level with
  | .int n => return n
  | _ => .error .levelNotNumber

end Config

end PredictionMarket
