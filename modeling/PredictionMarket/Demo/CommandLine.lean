import PredictionMarket.Config.Document
import PredictionMarket.Demo.Path

/-!
# The command line of the demonstration

Options begin with two dashes. An option may be cut short as long as no other begins the same way,
and its value follows it or an equals sign. Negative numbers count as values, and so does anything
with a blank in it that is no option. Two dashes behind an equals sign are an empty list of values.
Nothing else may be on the line.
-/

namespace PredictionMarket.Demo

/-- The options of the command line. -/
inductive Flag where
  /-- Asks for help. -/
  | help
  /-- Names a configuration document. -/
  | config
  /-- Sets the first liquidity. -/
  | liquidity
  /-- Sets what each buyer spends. -/
  | buy
  /-- Sets the fee. -/
  | swapFee
  /-- Sets the answer of the oracle. -/
  | answer
  /-- Asks for JSON. -/
  | json
  deriving DecidableEq

/-- What the command line asks for. -/
structure Options where
  /-- The path of the configuration document, if not the shipped one. -/
  config : Option Value := none
  /-- The first liquidity. -/
  liquidity : Value := .int 10000000
  /-- What each buyer spends. -/
  buy : Value := .int 1000000
  /-- The fee on trades, in basis points. -/
  swapFee : Value := .int 100
  /-- The word for the answer of the oracle. -/
  answer : Value := .text "YES"
  /-- Whether the report is written as JSON. -/
  json : Bool := false

/-- The settings that options ask for, with a configuration. -/
def Options.settings (o : Options) (config : Config) : Except DemoError Settings := do
  return ⟨config, o.liquidity, o.buy, o.swapFee, ← readAnswer o.answer⟩

/-- What is to be done. -/
inductive CommandLine where
  /-- To run a demonstration. -/
  | run (options : Options)
  /-- To show the help. -/
  | help
  /-- To complain. -/
  | misuse

namespace CommandLine

/-- The options by their spellings. -/
def spellings : List (Text × Flag) :=
  [("-h", .help), ("--help", .help), ("--config", .config), ("--liquidity", .liquidity),
    ("--buy", .buy), ("--swap-fee", .swapFee), ("--answer", .answer), ("--json", .json)]

/-- A word of the command line. -/
inductive Word where
  /-- A value. -/
  | value (t : Text)
  /-- An option, with the value behind its equals sign if it has one. -/
  | option (flag : Flag) (attached : Option Text)
  /-- Nothing that is known. -/
  | stray

/-- The dash. -/
def dash : CodePoint := CodePoint.ofChar '-'

/-- A word split at its first equals sign. -/
def splitEquals (t : Text) : Text × Option Text :=
  let name := t.takeWhile (· ≠ CodePoint.ofChar '=')
  match t.drop name.length with
  | [] => (name, none)
  | _ :: value => (name, some value)

/-- Whether a word with a dash in front is a number. -/
def isNegativeNumber (t : Text) : Bool :=
  match t.withoutLineFeed with
  | [] => false
  | c :: rest =>
    let isPlace := fun (d : CodePoint) => d.decimalValue?.isSome
    let whole := rest.takeWhile isPlace
    c = dash &&
      match rest.drop whole.length with
      | [] => !whole.isEmpty
      | point :: places =>
        point = CodePoint.ofChar '.' && !places.isEmpty && places.all isPlace

/-- The options that a word with two dashes in front may mean, cut short. -/
def candidates (t : Text) : List Word :=
  let (name, attached) := splitEquals t
  spellings.filterMap fun (spelling, flag) =>
    if name.isPrefixOf spelling then some (.option flag attached) else none

/-- What a word is that begins with one dash: the short option, a number, or a value with a blank in
it. The short option may be repeated, also behind an equals sign; any other letter after it is a
value that it does not take. -/
def readShort (t : Text) : Word :=
  if List.isPrefixOf (Text.ofString "-h") t then
    let letters := t.drop 2
    let behind := if letters.head? = some (CodePoint.ofChar '=') then letters.drop 1 else letters
    let repeated := behind.all (· = CodePoint.ofChar 'h') && (!behind.isEmpty || letters.isEmpty)
    .option .help (if repeated then none else some behind)
  else if isNegativeNumber t || t.contains 32 then .value t
  else .stray

/-- What a word is that begins with two dashes. An ambiguous one is nothing. -/
def readLong (t : Text) : Option Word :=
  let (name, attached) := splitEquals t
  match spellings.lookup t, spellings.lookup name with
  | some flag, _ => some (.option flag none)
  | none, some flag => some (.option flag attached)
  | none, none =>
    match candidates t with
    | [word] => some word
    | _ :: _ :: _ => none
    | [] => some (if t.contains 32 then .value t else .stray)

/-- What a word is. -/
def readWord (t : Text) : Option Word :=
  match t with
  | first :: second :: _ =>
    if first ≠ dash then some (.value t)
    else if second = dash then readLong t
    else some (readShort t)
  | _ => some (.value t)

/-- All words of a line. After two dashes alone there are no options. -/
def readWords : List Text → Option (List Word)
  | [] => some []
  | t :: rest =>
    if t = "--" then some (.stray :: rest.map .value)
    else do
      let word ← readWord t
      let words ← readWords rest
      return word :: words

/-- The options with one of them set. -/
def set (o : Options) (value : Value) : Flag → Options
  | .config => { o with config := some value }
  | .liquidity => { o with liquidity := value }
  | .buy => { o with buy := value }
  | .swapFee => { o with swapFee := value }
  | .answer => { o with answer := value }
  | .help => o
  | .json => { o with json := true }

/-- The value of an option: an integer where one is due, else a text. -/
def readValue? (flag : Flag) (t : Text) : Option Value :=
  if flag = .config || flag = .answer then some (.text t) else t.integer?.map .int

/-- The value of an option behind its equals sign. -/
def readAttached? (flag : Flag) (t : Text) : Option Value :=
  if t = "--" then some (.list []) else readValue? flag t

/-- What a list of words asks for. The help is shown as soon as it is asked for; stray words are
complained about at the end. -/
def interpret (o : Options) (strays : Bool) : List Word → CommandLine
  | [] => if strays then .misuse else .run o
  | .value _ :: rest => interpret o true rest
  | .stray :: rest => interpret o true rest
  | .option .help none :: _ => .help
  | .option .help (some _) :: _ => .misuse
  | .option .json none :: rest => interpret (set o (.bool true) .json) strays rest
  | .option .json (some _) :: _ => .misuse
  | .option flag (some t) :: rest =>
    match readAttached? flag t with
    | some v => interpret (set o v flag) strays rest
    | none => .misuse
  | .option flag none :: .value t :: rest =>
    match readValue? flag t with
    | some v => interpret (set o v flag) strays rest
    | none => .misuse
  | .option _ none :: _ => .misuse

/-- What a command line asks for. -/
def read (arguments : List Text) : CommandLine :=
  match readWords arguments with
  | some words => interpret {} false words
  | none => .misuse

end CommandLine

/-- How the options are written. -/
def synopsis : Text := "usage: market_demo.py [-h] [--config CONFIG] [--liquidity LIQUIDITY]
                      [--buy BUY] [--swap-fee SWAP_FEE] [--answer ANSWER]
                      [--json]
"

/-- What the help says. -/
def usage : Text := synopsis ++ "
Run a demo prediction market end to end

options:
  -h, --help            show this help message and exit
  --config CONFIG       YAML config (default: config/default.yaml)
  --liquidity LIQUIDITY
                        initial liquidity (collateral units)
  --buy BUY             collateral each trader spends
  --swap-fee SWAP_FEE   swap fee in basis points
  --answer ANSWER       YES, NO or invalid
  --json                emit JSON logs and output
"

/-- What a program leaves behind: its exit code and what it wrote. -/
structure Printed where
  /-- The exit code. -/
  code : Nat
  /-- What was written. -/
  output : Text

/-- The configuration that options name, among what is found at paths. -/
def Options.load (o : Options) (find : Text → Found) : Except DemoError Config := do
  match o.config with
  | none => return .shipped
  | some v =>
    let path ← readPath v
    match find path with
    | .nothing => .error (.noDocument path)
    | .directory => .error (.directory path)
    | .document t =>
      let config ← (Config.ofText path t).mapError .config
      let _ ← config.levelNumber.mapError .config
      return config

/-- Runs a demonstration and writes its report. -/
def printReport (o : Options) (config : Config) : Except DemoError Printed := do
  let (report, _) ← run (← o.settings config)
  return ⟨0, if o.json then report.json else report.listing⟩

/-- Does what a command line asks for, with what is found at paths. -/
def CommandLine.respond (find : Text → Found) : CommandLine → Except DemoError Printed
  | .run o => do printReport o (← o.load find)
  | .help => .ok ⟨0, usage⟩
  | .misuse => .ok ⟨2, []⟩

end PredictionMarket.Demo
