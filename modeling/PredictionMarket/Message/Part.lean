import PredictionMarket.Guard
import PredictionMarket.Json.Reader
import PredictionMarket.Table
import PredictionMarket.Tag
import PredictionMarket.Wording

/-!
# Parts of messages

Amounts and times travel as decimal numerals in texts, small numbers as integers, tags and answers
in a dictionary whose only key names their form. Every part is checked for its type and size, and an
error names the part that fails.
-/

namespace PredictionMarket

/-- Why a part of a message is refused; most causes name the part. -/
inductive PartError where
  /-- The part is not a text. -/
  | needsText (name : Text)
  /-- The part is empty. -/
  | needsContent (name : Text)
  /-- The part is too long. -/
  | tooLong (name : Text)
  /-- The part is not an integer. -/
  | needsInt (name : Text)
  /-- The part is too large or too small. -/
  | outOfRange (name : Text) (value : Int)
  /-- The part is not a decimal numeral in a text. -/
  | needsNumeral (name : Text)
  /-- The numeral begins with a zero that it does not need. -/
  | leadingZero (name : Text)
  /-- The numeral is too long to be read at all. -/
  | unreadableNumeral
  /-- The numeral is above its bound. -/
  | exceeds (name : Text) (bound : Int)
  /-- The part is not a dictionary. -/
  | needsObject (name : Text)
  /-- The dictionary has a key that is not a text. -/
  | needsTextKeys (name : Text)
  /-- The part is not a list. -/
  | needsList (name : Text)
  /-- The part is not a truth value. -/
  | needsBool (name : Text)
  /-- The dictionary has more or fewer keys than one. -/
  | needsOneKey (name : Text) (keys : List Text)
  /-- The key names no form of the part. -/
  | unknownForm (name key : Text)
  /-- The key names no purpose of a transfer. -/
  | unknownPurpose (key : Text)
  deriving DecidableEq

/-- What a part error says: the part is bad. -/
def PartError.notice : PartError → Notice
  | .needsText name => .badValue [name, " must be a string"]
  | .needsContent name => .badValue [name, " must be non-empty"]
  | .tooLong name => .badValue [name, " too large"]
  | .needsInt name => .badValue [name, " must be an int"]
  | .outOfRange name v => .badValue [name, " out of range: ", v]
  | .needsNumeral name => .badValue [name, " must be a decimal string"]
  | .leadingZero name => .badValue [name, " must not have leading zeros"]
  | .unreadableNumeral => .wordless .badValue
  | .exceeds name bound => .badValue [name, " exceeds ", bound]
  | .needsObject name => .badValue [name, " must be an object"]
  | .needsTextKeys name => .badValue [name, " keys must be strings"]
  | .needsList name => .badValue [name, " must be a list"]
  | .needsBool name => .badValue [name, " must be a bool"]
  | .needsOneKey name keys =>
    .badValue [name, " must have exactly one variant key, got ", Value.ofTexts keys]
  | .unknownForm name key => .badValue ["unknown ", name, " variant: ", key.quoted]
  | .unknownPurpose key => .badValue ["unknown message type: ", key.quoted]

/-- The text of a part error. -/
def PartError.message (e : PartError) : Option Text := e.notice.message

namespace Part

/-- The largest number of 128 bits. -/
def maxAmount : Int := 0xFFFFFFFFFFFFFFFFFFFFFFFFFFFFFFFF

/-- The largest number of 64 bits. -/
def maxTime : Int := 0xFFFFFFFFFFFFFFFF

/-- The largest small number. -/
def maxSmall : Int := 0xFFFF

/-- The number of code points that a text may have. -/
def maxLength : Nat := 4096

/-- A text, not too long. -/
def readText (name : Text) : Value → Except PartError Text
  | .text t => if maxLength < t.length then .error (.tooLong name) else .ok t
  | _ => .error (.needsText name)

/-- A text, neither empty nor too long. -/
def readName (name : Text) (v : Value) : Except PartError Text :=
  match v with
  | .text [] => .error (.needsContent name)
  | v => readText name v

/-- A small number. -/
def readSmall (name : Text) : Value → Except PartError Int
  | .int n => if 0 ≤ n ∧ n ≤ maxSmall then .ok n else .error (.outOfRange name n)
  | _ => .error (.needsInt name)

/-- The number that a decimal numeral denotes: ASCII digits, no sign, no needless zero in front, and
not above the bound. -/
def readNumeral (name : Text) (bound : Int) : Value → Except PartError Int
  | .text t => do
    refuseIf (t.isEmpty ∨ ¬t.all CodePoint.isAsciiDigit) (.needsNumeral name)
    refuseIf (1 < t.length ∧ t.head? = some (CodePoint.ofChar '0')) (.leadingZero name)
    refuseIf (Text.digitLimit < t.length) .unreadableNumeral
    refuseIf (bound < Json.digitsValue t) (.exceeds name bound)
    return Json.digitsValue t
  | _ => .error (.needsNumeral name)

/-- A numeral, or nothing where the part is absent. -/
def readOptional (name : Text) (bound : Int) : Value → Except PartError (Option Int)
  | .null => .ok none
  | v => (readNumeral name bound v).map some

/-- A truth value. -/
def readBool (name : Text) : Value → Except PartError Bool
  | .bool b => .ok b
  | _ => .error (.needsBool name)

/-- The entries of a dictionary whose keys are texts. -/
def readObject (name : Text) : Value → Except PartError (List (Value × Value))
  | .object entries =>
    if (Value.textKeys entries).length = entries.length then .ok entries
    else .error (.needsTextKeys name)
  | _ => .error (.needsObject name)

/-- The name of an item of a list. -/
def itemName (name : Text) (i : Nat) : Text :=
  name ++ "[" ++ Text.ofNat i ++ "]"

/-- The items of a list one after another, each under its name. -/
def readItems {α : Type} (name : Text) (read : Text → Value → Except PartError α)
    (items : List Value) : Except PartError (List α) :=
  items.zipIdx.mapM fun (v, i) => read (itemName name i) v

/-- A list of texts; an absent part is an empty list. -/
def readTexts (name : Text) : Value → Except PartError (List Text)
  | .null => .ok []
  | .list items => readItems name readText items
  | _ => .error (.needsList name)

/-- The part under a key, null where it is missing. -/
def field (entries : List (Value × Value)) (key : String) : Value :=
  (Value.lookup key entries).getD .null

/-- The part under a key, or what stands for it where it is missing. -/
def fieldOr (entries : List (Value × Value)) (key : String) (missing : Value) : Value :=
  (Value.lookup key entries).getD missing

/-- The text keys of a dictionary in order. -/
def keysInOrder (entries : List (Value × Value)) : List Text :=
  (Table.ofList ((Value.textKeys entries).map fun k => (k, ()))).entries.map Prod.fst

/-- The key of a dictionary with one key, and what is under it. -/
def readForm (name : Text) (v : Value) : Except PartError (Text × Value) := do
  match ← readObject name v with
  | [(.text key, body)] => return (key, body)
  | entries => .error (.needsOneKey name (keysInOrder entries))

/-- A signed number. -/
def readNumber (name : Text) (v : Value) : Except PartError FixedPoint := do
  let entries ← readObject name v
  let value ← readNumeral (name ++ ".value") maxAmount (field entries "value")
  let multiplier ←
    readNumeral (name ++ ".multiplier") maxAmount (fieldOr entries "multiplier" (.text "1"))
  let negative ← readBool (name ++ ".negative") (fieldOr entries "negative" (.bool false))
  return ⟨value, multiplier, negative⟩

/-- The tag of an outcome. -/
def readTag (name : Text) (v : Value) : Except PartError Tag := do
  let (key, body) ← readForm name v
  if key = "String" then
    return .label (← readText (name ++ ".String") body)
  else if key = "Number" then
    return .number (← readNumber (name ++ ".Number") body)
  else .error (.unknownForm name key)

/-- An answer of the oracle. -/
def readAnswer (name : Text) (v : Value) : Except PartError Answer :=
  match v with
  | .text t => if t = "Invalid" then .ok .invalid else .error (.needsObject name)
  | v => do
    let (key, body) ← readForm name v
    if key = "String" then
      return .label (← readText (name ++ ".String") body)
    else if key = "Number" then
      return .number (← readNumber (name ++ ".Number") body)
    else .error (.unknownForm name key)

end Part

end PredictionMarket
