import PredictionMarket.Guard
import PredictionMarket.Json.Writer
import PredictionMarket.Sha256
import PredictionMarket.Wording

/-!
# Canonical encoding

A value has one canonical text: compact JSON with the members of every dictionary in the order of
their keys. Its UTF-8 octets are what is hashed, so everything that has more than one spelling or
none is refused: floats, surrogates and keys that are not texts before anything is written, octets
and integers of too many digits where they would be written.
-/

namespace PredictionMarket

/-- Why a value has no canonical text. -/
inductive EncodingError where
  /-- A float has many spellings. -/
  | float
  /-- A surrogate has no UTF-8 form. -/
  | surrogate
  /-- A key of a dictionary is not a text. -/
  | keyNotText
  /-- Octets and moments have no JSON form. -/
  | notJson
  /-- An integer has too many digits. -/
  | tooManyDigits
  deriving DecidableEq

namespace EncodingError

/-- What an encoding error says: what cannot be encoded is of the wrong type, except for integers of
too many digits. Those two that the writer meets have no words of their own. -/
def notice : EncodingError → Notice
  | .float => ⟨.badType, some ["floats are not allowed in canonical encoding"]⟩
  | .surrogate =>
    ⟨.badType, some ["surrogate code points are not allowed in canonical encoding"]⟩
  | .keyNotText => ⟨.badType, some ["dict keys must be str for canonical encoding"]⟩
  | .notJson => .wordless .badType
  | .tooManyDigits => .wordless .badValue

/-- The kind of an encoding error. -/
def kind (e : EncodingError) : ErrorKind := e.notice.kind

/-- The text of an encoding error. -/
def message (e : EncodingError) : Option Text := e.notice.message

end EncodingError

namespace Value

/-- Refuses a text with a surrogate. -/
def checkText (t : Text) : Except EncodingError Unit :=
  if t.hasSurrogate then .error .surrogate else .ok ()

mutual

/-- Refuses floats, surrogates and keys that are not texts, the first in reading order. -/
def checkCanonical : Value → Except EncodingError Unit
  | .float _ => .error .float
  | .text t => checkText t
  | .list items => checkItems items
  | .tuple items => checkItems items
  | .object entries => checkEntries entries
  | _ => .ok ()

/-- Checks the items of a list one after another. -/
def checkItems : List Value → Except EncodingError Unit
  | [] => .ok ()
  | v :: rest => do
    v.checkCanonical
    checkItems rest

/-- Checks the entries of a dictionary one after another, each key before its value. -/
def checkEntries : List (Value × Value) → Except EncodingError Unit
  | [] => .ok ()
  | (.text key, v) :: rest => do
    checkText key
    v.checkCanonical
    checkEntries rest
  | _ => .error .keyNotText

end

mutual

/-- What stops the writing of a value: the first part of it, in the order in which it is written,
that cannot be. -/
def obstacle? : Value → Option EncodingError
  | .int n => if Text.canWrite n then none else some .tooManyDigits
  | .bytes _ => some .notJson
  | .moment _ => some .notJson
  | .set _ => some .notJson
  | .again _ => some .notJson
  | .list items => obstacleAmong? items
  | .tuple items => obstacleAmong? items
  | .object entries => (Table.ofList (obstaclesUnder entries)).entries.head?.map Prod.snd
  | _ => none

/-- What stops the writing of some values in a row. -/
def obstacleAmong? : List Value → Option EncodingError
  | [] => none
  | v :: rest => v.obstacle?.or (obstacleAmong? rest)

/-- The keys of a dictionary under which something stops the writing, and what it is. -/
def obstaclesUnder : List (Value × Value) → List (Text × EncodingError)
  | [] => []
  | (.text key, v) :: rest =>
    match v.obstacle? with
    | some e => (key, e) :: obstaclesUnder rest
    | none => obstaclesUnder rest
  | _ :: rest => obstaclesUnder rest

end

/-- The canonical text of a value. -/
def canonicalText (v : Value) : Except EncodingError Text := do
  v.checkCanonical
  match Json.write? Json.compact v with
  | some t => .ok t
  | none => .error (v.obstacle?.getD .notJson)

/-- The octets that stand for a value in a hash. -/
def canonicalOctets (v : Value) : Except EncodingError (List UInt8) := do
  let t ← v.canonicalText
  match t.utf8? with
  | some octets => .ok octets
  | none => .error .surrogate

/-- The hash of a value's canonical octets. -/
def canonicalHash (v : Value) : Except EncodingError Text := do
  let octets ← v.canonicalOctets
  return Sha256.hex octets

/-- The version of the encoding that a digest names. -/
def encodingVersion : Int := 1

/-- The hash of a value together with the version of the encoding. -/
def digest (v : Value) : Except EncodingError Text :=
  canonicalHash (record [("v", .int encodingVersion), ("data", v)])

end Value

end PredictionMarket
