import PredictionMarket.Wording

/-!
# Tags and answers

The outcomes of a categorical market are tagged with labels; the two outcomes of a scalar market are
tagged with its bounds. The oracle answers with a label, with a number, or with the verdict that the
market is invalid. Numbers are signed magnitudes over a multiplier, so zero has two signs.
-/

namespace PredictionMarket

/-- The number `value / multiplier`, or its opposite if `negative` is set. -/
structure FixedPoint where
  /-- The magnitude, in units of the multiplier. -/
  value : Int
  /-- How many units make one. -/
  multiplier : Int := 1
  /-- Whether the number has a minus sign. -/
  negative : Bool := false
  deriving DecidableEq

/-- The tag of an outcome. -/
inductive Tag where
  /-- The name of an outcome of a categorical market. -/
  | label (name : Text)
  /-- A bound of a scalar market. -/
  | number (n : FixedPoint)
  /-- Something that is no tag, with the name of its type. -/
  | unknown (type : Text)
  deriving DecidableEq

/-- What the oracle answers. -/
inductive Answer where
  /-- The outcome with this label. -/
  | label (name : Text)
  /-- A number. -/
  | number (n : FixedPoint)
  /-- The market is invalid. -/
  | invalid
  /-- Something that is no answer, with the name of its type. -/
  | unknown (type : Text)
  deriving DecidableEq

namespace Tag

/-- The number of a bound. -/
def number? : Tag → Option FixedPoint
  | .number n => some n
  | _ => none

/-- The labels of the outcomes, or nothing if a number is among them. The error is a tag that is no
tag, if it stands before any number. -/
def labels? : List Tag → Except Text (Option (List Text))
  | [] => .ok (some [])
  | .label name :: rest => (labels? rest).map fun names => names.map (name :: ·)
  | .number _ :: _ => .ok none
  | .unknown type :: _ => .error type

/-- The plain form of a tag; something that is no tag has none. -/
def toValue? : Tag → Except Text Value
  | .label name => .ok (.record [("String", .text name)])
  | .number n =>
    .ok (.record [("Number", .record [("value", .numeral n.value),
      ("multiplier", .numeral n.multiplier), ("negative", .bool n.negative)])])
  | .unknown type => .error type

/-- The numbers that stand as numerals in the plain form of a tag. -/
def numerals : Tag → List Int
  | .number n => [n.value, n.multiplier]
  | _ => []

end Tag

namespace Answer

/-- What the journal says of an answer. -/
def wording : Answer → Wording
  | .label name => ["CategoricalAnswer(label=", name.quoted, ")"]
  | .number n =>
    ["NumericAnswer(value=", n.value, ", multiplier=", n.multiplier, ", negative=",
      Value.bool n.negative, ")"]
  | .invalid => ["InvalidAnswer()"]
  | .unknown type => [type]

/-- The answer as the journal shows it. -/
def written (a : Answer) : Text :=
  a.wording.written

/-- Whether the journal can show the answer. -/
def isWritable (a : Answer) : Bool :=
  a.wording.isWritable

end Answer

end PredictionMarket
