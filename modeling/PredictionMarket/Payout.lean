import PredictionMarket.Curve

/-!
# Payout vectors

The resolution of a market is a numerator: still open, invalid, or a vector that says what a share
of each outcome is worth. The entries of a vector are amounts and sum up to the denomination of the
collateral, the worth of a complete set. An invalid market pays all outcomes alike, and the first
outcome takes what the division leaves.
-/

namespace PredictionMarket

/-- Why a payout is refused. -/
inductive PayoutError where
  /-- The vector has more or fewer entries than there are outcomes. -/
  | vectorLength (entries : Nat) (outcomes : Int)
  /-- An entry of the vector is not an amount. -/
  | vectorEntry (entry : Value)
  /-- The vector does not sum up to the denomination. -/
  | vectorSum (total denomination : Int)
  /-- A valid numerator has no entries. -/
  | noValues
  /-- An entry of a numerator is not an amount. -/
  | valueNotAmount (entry : Value)
  /-- A numerator without a vector has entries; the kind is the one that was asked for. -/
  | strayValues (kind : String)
  /-- A written entry is not a number. -/
  | notANumber
  /-- An entry is neither a number nor written, or there is nothing to list as entries. -/
  | notConvertible
  /-- An entry is infinite. -/
  | infinite
  /-- The market is not resolved. -/
  | unresolved
  /-- There is no outcome to share among. -/
  | noOutcomes
  /-- There is no first outcome to take the rest. -/
  | noFirstOutcome
  /-- There is no room for the vector. -/
  | room (e : RoomError)

namespace PayoutError

/-- What a payout error says. -/
def notice : PayoutError → Notice
  | .vectorLength n outcomes =>
    .refusal .payoutLengthMismatch ["payout numerator has ", n, " entries for ", outcomes,
      " outcomes"]
  | .vectorEntry v =>
    .refusal .payoutSumMismatch ["payout numerator entries must be non-negative ints: ", v]
  | .vectorSum total d =>
    .refusal .payoutSumMismatch ["payout numerator sums to ", total, ", expected ", d]
  | .noValues => .badValue ["valid payout numerator needs values"]
  | .valueNotAmount v => .badValue ["payout numerator entries must be non-negative ints: ", v]
  | .strayValues kind => .badValue [kind, " payout numerator must not carry values"]
  | .notANumber => .wordless .badValue
  | .notConvertible => .wordless .badType
  | .infinite => .wordless .tooLarge
  | .unresolved => .badValue ["unresolved payout numerator has no payout vector"]
  | .noOutcomes => .wordless .zeroDivisor
  | .noFirstOutcome => .wordless .missingIndex
  | .room e => .wordless e.kind

/-- The kind of a payout error. -/
def kind (e : PayoutError) : ErrorKind := e.notice.kind

/-- The text of a payout error. -/
def message (e : PayoutError) : Option Text := e.notice.message

end PayoutError

/-- The resolution of a market. -/
inductive Numerator where
  /-- The market is open. -/
  | unresolved
  /-- All outcomes are worth the same. -/
  | invalid
  /-- What each outcome is worth. -/
  | valid (values : List Int)
  deriving DecidableEq

namespace Numerator

/-- The amount that a value is, if it is one: an integer that is not negative. -/
def amount? : Value → Option Int
  | .int n => if n < 0 then none else some n
  | _ => none

/-- The amounts in a list of values; anything else in it is the error. -/
def amounts (values : List Value) : Except Value (List Int) :=
  values.mapM fun v =>
    match amount? v with
    | some n => .ok n
    | none => .error v

/-- A valid numerator with the given entries, which must be amounts, at least one. -/
def ofValues (values : List Value) : Except PayoutError Numerator := do
  refuseIf values.isEmpty .noValues
  return .valid (← (amounts values).mapError .valueNotAmount)

/-- A valid numerator of a computed vector. -/
def ofVector (vector : List Int) : Except PayoutError Numerator :=
  ofValues (vector.map .int)

/-- An entry as an integer: truth values count as one and zero, a fraction is dropped, and a text is
read. -/
def coerce : Value → Except PayoutError Value
  | .int n => .ok (.int n)
  | .bool b => .ok (.int (if b then 1 else 0))
  | .text t =>
    match t.integer? with
    | some n => .ok (.int n)
    | none => .error .notANumber
  | .float (.infinite _) => .error .infinite
  | .float x =>
    match x.truncated? with
    | some n => .ok (.int n)
    | none => .error .notANumber
  | _ => .error .notConvertible

/-- A valid numerator with the parts of a value as integers. -/
def ofCoerced (v : Value) : Except PayoutError Numerator := do
  match v.parts? with
  | none => .error .notConvertible
  | some values => ofValues (← values.mapM coerce)

/-- The name of the kind of a numerator. -/
def kindName : Numerator → String
  | .unresolved => "unresolved"
  | .invalid => "invalid"
  | .valid _ => "valid"

/-- The entries of a numerator. -/
def values : Numerator → List Int
  | .valid values => values
  | _ => []

/-- A numerator without a vector, which must come without entries. -/
def bare (n : Numerator) (values : List Value) : Except PayoutError Numerator := do
  refuseIf (!values.isEmpty) (.strayValues n.kindName)
  return n

/-- Whether the market is resolved. -/
def isResolved : Numerator → Bool
  | .unresolved => false
  | _ => true

/-- The entries as numerals, null without a vector. -/
def toValue : Numerator → Value
  | .valid values => .list (values.map .numeral)
  | _ => .null

/-- The numbers that stand as numerals in the plain form of a numerator. -/
def numerals : Numerator → List Int
  | .valid values => values
  | _ => []

/-- The vector in the given values, if it has one amount an outcome and the amounts sum up to the
denomination. -/
def checkVector (values : List Value) (outcomes denomination : Int) :
    Except PayoutError (List Int) := do
  refuseIf (values.length ≠ outcomes) (.vectorLength values.length outcomes)
  let vector ← (amounts values).mapError .vectorEntry
  refuseIf (Amounts.sum vector ≠ denomination) (.vectorSum (Amounts.sum vector) denomination)
  return vector

/-- The vector of an invalid market: equal parts, and the rest to the first outcome. -/
def evenVector (outcomes denomination : Int) : Except PayoutError (List Int) := do
  refuseIf (outcomes = 0) .noOutcomes
  let part := Curve.floorDiv denomination outcomes
  match ← (repeated outcomes part).mapError .room with
  | [] => .error .noFirstOutcome
  | first :: others => return (first + (denomination - part * outcomes)) :: others

/-- What a share of each outcome is worth. -/
def vector (n : Numerator) (outcomes denomination : Int) : Except PayoutError (List Int) :=
  match n with
  | .valid values => checkVector (values.map .int) outcomes denomination
  | .invalid => evenVector outcomes denomination
  | .unresolved => .error .unresolved

end Numerator

end PredictionMarket
