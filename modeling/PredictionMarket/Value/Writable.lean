import PredictionMarket.Text.Digits
import PredictionMarket.Value

/-!
# Values that can be written

A value in which an integer of too many digits stands cannot be written: neither as it is shown in
running text nor as JSON.
-/

namespace PredictionMarket.Value

mutual

/-- Whether a value can be written: no integer in it has too many digits. -/
def isWritable : Value → Bool
  | .int n => Text.canWrite n
  | .list items => areWritable items
  | .tuple items => areWritable items
  | .set members => areWritable members
  | .object entries => areWritableEntries entries
  | _ => true

/-- Whether all of some values can be written. -/
def areWritable : List Value → Bool
  | [] => true
  | v :: rest => isWritable v && areWritable rest

/-- Whether all keys and values of a dictionary can be written. -/
def areWritableEntries : List (Value × Value) → Bool
  | [] => true
  | (k, v) :: rest => isWritable k && isWritable v && areWritableEntries rest

end

end PredictionMarket.Value
