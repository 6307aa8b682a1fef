import PredictionMarket.ErrorKind
import PredictionMarket.Guard

/-!
# Room for lists

A list with a given number of equal items can be made if there is room for it. A negative number
makes the empty list. Numbers that are too large on either side count nothing.
-/

namespace PredictionMarket

/-- Why a list cannot be made. -/
inductive RoomError where
  /-- The number of items is too large to count anything, or too small. -/
  | uncountable
  /-- There is no room for so many items. -/
  | noRoom
  deriving DecidableEq

/-- The kind of an error of room. -/
def RoomError.kind : RoomError → ErrorKind
  | .uncountable => .tooLarge
  | .noRoom => .noRoom

/-- The numbers from the opposite of this one up to it, itself left out, can count. -/
def countBound : Int := 0x8000000000000000

/-- The number of items that there is room for. -/
def mostItems : Int := 0x100000000

/-- A list of equal items. -/
def repeated {α : Type} (count : Int) (item : α) : Except RoomError (List α) := do
  refuseIf (count < -countBound ∨ countBound ≤ count) .uncountable
  refuseIf (mostItems < count) .noRoom
  return List.replicate count.toNat item

end PredictionMarket
