import PredictionMarket.Value

/-!
# Likeness of values

Values that come from different places are compared by what they say. Numbers are alike if they are
equal, whatever their form, and truth values are the numbers one and zero. What is no number is like
itself. Moments are alike if they are the same by universal time. Sets are alike if they have the
same members, and dictionaries if they have the same entries, in whatever order.
-/

namespace PredictionMarket.Value

/-- Whether two values are equal numbers. -/
def sameNumber (v w : Value) : Bool :=
  match v.position?, w.position? with
  | some p, some q => p == q
  | _, _ => false

mutual

/-- Whether two values say the same. -/
def alike : Value → Value → Bool
  | .null, .null => true
  | .text s, .text t => s == t
  | .bytes s, .bytes t => s == t
  | .float .notANumber, .float .notANumber => true
  | .moment m, .moment n => m.sort == n.sort && m.position == n.position
  | .list vs, .list ws => alikeItems vs ws
  | .tuple vs, .tuple ws => alikeItems vs ws
  | .set vs, .set ws => vs.length == ws.length && alikeMembers vs ws
  | .object es, .object fs => es.length == fs.length && alikeEntries es fs
  | v, w => sameNumber v w

/-- Whether two lists of values are alike item by item. -/
def alikeItems : List Value → List Value → Bool
  | [], [] => true
  | v :: vs, w :: ws => alike v w && alikeItems vs ws
  | _, _ => false

/-- Whether all members of a set are members of another. -/
def alikeMembers : List Value → List Value → Bool
  | [], _ => true
  | v :: vs, ws => ws.any (alike v) && alikeMembers vs ws

/-- Whether all entries of a dictionary are entries of another. -/
def alikeEntries : List (Value × Value) → List (Value × Value) → Bool
  | [], _ => true
  | (k, v) :: es, fs => (fs.any fun (l, w) => alike k l && alike v w) && alikeEntries es fs

end

end PredictionMarket.Value
