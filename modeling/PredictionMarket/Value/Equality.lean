import PredictionMarket.Value

/-!
# Equality of values

Whether two values are equal can be decided by comparing them part by part. Dictionaries are equal
when they have the same entries in the same order.
-/

namespace PredictionMarket.Value

mutual

/-- Whether two values are the same in all their parts. -/
def same : Value → Value → Bool
  | .null, .null => true
  | .bool a, .bool b => a == b
  | .int m, .int n => m == n
  | .float s, .float t => s == t
  | .text s, .text t => s == t
  | .bytes s, .bytes t => s == t
  | .moment m, .moment n => m == n
  | .list vs, .list ws => sameItems vs ws
  | .tuple vs, .tuple ws => sameItems vs ws
  | .set vs, .set ws => sameItems vs ws
  | .object es, .object fs => sameEntries es fs
  | .again a, .again b => a == b
  | _, _ => false

/-- Whether two lists of values are the same item by item. -/
def sameItems : List Value → List Value → Bool
  | [], [] => true
  | v :: vs, w :: ws => same v w && sameItems vs ws
  | _, _ => false

/-- Whether two lists of entries are the same, keys and values. -/
def sameEntries : List (Value × Value) → List (Value × Value) → Bool
  | [], [] => true
  | (k, v) :: es, (l, w) :: fs => same k l && same v w && sameEntries es fs
  | _, _ => false

end

mutual

/-- Values that are the same in all their parts are equal, and the other way round. -/
theorem same_iff_eq : ∀ v w : Value, same v w = true ↔ v = w
  | .null, w => by cases w <;> simp [same]
  | .bool _, w => by cases w <;> simp [same]
  | .int _, w => by cases w <;> simp [same]
  | .float _, w => by cases w <;> simp [same]
  | .text _, w => by cases w <;> simp [same]
  | .bytes _, w => by cases w <;> simp [same]
  | .moment _, w => by cases w <;> simp [same]
  | .list vs, w => by
    cases w with
    | list ws => simp [same, sameItems_iff_eq vs ws]
    | _ => simp [same]
  | .tuple vs, w => by
    cases w with
    | tuple ws => simp [same, sameItems_iff_eq vs ws]
    | _ => simp [same]
  | .set vs, w => by
    cases w with
    | set ws => simp [same, sameItems_iff_eq vs ws]
    | _ => simp [same]
  | .again _, w => by cases w <;> simp [same]
  | .object es, w => by
    cases w with
    | object fs => simp [same, sameEntries_iff_eq es fs]
    | _ => simp [same]

/-- Lists of values that are the same item by item are equal, and the other way round. -/
theorem sameItems_iff_eq : ∀ vs ws : List Value, sameItems vs ws = true ↔ vs = ws
  | [], ws => by cases ws <;> simp [sameItems]
  | v :: vs, [] => by simp [sameItems]
  | v :: vs, w :: ws => by simp [sameItems, same_iff_eq v w, sameItems_iff_eq vs ws]

/-- Lists of entries that are the same are equal, and the other way round. -/
theorem sameEntries_iff_eq :
    ∀ es fs : List (Value × Value), sameEntries es fs = true ↔ es = fs
  | [], fs => by cases fs <;> simp [sameEntries]
  | (k, v) :: es, [] => by simp [sameEntries]
  | (k, v) :: es, (l, w) :: fs => by
    simp [sameEntries, same_iff_eq k l, same_iff_eq v w, sameEntries_iff_eq es fs]

end

instance : DecidableEq Value := fun v w =>
  decidable_of_iff (same v w = true) (same_iff_eq v w)

end PredictionMarket.Value
