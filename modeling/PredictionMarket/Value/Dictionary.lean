import PredictionMarket.Value.Alike

/-!
# Dictionaries of values

Entries are put into a dictionary one after another. A key that is there already keeps its place and
gets the new value. Values that are alike are one key. Lists, sets and dictionaries cannot be keys.
-/

namespace PredictionMarket.Value

/-- Puts an entry into a dictionary: in the place of its key if that is there, else at the end. -/
def putEntry {α : Type} : List (Value × α) → Value × α → List (Value × α)
  | [], entry => [entry]
  | (k, v) :: rest, (key, value) =>
    if alike k key then (k, value) :: rest else (k, v) :: putEntry rest (key, value)

/-- The dictionary that entries make, of which the later count. -/
def collect {α : Type} (entries : List (Value × α)) : List (Value × α) :=
  entries.foldl putEntry []

mutual

/-- Whether a value can be a key: nothing in it can change. -/
def isKeyable : Value → Bool
  | .list _ => false
  | .set _ => false
  | .object _ => false
  | .again _ => false
  | .tuple items => areKeyable items
  | _ => true

/-- Whether all of some values can be keys. -/
def areKeyable : List Value → Bool
  | [] => true
  | v :: rest => isKeyable v && areKeyable rest

end

/-- The dictionary that entries make, if their keys can be keys. -/
def ofEntries? (entries : List (Value × Value)) : Option Value :=
  if areKeyable (entries.map Prod.fst) then some (.object (collect entries)) else none

/-- Where a key stands in an order: among keys of its sort, which are numbers, texts, octets, or
moments of one sort. -/
structure Rank where
  /-- The sort of the key. -/
  sort : Nat
  /-- Its place in the order of its sort. -/
  place : List Int

/-- Where a value stands in an order, if it can. What is no number comes after all numbers. -/
def rank? : Value → Option Rank
  | .float .notANumber => some ⟨0, [2]⟩
  | .text t => some ⟨1, t.map fun c => (c.val : Int)⟩
  | .bytes octets => some ⟨2, octets.map fun o => (o.toNat : Int)⟩
  | .moment m => some ⟨3 + m.sort, [m.position]⟩
  | v => v.position?.map fun (p, q) => ⟨0, [p, q]⟩

/-- Keys in ascending order. Only keys of one sort can be ordered. -/
def inOrder? (keys : List Value) : Option (List Value) :=
  if keys.length ≤ 1 then some keys
  else do
    let ranked ← keys.mapM fun k => k.rank?.map (·, k)
    let sorts := ranked.map fun (r, _) => r.sort
    if sorts.all (· = sorts.headD 0) then
      return (ranked.mergeSort fun a b => (compare a.1.place b.1.place).isLE).map Prod.snd
    else none

end PredictionMarket.Value
