import PredictionMarket.Value

/-!
# The members of a set

A set keeps its members in a table, and lists them by their places there. A number has its place by
its residue modulo a prime. If that is taken, the places next to it are tried, and then others,
which its residue determines too. Members that are not all numbers are listed as they were put.
-/

namespace PredictionMarket.Value

/-- The prime modulo which numbers are told apart. -/
def numberModulus : Nat := 0x1FFFFFFFFFFFFFFF

/-- The inverse of two modulo the prime. -/
def inverseOfTwo : Nat := 0x1000000000000000

/-- The residue of a natural number times a power of two. -/
def scaledResidue (n : Nat) (exponent : Int) : Nat :=
  let base := if 0 ≤ exponent then 2 else inverseOfTwo
  n * Nat.pow base (exponent.natAbs % 61) % numberModulus

/-- The residue of a number with the sign of the number. The residue minus one is kept free. -/
def signedResidue (negative : Bool) (residue : Nat) : Int :=
  if !negative then residue else if residue = 1 then -2 else -residue

/-- The residue of a value that is a number. -/
def residue? : Value → Option Int
  | .bool b => some (if b then 1 else 0)
  | .int n => some (signedResidue (n < 0) (scaledResidue n.natAbs 0))
  | .float (.finite negative m e) => some (signedResidue negative (scaledResidue m e))
  | .float (.infinite negative) => some (signedResidue negative 314159)
  | _ => none

/-- A table with places for members. -/
abbrev Slots := List (Option Value)

/-- The number of places of a table for some members: more than twice as many, but no fewer than
eight, and a power of two. -/
def slotCount (members : Nat) : Nat :=
  if members ≤ 4 then 8 else Nat.pow 2 (Nat.log2 (2 * members) + 1)

/-- The first free place from a place on: the place itself, or one of the nine that follow if the
table has them all. -/
def freeNear? (slots : Slots) (start : Nat) : Option Nat :=
  let count := if start + 9 < slots.length then 10 else 1
  ((slots.drop start).take count).findIdx? Option.isNone |>.map (start + ·)

/-- The place for a member, searched from a place on. The perturbation makes every place be
reached. -/
def freeSlot? (slots : Slots) : (fuel : Nat) → (start perturbation : Nat) → Option Nat
  | 0, _, _ => none
  | fuel + 1, start, perturbation =>
    match freeNear? slots start with
    | some place => some place
    | none =>
      let next := perturbation / 32
      freeSlot? slots fuel ((5 * start + 1 + next) % slots.length) next

/-- Puts a member with its residue into a table. -/
def putMember (slots : Slots) (member : Value × Int) : Slots :=
  let residue := (member.2 % 0x10000000000000000).toNat
  let fuel := slots.length + 16
  match freeSlot? slots fuel (residue % slots.length) residue with
  | some place => slots.set place (some member.1)
  | none => slots ++ [some member.1]

/-- The members of a set as they are listed, given as they were put. -/
def listed (members : List Value) : List Value :=
  match members.mapM fun v => v.residue?.map (v, ·) with
  | none => members
  | some ranked =>
    let slots := ranked.foldl putMember (List.replicate (slotCount members.length) none)
    slots.filterMap id

end PredictionMarket.Value
