import PredictionMarket.Text.Binary64.Shortest
import PredictionMarket.Text.Moment
import PredictionMarket.Text.Quoted

/-!
# Values

A value is a tree of plain data: what a JSON text denotes, what a snapshot is made of, and what a
caller may hand over where an amount, a name or an identifier is expected. Snapshots and wire texts
use lists and dictionaries with text keys; tuples, octets and other keys occur in trees that the
canonical encoding has to judge, moments and sets in configuration documents. There a list can also
stand in itself, where it is cut short. This file gives the type, the reading of a value as an
integer, and the written form that error messages show.
-/

namespace PredictionMarket

/-- Plain data. A dictionary lists its entries in the order in which its keys were first put. -/
inductive Value where
  /-- The absent value. -/
  | null
  /-- A truth value, which is not an integer. -/
  | bool (b : Bool)
  /-- An integer of any size. -/
  | int (n : Int)
  /-- A number that was spelled with a fraction or an exponent. -/
  | float (x : Binary64)
  /-- A text. -/
  | text (t : Text)
  /-- A string of octets. -/
  | bytes (octets : List UInt8)
  /-- A day, or a time of it. -/
  | moment (m : Moment)
  /-- A list. -/
  | list (items : List Value)
  /-- A list of fixed length. -/
  | tuple (items : List Value)
  /-- A set, with its members in the order in which they are listed. -/
  | set (members : List Value)
  /-- A dictionary. -/
  | object (entries : List (Value × Value))
  /-- A list or a dictionary that stands in itself. -/
  | again (isList : Bool)
  deriving Inhabited

namespace Value

/-- The integer that a value is, if it is one. -/
def int? : Value → Option Int
  | .int n => some n
  | _ => none

/-- Where a number stands among all numbers: between the two infinities, as many times the finest
number as it holds. Truth values count as one and zero. -/
def position? : Value → Option (Int × Int)
  | .bool b => some (0, if b then (Nat.pow 2 (-Binary64.finestExponent).toNat : Nat) else 0)
  | .int n => some (0, n * (Nat.pow 2 (-Binary64.finestExponent).toNat : Nat))
  | .float (.infinite negative) => some (if negative then -1 else 1, 0)
  | .float x => x.inFinest?.map (0, ·)
  | _ => none

/-- The integer that a value is equal to, where truth values count as one and zero. -/
def number? (v : Value) : Option Int :=
  match v with
  | .int n => some n
  | .bool b => some (if b then 1 else 0)
  | .float x => x.integer?
  | _ => none

/-- A value counts as true unless it is null, false, zero or empty. -/
def truthy : Value → Bool
  | .null => false
  | .bool b => b
  | .int n => n != 0
  | .float x => !x.isZero
  | .text t => !t.isEmpty
  | .bytes octets => !octets.isEmpty
  | .moment _ => true
  | .list items => !items.isEmpty
  | .tuple items => !items.isEmpty
  | .set members => !members.isEmpty
  | .object entries => !entries.isEmpty
  | .again _ => true

/-- What a value can be listed as, if it can: the characters of a text, the octets of a string, the
items of a list, the members of a set, the keys of a dictionary. -/
def parts? : Value → Option (List Value)
  | .text t => some (t.map fun c => .text [c])
  | .bytes octets => some (octets.map fun o => .int o.toNat)
  | .list items => some items
  | .tuple items => some items
  | .set members => some members
  | .object entries => some (entries.map Prod.fst)
  | _ => none

/-- The value under a text key. -/
def lookup (key : Text) : List (Value × Value) → Option Value
  | [] => none
  | (.text k, v) :: rest => if k = key then some v else lookup key rest
  | _ :: rest => lookup key rest

/-- Puts a value under a text key: in the place of the key if it is there, else at the end. -/
def put (key : Text) (value : Value) : List (Value × Value) → List (Value × Value)
  | [] => [(.text key, value)]
  | (.text k, v) :: rest =>
    if k = key then (.text k, value) :: rest else (.text k, v) :: put key value rest
  | entry :: rest => entry :: put key value rest

/-- The text keys of a dictionary. -/
def textKeys (entries : List (Value × Value)) : List Text :=
  entries.filterMap fun
    | (.text k, _) => some k
    | _ => none

/-- A dictionary with the given text keys. -/
def record (fields : List (String × Value)) : Value :=
  .object (fields.map fun (name, v) => (.text name, v))

/-- A list of texts. -/
def ofTexts (ts : List Text) : Value :=
  .list (ts.map .text)

/-- A list of integers. -/
def ofInts (ns : List Int) : Value :=
  .list (ns.map .int)

/-- An amount written as a decimal numeral. -/
def numeral (n : Int) : Value :=
  .text (Text.ofInt n)

/-- An optional integer, null when it is absent. -/
def ofInt? : Option Int → Value
  | none => .null
  | some n => .int n

mutual

/-- The written form of a value: texts in quotation marks, entries between brackets. -/
def written : Value → Text
  | .null => "None"
  | .bool true => "True"
  | .bool false => "False"
  | .int n => Text.ofInt n
  | .float x => x.written
  | .text t => t.quoted
  | .bytes octets => "b" ++ Text.quotedOctets octets
  | .moment m => m.written
  | .list items => "[" ++ Text.join ", " (writtenItems items) ++ "]"
  | .tuple [item] => "(" ++ item.written ++ ",)"
  | .tuple items => "(" ++ Text.join ", " (writtenItems items) ++ ")"
  | .set [] => "set()"
  | .set members => "\x7b" ++ Text.join ", " (writtenItems members) ++ "\x7d"
  | .object entries => "\x7b" ++ Text.join ", " (writtenEntries entries) ++ "\x7d"
  | .again true => "[...]"
  | .again false => "\x7b...\x7d"

/-- The written forms of a list of values. -/
def writtenItems : List Value → List Text
  | [] => []
  | v :: rest => v.written :: writtenItems rest

/-- The written forms of dictionary entries. -/
def writtenEntries : List (Value × Value) → List Text
  | [] => []
  | (k, v) :: rest => (k.written ++ ": " ++ v.written) :: writtenEntries rest

end

/-- A value in running text: a text as it stands, anything else in its written form. -/
def shown : Value → Text
  | .text t => t
  | v => v.written

end Value

end PredictionMarket
