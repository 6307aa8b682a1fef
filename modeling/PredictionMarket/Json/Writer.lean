import PredictionMarket.Table
import PredictionMarket.Text.Digits
import PredictionMarket.Value

/-!
# Writing JSON

Values are written with the members of a dictionary in the order of their keys, by code point. The
compact form has no blanks and leaves code points above ASCII as they stand; the spaced form has a
blank after each comma and colon and escapes everything from U+007F on, in UTF-16 units. Octets,
moments, sets, what stands in itself, and dictionaries with other keys than texts have no JSON form,
nor have integers of too many digits.
-/

namespace PredictionMarket.Json

/-- How a value is laid out. -/
structure Layout where
  /-- Between two items. -/
  comma : Text
  /-- Between a key and its value. -/
  colon : Text
  /-- Whether code points above ASCII are escaped. -/
  asciiOnly : Bool

/-- The layout for hashing: no blanks, no escapes but the necessary ones. -/
def compact : Layout := ⟨",", ":", false⟩

/-- The layout for people and for channels that carry ASCII alone. -/
def spaced : Layout := ⟨", ", ": ", true⟩

/-- A code point by number: one UTF-16 unit, or a surrogate pair. -/
def escapePoint (c : CodePoint) : Text :=
  if c.val < 0x10000 then "\\u" ++ Text.hex 4 c.val
  else
    let n := c.val - 0x10000
    "\\u" ++ Text.hex 4 (0xD800 + n / 0x400) ++ "\\u" ++ Text.hex 4 (0xDC00 + n % 0x400)

/-- One code point inside a string. -/
def stringPoint (asciiOnly : Bool) (c : CodePoint) : Text :=
  if c = CodePoint.ofChar '"' || c = CodePoint.ofChar '\\' then [CodePoint.ofChar '\\', c]
  else if c.val = 8 then "\\b"
  else if c.val = 9 then "\\t"
  else if c.val = 10 then "\\n"
  else if c.val = 12 then "\\f"
  else if c.val = 13 then "\\r"
  else if c.val < 0x20 then escapePoint c
  else if asciiOnly && 0x7F ≤ c.val then escapePoint c
  else [c]

/-- A string with its quotation marks. -/
def string (asciiOnly : Bool) (t : Text) : Text :=
  CodePoint.ofChar '"' :: t.flatMap (stringPoint asciiOnly) ++ [CodePoint.ofChar '"']

/-- A number that was spelled with a fraction or an exponent. -/
def number : Binary64 → Text
  | .infinite negative => if negative then "-Infinity" else "Infinity"
  | .notANumber => "NaN"
  | x => x.written

/-- One member of a dictionary. -/
def member (layout : Layout) (entry : Text × Text) : Text :=
  string layout.asciiOnly entry.1 ++ layout.colon ++ entry.2

mutual

/-- The JSON form of a value, if it has one. -/
def write? (layout : Layout) : Value → Option Text
  | .null => some "null"
  | .bool true => some "true"
  | .bool false => some "false"
  | .int n => if Text.canWrite n then some (Text.ofInt n) else none
  | .float x => some (number x)
  | .text t => some (string layout.asciiOnly t)
  | .bytes _ => none
  | .moment _ => none
  | .set _ => none
  | .again _ => none
  | .list items => do
    let parts ← writeItems? layout items
    return "[" ++ Text.join layout.comma parts ++ "]"
  | .tuple items => do
    let parts ← writeItems? layout items
    return "[" ++ Text.join layout.comma parts ++ "]"
  | .object entries => do
    let members ← writeEntries? layout entries
    let inOrder := (Table.ofList members).entries
    return "\x7b" ++ Text.join layout.comma (inOrder.map (member layout)) ++ "\x7d"

/-- The JSON forms of the items of a list. -/
def writeItems? (layout : Layout) : List Value → Option (List Text)
  | [] => some []
  | v :: rest => do
    let part ← write? layout v
    let parts ← writeItems? layout rest
    return part :: parts

/-- The keys of a dictionary with the JSON forms of their values. -/
def writeEntries? (layout : Layout) : List (Value × Value) → Option (List (Text × Text))
  | [] => some []
  | (.text key, v) :: rest => do
    let part ← write? layout v
    let parts ← writeEntries? layout rest
    return (key, part) :: parts
  | _ => none

end

end PredictionMarket.Json
