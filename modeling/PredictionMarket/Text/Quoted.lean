import PredictionMarket.Text.Printable

/-!
# Quoted text

Messages show a text between quotation marks. Apostrophes surround it unless it holds an apostrophe
and no double quote. The surrounding mark and the backslash are escaped by a backslash; line feed,
carriage return and tabulator have letters of their own; any other code point that is not printable
is written by its number, in two, four or eight hexadecimal digits.
-/

namespace PredictionMarket.Text

/-- The mark that surrounds a quoted text. -/
def quoteMark (t : Text) : CodePoint :=
  let apostrophe := CodePoint.ofChar '\''
  let double := CodePoint.ofChar '"'
  if t.contains apostrophe && !t.contains double then double else apostrophe

/-- One code point inside a text that `mark` surrounds. -/
def quotedPoint (mark c : CodePoint) : Text :=
  let backslash := CodePoint.ofChar '\\'
  if c = mark || c = backslash then [backslash, c]
  else if c.val = 9 then "\\t"
  else if c.val = 10 then "\\n"
  else if c.val = 13 then "\\r"
  else if c.isPrintable then [c]
  else if c.val < 0x100 then "\\x" ++ hex 2 c.val
  else if c.val < 0x10000 then "\\u" ++ hex 4 c.val
  else "\\U" ++ hex 8 c.val

/-- The text between quotation marks, with escapes for what cannot stand as it is. -/
def quoted (t : Text) : Text :=
  let mark := t.quoteMark
  mark :: t.flatMap (quotedPoint mark) ++ [mark]

/-- Octets between quotation marks. Those that are no printable ASCII are escaped. -/
def quotedOctets (octets : List UInt8) : Text :=
  let points := octets.map fun o => (Fin.ofNat 0x110000 o.toNat : CodePoint)
  let mark := quoteMark points
  let octetPoint := fun (c : CodePoint) =>
    if c.val < 0x80 then quotedPoint mark c else "\\x" ++ hex 2 c.val
  mark :: points.flatMap octetPoint ++ [mark]

end PredictionMarket.Text
