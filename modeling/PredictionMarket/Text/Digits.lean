import PredictionMarket.Text

/-!
# Digits and written numbers

Some amounts are configured or typed as text. Such a text may use the decimal digits of any script.
A few code points count as digits without a place value; a text that holds one looks like a number
and still is none. Numbers of more than 4300 digits are neither read nor written.
-/

namespace PredictionMarket.Digits

/-- The zero of every decimal script: the nine code points after it are its digits one to nine. -/
def decimalZeros : List Nat := [
  0x30, 0x660, 0x6F0, 0x7C0, 0x966, 0x9E6, 0xA66, 0xAE6, 0xB66, 0xBE6, 0xC66, 0xCE6, 0xD66,
  0xDE6, 0xE50, 0xED0, 0xF20, 0x1040, 0x1090, 0x17E0, 0x1810, 0x1946, 0x19D0, 0x1A80, 0x1A90,
  0x1B50, 0x1BB0, 0x1C40, 0x1C50, 0xA620, 0xA8D0, 0xA900, 0xA9D0, 0xA9F0, 0xAA50, 0xABF0, 0xFF10,
  0x104A0, 0x10D30, 0x11066, 0x110F0, 0x11136, 0x111D0, 0x112F0, 0x11450, 0x114D0, 0x11650,
  0x116C0, 0x11730, 0x118E0, 0x11950, 0x11C50, 0x11D50, 0x11DA0, 0x16A60, 0x16AC0, 0x16B50,
  0x1D7CE, 0x1D7D8, 0x1D7E2, 0x1D7EC, 0x1D7F6, 0x1E140, 0x1E2F0, 0x1E950, 0x1FBF0]

/-- Digits without a place value: superscripts, circled digits and the like. -/
def numeralRanges : List (Nat × Nat) := [
  (0xB2, 0xB3), (0xB9, 0xB9), (0x1369, 0x1371), (0x19DA, 0x19DA), (0x2070, 0x2070),
  (0x2074, 0x2079), (0x2080, 0x2089), (0x2460, 0x2468), (0x2474, 0x247C), (0x2488, 0x2490),
  (0x24EA, 0x24EA), (0x24F5, 0x24FD), (0x24FF, 0x24FF), (0x2776, 0x277E), (0x2780, 0x2788),
  (0x278A, 0x2792), (0x10A40, 0x10A43), (0x10E60, 0x10E68), (0x11052, 0x1105A),
  (0x1F100, 0x1F10A)]

end PredictionMarket.Digits

namespace PredictionMarket.CodePoint

/-- The value of a decimal digit of any script. -/
def decimalValue? (c : CodePoint) : Option Nat :=
  (Digits.decimalZeros.find? fun base => base ≤ c.val && c.val ≤ base + 9).map (c.val - ·)

/-- Decimal digits of any script, and digits without a place value. -/
def isDigit (c : CodePoint) : Bool :=
  c.decimalValue?.isSome ||
    Digits.numeralRanges.any fun (first, last) => first ≤ c.val && c.val ≤ last

/-- The code points that may stand around a written number. -/
def isSpace (c : CodePoint) : Bool :=
  let n := c.val
  (9 ≤ n && n ≤ 13) || n = 0x20 || n = 0x85 || n = 0xA0 || n = 0x1680 ||
    (0x2000 ≤ n && n ≤ 0x200A) || n = 0x2028 || n = 0x2029 || n = 0x202F || n = 0x205F || n = 0x3000

end PredictionMarket.CodePoint

namespace PredictionMarket.Text

/-- A number with more digits than this is neither read nor written. -/
def digitLimit : Nat := 4300

/-- Whether an integer can be written: it does not have too many digits. -/
def canWrite (n : Int) : Bool :=
  (ofNat n.natAbs).length ≤ digitLimit

/-- Whether the text is made of digits only, at least one of them. -/
def isDigits (t : Text) : Bool :=
  !t.isEmpty && t.all CodePoint.isDigit

/-- The number that digits denote in base ten. -/
def ofDigitValues (digits : List Nat) : Nat :=
  digits.foldl (fun n d => 10 * n + d) 0

/-- The number that a text of decimal digits denotes. -/
def natural? (t : Text) : Option Nat :=
  if t.isEmpty || digitLimit < t.length then none
  else (t.mapM CodePoint.decimalValue?).map ofDigitValues

/-- Groups of digits with single underscores between them, as one group. -/
def ungroup? : Text → Option Text
  | [] => some []
  | [c] => if c = CodePoint.ofChar '_' then none else some [c]
  | c :: d :: rest =>
    if c = CodePoint.ofChar '_' then none
    else if d = CodePoint.ofChar '_' then
      match rest with
      | [] => none
      | e :: rest => (ungroup? (e :: rest)).map (c :: ·)
    else (ungroup? (d :: rest)).map (c :: ·)

/-- A text without the blanks around it. -/
def trimmed (t : Text) : Text :=
  ((t.dropWhile CodePoint.isSpace).reverse.dropWhile CodePoint.isSpace).reverse

/-- Reads an integer with blanks around it, and a sign in front of what is read otherwise. -/
def signed? (read : Text → Option Nat) (t : Text) : Option Int :=
  match t.trimmed with
  | [] => none
  | sign :: digits =>
    if sign = CodePoint.ofChar '-' then (read digits).map fun n => -(n : Int)
    else if sign = CodePoint.ofChar '+' then (read digits).map Int.ofNat
    else (read (sign :: digits)).map Int.ofNat

/-- Reads a written integer: blanks around it, a sign, and digits in groups. -/
def integer? (t : Text) : Option Int :=
  signed? (fun digits => (ungroup? digits).bind natural?) t

end PredictionMarket.Text
