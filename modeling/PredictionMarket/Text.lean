/-!
# Text

Account names, labels and messages are sequences of Unicode code points. A JSON escape can name a
lone surrogate, which no encoding form of Unicode holds, so a text is a list of code points and not
a string of scalar values. This file gives the type, its decimal and hexadecimal numerals, and its
UTF-8 octets, which exist exactly when the text holds no surrogate.
-/

namespace PredictionMarket

/-- A Unicode code point, surrogates included. -/
abbrev CodePoint := Fin 0x110000

namespace CodePoint

/-- The code point of a character. -/
def ofChar (c : Char) : CodePoint :=
  ⟨c.val.toNat, by rcases c.valid with h | h <;> omega⟩

/-- A surrogate is half of a pair that stands for one code point in UTF-16. -/
def isSurrogate (c : CodePoint) : Bool :=
  0xD800 ≤ c.val && c.val ≤ 0xDFFF

/-- The ten digits that a number on the wire may use. -/
def isAsciiDigit (c : CodePoint) : Bool :=
  48 ≤ c.val && c.val ≤ 57

/-- The UTF-8 octets of a code point: one to four of them, seven to twenty-one bits. -/
def utf8 (c : CodePoint) : List UInt8 :=
  let n := c.val
  let tail (shift : Nat) : UInt8 := UInt8.ofNat (0x80 + n / shift % 64)
  if n < 0x80 then [UInt8.ofNat n]
  else if n < 0x800 then [UInt8.ofNat (0xC0 + n / 64), tail 1]
  else if n < 0x10000 then [UInt8.ofNat (0xE0 + n / 4096), tail 64, tail 1]
  else [UInt8.ofNat (0xF0 + n / 262144), tail 4096, tail 64, tail 1]

/-- A digit of a numeral in base sixteen or below, in lower case. -/
def ofDigit (d : Nat) : CodePoint :=
  ofChar (Nat.digitChar d)

/-- The value of a hexadecimal digit, in either case. -/
def hexValue? (c : CodePoint) : Option Nat :=
  if 48 ≤ c.val && c.val ≤ 57 then some (c.val - 48)
  else if 65 ≤ c.val && c.val ≤ 70 then some (c.val - 55)
  else if 97 ≤ c.val && c.val ≤ 102 then some (c.val - 87)
  else none

end CodePoint

/-- A sequence of code points. Texts are ordered by code point, as lists are. -/
abbrev Text := List CodePoint

/-- There are code points. -/
instance CodePoint.neZero_bound : @NeZero Nat Zero.ofOfNat0 0x110000 := ⟨by decide⟩

namespace Text

instance : Std.TransOrd Text := inferInstanceAs (Std.TransOrd (List CodePoint))

instance : Std.LawfulEqOrd Text := inferInstanceAs (Std.LawfulEqOrd (List CodePoint))

/-- The text of a string, one code point a character. -/
def ofString (s : String) : Text :=
  s.toList.map CodePoint.ofChar

instance : Coe String Text := ⟨ofString⟩

/-- The decimal numeral of a natural number, without leading zeros. -/
def ofNat (n : Nat) : Text :=
  (Nat.toDigits 10 n).map CodePoint.ofChar

/-- The decimal numeral of an integer, with a minus sign below zero. -/
def ofInt : Int → Text
  | .ofNat n => ofNat n
  | .negSucc n => "-" ++ ofNat (n + 1)

/-- Exactly `width` hexadecimal digits: the last ones of the number, in lower case. -/
def hex : (width : Nat) → (n : Nat) → Text
  | 0, _ => []
  | width + 1, n => hex width (n / 16) ++ [CodePoint.ofDigit (n % 16)]

/-- Texts in a row, with a separator between neighbours. -/
def join (separator : Text) (parts : List Text) : Text :=
  separator.intercalate parts

/-- A text without the line feed at its end, if there is one. -/
def withoutLineFeed (t : Text) : Text :=
  if t.getLast? = some 10 then t.dropLast else t

/-- Whether the text holds a surrogate, and so has no encoding. -/
def hasSurrogate (t : Text) : Bool :=
  t.any CodePoint.isSurrogate

/-- The UTF-8 octets of a text, if no surrogate stands in it. -/
def utf8? (t : Text) : Option (List UInt8) :=
  if t.hasSurrogate then none else some (t.flatMap CodePoint.utf8)

/-- Integers in square brackets, with a comma and a blank between them. -/
def ofInts (ns : List Int) : Text :=
  "[" ++ join ", " (ns.map ofInt) ++ "]"

end Text

end PredictionMarket
