import PredictionMarket.Text.Binary64

/-!
# Shortest decimals

A binary number is written with the fewest decimal digits that read back as the number itself, of
two such decimals the nearer one. A number from a ten-thousandth up to ten to the sixteenth has its
point among the digits, and always a digit on each side of it. Any other has the point after the
first digit and an exponent with a sign and at least two digits.
-/

namespace PredictionMarket.Binary64

/-- A natural number times a power of ten. -/
structure Decimal where
  /-- The natural number. -/
  digits : Nat
  /-- The power of ten. -/
  exponent : Int

/-- The number of decimal digits of a natural number. -/
def digitCount (n : Nat) : Nat :=
  (Nat.toDigits 10 n).length

/-- The least power of ten above a quotient. -/
def scale (n d : Nat) : Int :=
  let guess : Int := (digitCount n : Int) - (digitCount d : Int)
  let below :=
    if 0 ≤ guess then n < d * Nat.pow 10 guess.toNat else n * Nat.pow 10 (-guess).toNat < d
  if below then guess else guess + 1

/-- The multiple of a power of ten that stands for a quotient, if it reads back as the number: the
nearest multiple, or else its neighbour on the other side. -/
def onGrid? (x : Binary64) (n d : Nat) (exponent : Int) : Option Decimal :=
  let (n, d) :=
    if 0 ≤ exponent then (n, d * Nat.pow 10 exponent.toNat)
    else (n * Nat.pow 10 (-exponent).toNat, d)
  let below := n / d
  let nearest := roundDiv n d
  let other := if nearest = below then below + 1 else below
  let candidates : List Decimal := [⟨nearest, exponent⟩, ⟨other, exponent⟩]
  candidates.find? fun c => ofDecimal false c.digits c.exponent == x

/-- The shortest decimal for a natural number times a power of two. Seventeen digits are enough. -/
def shortest (mantissa : Nat) (exponent : Int) : Decimal :=
  let n := mantissa * Nat.pow 2 exponent.toNat
  let d := Nat.pow 2 (-exponent).toNat
  let top := scale n d
  let count? := (List.range 17).findSome? fun more =>
    onGrid? (.finite false mantissa exponent) n d (top - ((more + 1 : Nat) : Int))
  count?.getD ⟨mantissa * Nat.pow 2 exponent.toNat * Nat.pow 5 (-exponent).toNat, min exponent 0⟩

/-- Several zeros. -/
def zeros (count : Nat) : Text :=
  List.replicate count (CodePoint.ofChar '0')

/-- An exponent with its sign and at least two digits. -/
def exponentText (e : Int) : Text :=
  let sign : Text := if e < 0 then "e-" else "e+"
  let digits := Text.ofNat e.natAbs
  sign ++ zeros (2 - digits.length) ++ digits

/-- A decimal that is not zero, written out. -/
def Decimal.written (x : Decimal) : Text :=
  let all := Text.ofNat x.digits
  let digits := (all.reverse.dropWhile (· = CodePoint.ofChar '0')).reverse
  let leading := x.exponent + all.length - 1
  if leading < -4 || 16 ≤ leading then
    let more := digits.drop 1
    let point : Text := if more.isEmpty then [] else "."
    digits.take 1 ++ point ++ more ++ exponentText leading
  else if leading < 0 then "0." ++ zeros (-leading - 1).toNat ++ digits
  else
    let whole := leading.toNat + 1
    let more := digits.drop whole
    digits.take whole ++ zeros (whole - digits.length) ++ "." ++
      (if more.isEmpty then zeros 1 else more)

/-- How a binary number is written. -/
def written : Binary64 → Text
  | .finite negative m e =>
    let sign : Text := if negative then "-" else ""
    let size : Text := if m = 0 then "0.0" else (shortest m e).written
    sign ++ size
  | .infinite negative => if negative then "-inf" else "inf"
  | .notANumber => "nan"

end PredictionMarket.Binary64
