import PredictionMarket.Text.Digits

/-!
# Binary numbers

A number with a fraction or an exponent denotes the nearest number that has 53 binary digits, of two
equally near ones the one with the even last digit. Such a number is a natural number times a power
of two, with a sign. Numbers that are too large denote infinity, and one spelling denotes no number
at all.
-/

namespace PredictionMarket

/-- What the spelling of a number denotes. -/
inductive Binary64 where
  /-- A natural number times a power of two. The sign matters for zero too. -/
  | finite (negative : Bool) (mantissa : Nat) (exponent : Int)
  /-- A number that is too large, or its opposite. -/
  | infinite (negative : Bool)
  /-- No number. -/
  | notANumber
  deriving DecidableEq

namespace Binary64

/-! ## Rounding -/

/-- The exponent of the finest numbers. -/
def finestExponent : Int := -1074

/-- The exponent of the coarsest numbers. -/
def coarsestExponent : Int := 971

/-- A quotient rounded to the nearest integer, a half to the even neighbour. -/
def roundDiv (n d : Nat) : Nat :=
  let q := n / d
  let twice := 2 * (n % d)
  if twice < d || (twice = d && q % 2 = 0) then q else q + 1

/-- The least power of two that the binary digits of a quotient are counted in. -/
def unit (n d : Nat) : Int :=
  let guess : Int := (Nat.log2 n : Int) - (Nat.log2 d : Int)
  let below := if 0 ≤ guess then n < d * Nat.pow 2 guess.toNat else n * Nat.pow 2 (-guess).toNat < d
  max (if below then guess - 53 else guess - 52) finestExponent

/-- The nearest number to a quotient, negative or not. -/
def ofQuotient (negative : Bool) (n d : Nat) : Binary64 :=
  if n = 0 then .finite negative 0 finestExponent
  else
    let e := unit n d
    let m :=
      if 0 ≤ e then roundDiv n (d * Nat.pow 2 e.toNat) else roundDiv (n * Nat.pow 2 (-e).toNat) d
    let (m, e) := if m = Nat.pow 2 53 then (Nat.pow 2 52, e + 1) else (m, e)
    if coarsestExponent < e then .infinite negative else .finite negative m e

/-- The nearest number to a natural number times a power of two. -/
def ofScaled (negative : Bool) (n : Nat) (exponent : Int) : Binary64 :=
  if 0 ≤ exponent then ofQuotient negative (n * Nat.pow 2 exponent.toNat) 1
  else ofQuotient negative n (Nat.pow 2 (-exponent).toNat)

/-- The nearest number to a natural number times a power of ten. The powers that are far out of
reach are not computed. -/
def ofDecimal (negative : Bool) (n : Nat) (exponent : Int) : Binary64 :=
  if n = 0 || Nat.log2 n + 3 * exponent < finestExponent - 10 then ofQuotient negative 0 1
  else if 400 < exponent then .infinite negative
  else if 0 ≤ exponent then ofQuotient negative (n * Nat.pow 10 exponent.toNat) 1
  else ofQuotient negative n (Nat.pow 10 (-exponent).toNat)

/-! ## Reading -/

/-- What is spelled after the digits of a number: a letter, perhaps a sign, and the digits of a
power of ten. -/
def readExponent (t : Text) : Int :=
  let digits := t.filter CodePoint.isAsciiDigit
  let size : Nat := Text.ofDigitValues (digits.map fun c => c.val - 48)
  if t.contains (CodePoint.ofChar '-') then -size else size

/-- The number that a decimal spelling denotes: digits, perhaps with a minus sign in front, a point
among them, and an exponent after them. -/
def ofSpelling (t : Text) : Binary64 :=
  let negative := t.head? = some (CodePoint.ofChar '-')
  let unsigned := if negative then t.drop 1 else t
  let whole := unsigned.takeWhile CodePoint.isAsciiDigit
  let behind := unsigned.drop whole.length
  let hasPoint := behind.head? = some (CodePoint.ofChar '.')
  let places := if hasPoint then (behind.drop 1).takeWhile CodePoint.isAsciiDigit else []
  let tail := behind.drop (if hasPoint then places.length + 1 else 0)
  let digits := (whole ++ places).map fun c => c.val - 48
  if digits.isEmpty then .notANumber
  else ofDecimal negative (Text.ofDigitValues digits) (readExponent tail - places.length)

/-! ## Operations -/

/-- Whether a number is zero, with whatever sign. -/
def isZero : Binary64 → Bool
  | .finite _ m _ => m = 0
  | _ => false

/-- The opposite of a number. -/
def opposite : Binary64 → Binary64
  | .finite negative m e => .finite (!negative) m e
  | .infinite negative => .infinite (!negative)
  | .notANumber => .notANumber

/-- The sum of two numbers. Two zeros that cancel each other make the one without a sign. -/
def sum : Binary64 → Binary64 → Binary64
  | .notANumber, _ => .notANumber
  | _, .notANumber => .notANumber
  | .infinite negative, .infinite other =>
    if negative = other then .infinite negative else .notANumber
  | .infinite negative, _ => .infinite negative
  | _, .infinite negative => .infinite negative
  | .finite negative m e, .finite other n f =>
    let low := min e f
    let signed := fun (minus : Bool) (k : Nat) (exponent : Int) =>
      let size : Nat := k * Nat.pow 2 (exponent - low).toNat
      if minus then -(size : Int) else size
    let total := signed negative m e + signed other n f
    ofScaled (if total = 0 then negative && other else total < 0) total.natAbs low

/-- A number times a positive natural number, which is rounded first. -/
def times (x : Binary64) (n : Nat) : Binary64 :=
  match x, ofQuotient false n 1 with
  | .finite negative m e, .finite _ k f => ofScaled negative (m * k) (e + f)
  | .finite negative _ _, _ => .infinite negative
  | x, _ => x

/-- The number without its fraction, if it is one. -/
def truncated? : Binary64 → Option Int
  | .finite negative m e =>
    let size : Nat := m * Nat.pow 2 e.toNat / Nat.pow 2 (-e).toNat
    some (if negative then -size else size)
  | _ => none

/-- The integer that a number is equal to, if there is one. -/
def integer? : Binary64 → Option Int
  | .finite negative m e =>
    let d := Nat.pow 2 (-e).toNat
    let size : Nat := m * Nat.pow 2 e.toNat / d
    if m % d = 0 then some (if negative then -size else size) else none
  | _ => none

/-- How many times the finest number goes into a number, if that is finite. -/
def inFinest? : Binary64 → Option Int
  | .finite negative m e =>
    let size : Nat := m * Nat.pow 2 (e - finestExponent).toNat
    some (if negative then -size else size)
  | _ => none

end Binary64

end PredictionMarket
