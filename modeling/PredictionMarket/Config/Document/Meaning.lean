import PredictionMarket.ErrorKind
import PredictionMarket.Guard
import PredictionMarket.Text.Base64
import PredictionMarket.Text.Case
import PredictionMarket.Value

/-!
# Meanings

A bare text may stand for a number, a truth value, a moment or nothing, and its form says for which.
A tag can say it for any text, whether it has that form or not.
-/

namespace PredictionMarket.Document

/-- What a part of a document stands for. -/
inductive Meaning where
  /-- A text. -/
  | text
  /-- Nothing. -/
  | null
  /-- A truth value. -/
  | truth
  /-- An integer. -/
  | integer
  /-- A number with a point. -/
  | decimal
  /-- A moment. -/
  | moment
  /-- Octets, which a text spells. -/
  | octets
  /-- A list. -/
  | list
  /-- A list of pairs, each written as a dictionary with a single entry. -/
  | pairs
  /-- A set, written as a dictionary of which the keys count. -/
  | set
  /-- A dictionary. -/
  | map
  /-- The key of what is merged into a dictionary. -/
  | merge
  /-- The key of a default. -/
  | default
  /-- Nothing that is known. -/
  | unknown
  deriving DecidableEq

/-! ## The forms of numbers -/

/-- The underscore, which may divide the digits of a number. -/
def underscore : CodePoint := CodePoint.ofChar '_'

/-- The colon, which divides places of sixty. -/
def sixtyMark : CodePoint := CodePoint.ofChar ':'

/-- Whether a code point may stand among the digits of a number in a base. -/
def isPlace (base : Nat) (c : CodePoint) : Bool :=
  c = underscore || c.hexValue?.any (· < base)

/-- Whether a text is a sign. -/
def isSign (c : CodePoint) : Bool :=
  c = CodePoint.ofChar '-' || c = CodePoint.ofChar '+'

/-- A text without its sign, if it has one. -/
def unsigned (t : Text) : Text :=
  if t.head?.any isSign then t.drop 1 else t

/-- Whether a text is a number below sixty, with at most two digits. -/
def isSixtieth : Text → Bool
  | [c] => c.isAsciiDigit
  | [c, d] => isPlace 6 c && c.isAsciiDigit && d.isAsciiDigit
  | _ => false

/-- Whether a text has places of sixty after its first one, which is not checked. -/
def hasSixtieths (t : Text) (least : Nat) : Bool :=
  let others := (t.splitOn sixtyMark).drop 1
  least ≤ others.length && others.all isSixtieth

/-- The first place of a text with places of sixty. -/
def firstPlace (t : Text) : Text :=
  t.takeWhile (· ≠ sixtyMark)

/-- Whether a text without a sign has the form of an integer. A zero in front makes it an octal
number, and a letter after the zero a binary or a hexadecimal one. -/
def isNatural : Text → Bool
  | [] => false
  | first :: rest =>
    if first = CodePoint.ofChar '0' then
      match rest with
      | [] => true
      | letter :: digits =>
        if letter = CodePoint.ofChar 'b' then !digits.isEmpty && digits.all (isPlace 2)
        else if letter = CodePoint.ofChar 'x' then !digits.isEmpty && digits.all (isPlace 16)
        else rest.all (isPlace 8)
    else
      let places := first :: rest
      first.isAsciiDigit && (firstPlace places).all (isPlace 10) && hasSixtieths places 0

/-- Whether a text is an exponent or empty. The sign of the exponent must be there. -/
def isExponent : Text → Bool
  | [] => true
  | letter :: sign :: digits =>
    (letter = CodePoint.ofChar 'e' || letter = CodePoint.ofChar 'E') && isSign sign &&
      !digits.isEmpty && digits.all CodePoint.isAsciiDigit
  | _ => false

/-- The spellings of infinity. -/
def infinities : List Text := [".inf", ".Inf", ".INF"]

/-- The spellings of what is no number. -/
def notNumbers : List Text := [".nan", ".NaN", ".NAN"]

/-- Whether a text has the form of a number with a point. Only one without a sign may begin with the
point, and one with places of sixty has no exponent. -/
def isDecimal (t : Text) : Bool :=
  let size := unsigned t
  let whole := size.takeWhile (· ≠ CodePoint.ofChar '.')
  let places := (size.drop (whole.length + 1)).takeWhile (isPlace 10)
  let behind := size.drop (whole.length + 1 + places.length)
  let startsWell := fun (digits : Text) => digits.head?.any CodePoint.isAsciiDigit
  if infinities.contains size || notNumbers.contains t then true
  else if whole.length = size.length then false
  else if whole.isEmpty then size = t && startsWell places && isExponent behind
  else
    startsWell whole && (firstPlace whole).all (isPlace 10) &&
      if whole.contains sixtyMark then hasSixtieths whole 1 && behind.isEmpty
      else isExponent behind

/-! ## The forms of moments -/

/-- A number with at least and at most so many digits at the beginning of a text, and the rest. -/
def digits? (least most : Nat) (t : Text) : Option (Nat × Text) :=
  let digits := (t.take most).takeWhile CodePoint.isAsciiDigit
  if digits.length < least then none
  else some (Text.ofDigitValues (digits.map fun c => c.val - 48), t.drop digits.length)

/-- A text without the character that it begins with. -/
def after? (c : Char) : Text → Option Text
  | [] => none
  | d :: rest => if d = CodePoint.ofChar c then some rest else none

/-- A text without the blanks in front of it. -/
def withoutBlanks (t : Text) : Text :=
  t.dropWhile fun c => c = 0x20 || c = 0x9

/-- The millionths that the digits after a point stand for, and the rest. -/
def millionths (t : Text) : Nat × Text :=
  match after? '.' t with
  | none => (0, t)
  | some rest =>
    let digits := rest.takeWhile CodePoint.isAsciiDigit
    let first := (digits ++ List.replicate 6 (CodePoint.ofChar '0')).take 6
    (Text.ofDigitValues (first.map fun c => c.val - 48), rest.drop digits.length)

/-- How far a clock is ahead of universal time, if that is said, up to the end of a text. -/
def ahead? (t : Text) : Option (Option Int) := do
  if t.isEmpty then return none
  let zone := withoutBlanks t
  if zone = "Z" then return some 0
  guard (zone.head?.any isSign)
  let (hours, rest) ← digits? 1 2 (zone.drop 1)
  let (minutes, rest) ← if rest.isEmpty then some (0, rest) else digits? 2 2 (← after? ':' rest)
  guard rest.isEmpty
  let size : Int := 60 * hours + minutes
  return some (if (after? '-' zone).isSome then -size else size)

/-- A time of a day, up to the end of a text. -/
def clock? (t : Text) : Option Clock := do
  let (hour, rest) ← digits? 1 2 t
  let (minute, rest) ← digits? 2 2 (← after? ':' rest)
  let (second, rest) ← digits? 2 2 (← after? ':' rest)
  let (micro, rest) := millionths rest
  return ⟨hour, minute, second, micro, ← ahead? rest⟩

/-- The moment that a text has the form of. The month and the day of a bare text without a time must
have two digits each. -/
def moment? (isBare : Bool) (t : Text) : Option Moment := do
  let (year, rest) ← digits? 4 4 t
  let (month, rest) ← digits? 1 2 (← after? '-' rest)
  let (day, rest) ← digits? 1 2 (← after? '-' rest)
  if rest.isEmpty then
    guard (!isBare || t.length = 10)
    return ⟨year, month, day, none⟩
  let time := ((after? 'T' rest).or (after? 't' rest)).getD (withoutBlanks rest)
  guard (time.length < rest.length)
  return ⟨year, month, day, some (← clock? time)⟩

/-! ## The meaning of a bare text -/

/-- The spellings of truth values. -/
def truths : List (Text × Bool) :=
  [("yes", true), ("no", false), ("true", true), ("false", false), ("on", true), ("off", false)]

/-- Whether a text is in one case, or has one capital in front. -/
def isInOneCase (t : Text) : Bool :=
  let small : Text := t.map CodePoint.lowerAscii
  t = small || t = Text.upper small || t = Text.upper (small.take 1) ++ small.drop 1

/-- The marks in front of names and tags. No bare text begins with one. -/
def labelMarks : List Text := ["!", "&", "*"]

/-- What a bare text stands for, or another one that a tag treats as if it were bare. A line feed at
its end does not matter for its form. -/
def Meaning.ofBare (written : Text) : Meaning :=
  let t := written.withoutLineFeed
  let small := t.map CodePoint.lowerAscii
  if written.isEmpty || t = "~" then .null
  else if small = "null" && isInOneCase t then .null
  else if (truths.lookup small).isSome && isInOneCase t then .truth
  else if isDecimal t then .decimal
  else if isNatural (unsigned t) then .integer
  else if t = "<<" then .merge
  else if (moment? true t).isSome then .moment
  else if t = "=" then .default
  else if labelMarks.contains t then .unknown
  else .text

/-- The beginning of the tags that are known. -/
def commonBeginning : Text := "tag:yaml.org,2002:"

/-- The known tags without their common beginning. -/
def knownTags : List (Text × Meaning) :=
  [("str", .text), ("null", .null), ("bool", .truth), ("int", .integer), ("float", .decimal),
    ("timestamp", .moment), ("binary", .octets), ("seq", .list), ("omap", .pairs),
    ("pairs", .pairs), ("set", .set), ("map", .map), ("merge", .merge), ("value", .default)]

/-- What a tag stands for. -/
def Meaning.ofTag (tag : Text) : Meaning :=
  let size := commonBeginning.length
  if tag.take size = commonBeginning then (knownTags.lookup (tag.drop size)).getD .unknown
  else .unknown

/-! ## Values -/

/-- The number that digits denote in a base. -/
def natural? (base : Nat) (digits : Text) : Option Nat := do
  let values ← digits.mapM fun c => c.decimalValue?.or c.hexValue?
  if digits.isEmpty || values.any (base ≤ ·) then none
  else return values.foldl (fun n d => base * n + d) 0

/-- The integer that a text denotes in a base. A zero and the letter of the base may stand in front
of the digits. -/
def inBase? (base : Nat) (letter : Char) (t : Text) : Option Int :=
  t.signed? fun
    | zero :: c :: digits =>
      if zero = CodePoint.ofChar '0' && c.lowerAscii = CodePoint.ofChar letter then
        natural? base digits
      else natural? base (zero :: c :: digits)
    | digits => natural? base digits

/-- The number that a text without a sign denotes. -/
def readNatural? (t : Text) : Option Int :=
  let places := t.splitOn sixtyMark
  if t = "0" then some 0
  else if (after? '0' t).isSome then
    if (t.drop 1).head? = some (CodePoint.ofChar 'b') then inBase? 2 'b' (t.drop 2)
    else if (t.drop 1).head? = some (CodePoint.ofChar 'x') then inBase? 16 'x' (t.drop 2)
    else inBase? 8 'o' t
  else if places.length = 1 then t.integer?
  else (places.mapM Text.integer?).map fun ns => ns.foldl (fun n place => 60 * n + place) 0

/-- Whether a text without a sign spells a number: digits, perhaps with a point among them, and
perhaps an exponent. -/
def isSpelling (t : Text) : Bool :=
  let whole := t.takeWhile CodePoint.isAsciiDigit
  let behind := t.drop whole.length
  let places := ((after? '.' behind).getD []).takeWhile CodePoint.isAsciiDigit
  let tail := behind.drop (if (after? '.' behind).isSome then places.length + 1 else 0)
  !(whole ++ places).isEmpty &&
    match tail with
    | [] => true
    | letter :: exponent =>
      let digits := unsigned exponent
      letter = CodePoint.ofChar 'e' && !digits.isEmpty && digits.all CodePoint.isAsciiDigit

/-- The number that a text in small letters spells, with blanks around it and a sign in front of it.
The digits may be those of any script. -/
def readSpelling? (t : Text) : Option Binary64 :=
  let plain := t.trimmed.map fun c => (c.decimalValue?.map CodePoint.ofDigit).getD c
  let size := unsigned plain
  let negative := (after? '-' plain).isSome
  let minus : Text := if negative then "-" else []
  if size = "inf" || size = "infinity" then some (.infinite negative)
  else if size = "nan" then some .notANumber
  else if isSpelling size then some (.ofSpelling (minus ++ size))
  else none

/-- The most places of sixty of a number whose first place is still in reach. -/
def mostSixtieths : Nat := 174

/-- The number that places of sixty denote, rounded at every step. -/
def ofSixtieths (places : List Binary64) : Binary64 :=
  let start : Binary64 × Nat := (.ofQuotient false 0 1, 1)
  (places.reverse.foldl (fun (x, base) place => (x.sum (place.times base), 60 * base)) start).1

/-- An integer. -/
def readInteger (t : Text) : Except Flaw Value :=
  let t := t.filter (· ≠ underscore)
  let size := unsigned t
  if size.isEmpty then .error .emptyNumber
  else
    match readNatural? size with
    | some n => .ok (.int (if (after? '-' t).isSome then -n else n))
    | none => .error .noNumber

/-- A number with a point. -/
def readDecimal (t : Text) : Except Flaw Value :=
  let t := (t.filter (· ≠ underscore)).map CodePoint.lowerAscii
  let size := unsigned t
  let withSign := fun (x : Binary64) =>
    Value.float (if (after? '-' t).isSome then x.opposite else x)
  if t.isEmpty then .error .emptyNumber
  else if size = ".inf" then .ok (withSign (.infinite false))
  else if size = ".nan" then .ok (.float .notANumber)
  else
    match (size.splitOn sixtyMark).mapM readSpelling? with
    | none => .error .noNumber
    | some [x] => .ok (withSign x)
    | some places => do
      refuseIf (mostSixtieths < places.length) .hugeNumber
      return withSign (ofSixtieths places)

/-- A moment. -/
def readMoment (t : Text) : Except Flaw Value := do
  match moment? false t.withoutLineFeed with
  | none => .error .noMoment
  | some m =>
    refuseIf (¬m.isReal) .impossibleMoment
    return .moment m

/-- Octets. -/
def readOctets (t : Text) : Except Flaw Value :=
  if t.any fun c => 0x80 ≤ c.val then .error .noOctets
  else
    match t.octets? with
    | some octets => .ok (.bytes octets)
    | none => .error .noOctets

/-- The value of a text that stands for something. -/
def Meaning.read (meaning : Meaning) (t : Text) : Except Flaw Value :=
  match meaning with
  | .text => .ok (.text t)
  | .null => .ok .null
  | .truth =>
    match truths.lookup (t.map CodePoint.lowerAscii) with
    | some b => .ok (.bool b)
    | none => .error .noTruthValue
  | .integer => readInteger t
  | .decimal => readDecimal t
  | .moment => readMoment t
  | .octets => readOctets t
  | .list | .pairs | .set | .map => .error .wrongShape
  | .merge | .default | .unknown => .error .meaningless

end PredictionMarket.Document
