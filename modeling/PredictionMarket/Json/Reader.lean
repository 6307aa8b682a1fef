import PredictionMarket.Value
import PredictionMarket.Text.Digits

/-!
# Reading JSON

The dialect of texts on the wire. Blanks are space, tabulator, line feed and carriage return. A
number with a fraction or an exponent is not an integer; `NaN`, `Infinity` and `-Infinity` are
numbers. A string may hold any code point from U+0020 on, and an escape may name a lone surrogate;
two escapes in a row that form a surrogate pair are one code point. A key that occurs again keeps
its place and takes the later value. Nothing may follow the value but blanks. An integer may not
have too many digits; where one does, reading ends, and the text may be well formed or not.

Reading is by recursive descent. Each step takes one unit of fuel, and a text of `n` code points
needs at most `2 * n` of them, so `read` starts with enough.
-/

namespace PredictionMarket.Json

/-- Why a text is not read, the first reason in it. -/
inductive ReadError where
  /-- The text is not JSON. -/
  | malformed
  /-- An integer has too many digits. -/
  | tooManyDigits
  deriving DecidableEq

/-- The blanks between tokens. -/
def isBlank (c : CodePoint) : Bool :=
  c.val = 32 || c.val = 9 || c.val = 10 || c.val = 13

/-- The text from its first token on. -/
def skipBlanks (t : Text) : Text :=
  t.dropWhile isBlank

/-- The text after the given beginning, if it begins so. -/
def after? (beginning t : Text) : Option Text :=
  if beginning.isPrefixOf t then some (t.drop beginning.length) else none

/-! ## Strings -/

/-- A code point of a string, and whether an escape by number named it. -/
structure Piece where
  /-- The code point. -/
  point : CodePoint
  /-- It was written by its number. -/
  escaped : Bool

/-- Whether a piece is the first half of a surrogate pair. -/
def Piece.isHigh (p : Piece) : Bool :=
  p.escaped && 0xD800 ≤ p.point.val && p.point.val ≤ 0xDBFF

/-- Whether a piece is the second half of a surrogate pair. -/
def Piece.isLow (p : Piece) : Bool :=
  p.escaped && 0xDC00 ≤ p.point.val && p.point.val ≤ 0xDFFF

/-- Puts a piece before the pieces after it; two halves of a pair become one code point. -/
def Piece.place (p : Piece) : List Piece → List Piece
  | [] => [p]
  | q :: rest =>
    if p.isHigh && q.isLow then
      let pair := 0x10000 + (p.point.val - 0xD800) * 0x400 + (q.point.val - 0xDC00)
      ⟨Fin.ofNat 0x110000 pair, false⟩ :: rest
    else p :: q :: rest

/-- The text of the pieces read so far, the last one first. -/
def Piece.textOf (done : List Piece) : Text :=
  (done.foldl (fun rest p => p.place rest) []).map Piece.point

/-- The code point that an escape letter stands for. -/
def escapeLetter? (c : CodePoint) : Option CodePoint :=
  if c = CodePoint.ofChar '"' || c = CodePoint.ofChar '\\' || c = CodePoint.ofChar '/' then some c
  else if c = CodePoint.ofChar 'b' then some 8
  else if c = CodePoint.ofChar 'f' then some 12
  else if c = CodePoint.ofChar 'n' then some 10
  else if c = CodePoint.ofChar 'r' then some 13
  else if c = CodePoint.ofChar 't' then some 9
  else none

/-- The code point of four hexadecimal digits. -/
def hexPoint? (a b c d : CodePoint) : Option CodePoint := do
  let a ← a.hexValue?
  let b ← b.hexValue?
  let c ← c.hexValue?
  let d ← d.hexValue?
  return Fin.ofNat 0x110000 (((a * 16 + b) * 16 + c) * 16 + d)

/-- Reads a string after its opening quotation mark. `done` holds the pieces read, the last
first. -/
def readString (t : Text) (done : List Piece) : Option (Text × Text) :=
  match t with
  | [] => none
  | c :: t =>
    if c = CodePoint.ofChar '"' then some (Piece.textOf done, t)
    else if c = CodePoint.ofChar '\\' then
      match t with
      | [] => none
      | letter :: t =>
        if letter = CodePoint.ofChar 'u' then
          match t with
          | a :: b :: c :: d :: t =>
            match hexPoint? a b c d with
            | some p => readString t (⟨p, true⟩ :: done)
            | none => none
          | _ => none
        else
          match escapeLetter? letter with
          | some p => readString t (⟨p, false⟩ :: done)
          | none => none
    else if c.val < 0x20 then none
    else readString t (⟨c, false⟩ :: done)

/-! ## Numbers -/

/-- The digits at the beginning of a text, and the rest. -/
def readDigits (t : Text) : Text × Text :=
  t.span CodePoint.isAsciiDigit

/-- The number that ASCII digits denote. -/
def digitsValue (digits : Text) : Nat :=
  Text.ofDigitValues (digits.map fun c => c.val - 48)

/-- A fraction: a point and digits. Without a digit after the point there is no fraction. -/
def readFraction (t : Text) : Text × Text :=
  match t with
  | [] => ([], t)
  | c :: rest =>
    if c = CodePoint.ofChar '.' then
      match readDigits rest with
      | ([], _) => ([], t)
      | (digits, rest) => (c :: digits, rest)
    else ([], t)

/-- An exponent: a letter, an optional sign and digits. -/
def readExponent (t : Text) : Text × Text :=
  match t with
  | [] => ([], t)
  | c :: rest =>
    if c = CodePoint.ofChar 'e' || c = CodePoint.ofChar 'E' then
      let (sign, rest) := match rest with
        | s :: unsigned =>
          if s = CodePoint.ofChar '+' || s = CodePoint.ofChar '-' then ([s], unsigned)
          else ([], rest)
        | [] => ([], rest)
      match readDigits rest with
      | ([], _) => ([], t)
      | (digits, rest) => (c :: sign ++ digits, rest)
    else ([], t)

/-- Reads a number without its sign; `sign` is the sign that was read. A leading zero stands
alone. -/
def readUnsigned (sign t : Text) : Except ReadError (Value × Text) :=
  match readDigits t with
  | ([], _) => .error .malformed
  | (first :: more, rest) =>
    let (digits, rest) :=
      if first = CodePoint.ofChar '0' then ([first], more ++ rest) else (first :: more, rest)
    let (fraction, rest) := readFraction rest
    let (exponent, rest) := readExponent rest
    if fraction.isEmpty && exponent.isEmpty then
      if Text.digitLimit < digits.length then .error .tooManyDigits
      else
        let n : Int := digitsValue digits
        .ok (.int (if sign.isEmpty then n else -n), rest)
    else .ok (.float (.ofSpelling (sign ++ digits ++ fraction ++ exponent)), rest)

/-- Reads a number. -/
def readNumber (t : Text) : Except ReadError (Value × Text) :=
  match t with
  | [] => .error .malformed
  | c :: rest =>
    if c = CodePoint.ofChar '-' then readUnsigned [c] rest else readUnsigned [] t

/-- The words that are values. -/
def words : List (Text × Value) :=
  [("null", .null), ("true", .bool true), ("false", .bool false), ("NaN", .float .notANumber),
    ("Infinity", .float (.infinite false)), ("-Infinity", .float (.infinite true))]

/-- Reads a word or a number. -/
def readScalar (t : Text) : Except ReadError (Value × Text) :=
  match words.findSome? fun (word, v) => (after? word t).map (v, ·) with
  | some result => .ok result
  | none => readNumber t

/-! ## Values -/

mutual

/-- Reads a value at the beginning of a text, and returns the rest. -/
def readValue : (fuel : Nat) → Text → Except ReadError (Value × Text)
  | 0, _ => .error .malformed
  | _ + 1, [] => .error .malformed
  | fuel + 1, c :: t =>
    if c = CodePoint.ofChar '"' then
      match readString t [] with
      | some (s, rest) => .ok (.text s, rest)
      | none => .error .malformed
    else if c = CodePoint.ofChar '[' then
      match after? "]" (skipBlanks t) with
      | some rest => .ok (.list [], rest)
      | none => readItems fuel (skipBlanks t) []
    else if c = CodePoint.ofChar '\x7b' then
      match after? "\x7d" (skipBlanks t) with
      | some rest => .ok (.object [], rest)
      | none => readMembers fuel (skipBlanks t) []
    else readScalar (c :: t)

/-- Reads the items of a list up to its end. `done` holds the items read, the last first. -/
def readItems : (fuel : Nat) → Text → List Value → Except ReadError (Value × Text)
  | 0, _, _ => .error .malformed
  | fuel + 1, t, done =>
    match readValue fuel t with
    | .error e => .error e
    | .ok (v, rest) =>
      match skipBlanks rest with
      | [] => .error .malformed
      | c :: rest =>
        if c = CodePoint.ofChar ']' then .ok (.list (v :: done).reverse, rest)
        else if c = CodePoint.ofChar ',' then readItems fuel (skipBlanks rest) (v :: done)
        else .error .malformed

/-- Reads the members of a dictionary up to its end. `done` holds the members read, in order. -/
def readMembers : (fuel : Nat) → Text → List (Value × Value) → Except ReadError (Value × Text)
  | 0, _, _ => .error .malformed
  | fuel + 1, t, done =>
    match (after? "\"" t).bind (readString · []) with
    | none => .error .malformed
    | some (key, rest) =>
      match after? ":" (skipBlanks rest) with
      | none => .error .malformed
      | some rest =>
        match readValue fuel (skipBlanks rest) with
        | .error e => .error e
        | .ok (v, rest) =>
          match skipBlanks rest with
          | [] => .error .malformed
          | c :: rest =>
            if c = CodePoint.ofChar '\x7d' then .ok (.object (Value.put key v done), rest)
            else if c = CodePoint.ofChar ',' then
              readMembers fuel (skipBlanks rest) (Value.put key v done)
            else .error .malformed

end

/-- The value that a text denotes, if it is one JSON value with blanks around it. -/
def read (t : Text) : Except ReadError Value :=
  match readValue (2 * t.length + 2) (skipBlanks t) with
  | .ok (v, rest) => if (skipBlanks rest).isEmpty then .ok v else .error .malformed
  | .error e => .error e

/-- The value that a text denotes, or nothing, for whatever reason. -/
def read? (t : Text) : Option Value :=
  (read t).toOption

end PredictionMarket.Json
