import PredictionMarket.Config.Document.Page
import PredictionMarket.Text.Digits

/-!
# Labels

A part of a document can be given a name, after an ampersand, and be called by it later, after an
asterisk. It can have a tag, after an exclamation mark, that says what it stands for. A line that
begins with a percent sign directs how a document is read: it gives the version of its rules, or
introduces a handle, with which tags begin.
-/

namespace PredictionMarket.Document

/-- What is said about a document in front of it. -/
inductive Directive where
  /-- The version of the rules, of which the first number counts. -/
  | version (major : Nat)
  /-- A handle, and the beginning of the tags that begin with it. -/
  | handle (name beginning : Text)
  /-- Something else. -/
  | other

/-- Whether a code point may stand in a name. -/
def isNamePoint (c : CodePoint) : Bool :=
  c.isAsciiDigit || (65 ≤ c.val && c.val ≤ 90) || (97 ≤ c.val && c.val ≤ 122) ||
    c = CodePoint.ofChar '-' || c = CodePoint.ofChar '_'

/-- The code points of a name that come next, and what is left. -/
def nameText (p : Page) : Text × Page :=
  let t := content (p.takeWhile (isNamePoint ·.point))
  (t, p.drop t.length)

/-- Whether a space, a line break or the end comes next. -/
def isApart (p : Page) : Bool :=
  comes ' ' p || isAtLineEnd p

/-- Makes sure that a space, a line break or the end comes next. -/
def apart (p : Page) : Except Flaw Unit :=
  refuseIf (¬isApart p) (unreadable p)

/-- Leaves a character out, which must come next. -/
def expect (c : Char) (p : Page) : Except Flaw Page := do
  refuseIf (¬comes c p) (unreadable p)
  return p.drop 1

/-- A name after its mark, and what is left. -/
def name (p : Page) : Except Flaw (Text × Page) := do
  let (t, left) := nameText (p.drop 1)
  refuseIf t.isEmpty (unreadable left)
  refuseIf (¬(isOver left || comesAny "?:,]\x7d%@`" left)) (unreadable left)
  return (t, left)

/-! ## Tags -/

/-- An octet by its number: two hexadecimal digits after a percent sign. -/
def tagOctet (p : Page) : Except Flaw (UInt8 × Page) := do
  let digits := (content (p.take 2)).map CodePoint.hexValue?
  match digits with
  | [some high, some low] => return (UInt8.ofNat (16 * high + low), p.drop 2)
  | some _ :: _ => .error (unreadable (p.drop 1))
  | _ => .error (unreadable p)

/-- The octets by their numbers that come next, and what is left. -/
def tagOctets : (fuel : Nat) → Page → Except Flaw (List UInt8 × Page)
  | 0, p => .ok ([], p)
  | fuel + 1, p =>
    if comes '%' p then do
      let (octet, left) ← tagOctet (p.drop 1)
      let (octets, left) ← tagOctets fuel left
      return (octet :: octets, left)
    else do
      known 1 p
      return ([], p)

/-- The text that octets encode. -/
def decoded (octets : List UInt8) : Except Flaw Text :=
  match String.fromUTF8? ⟨octets.toArray⟩ with
  | some s => .ok s
  | none => .error .unreadable

/-- The code points of a tag that come next, and what is left. -/
def tagPoints : (fuel : Nat) → Page → Except Flaw (Text × Page)
  | 0, p => .ok ([], p)
  | _, [] => .ok ([], [])
  | fuel + 1, s :: rest =>
    if s.point = CodePoint.ofChar '%' then do
      let (octets, left) ← tagOctets rest.length (s :: rest)
      let t ← decoded octets
      let (others, left) ← tagPoints fuel left
      return (t ++ others, left)
    else if isNamePoint s.point || comesAny ";/?:@&=+$,.!~*'()[]" [s] then do
      let (t, left) ← tagPoints fuel rest
      return (s.point :: t, left)
    else .ok ([], s :: rest)

/-- The text of a tag, which must not be empty. -/
def tagText (p : Page) : Except Flaw (Text × Page) := do
  let (t, left) ← tagPoints p.length p
  refuseIf t.isEmpty (unreadable left)
  return (t, left)

/-- A handle: an exclamation mark alone or a name between two of them. -/
def handle (p : Page) : Except Flaw (Text × Page) := do
  let (t, left) := nameText (← expect '!' p)
  if t.isEmpty && comes ' ' left then return ("!", left)
  return ("!" ++ t ++ "!", ← expect '!' left)

/-- A tag without its handle, if it has one, from its mark on. -/
def tag (p : Page) : Except Flaw (Option Text × Text × Page) := do
  let next := p.drop 1
  let run := next.takeWhile (!isApart [·])
  let (first, t, left) ←
    if comes '<' next then do
      let (t, left) ← tagText (next.drop 1)
      pure (none, t, ← expect '>' left)
    else if isOver next then pure (none, ("!" : Text), next)
    else if run.any (comes '!' [·]) then do
      let (h, left) ← handle p
      let (t, left) ← tagText left
      pure (some h, t, left)
    else do
      known 1 (next.drop run.length)
      let (t, left) ← tagText next
      pure (some ("!" : Text), t, left)
  apart left
  return (first, t, left)

/-! ## Directives -/

/-- A number that comes next. -/
def versionNumber (p : Page) : Except Flaw (Nat × Page) := do
  let digits := content (p.takeWhile (·.point.isAsciiDigit))
  refuseIf digits.isEmpty (unreadable p)
  return (Text.ofDigitValues (digits.map fun c => c.val - 48), p.drop digits.length)

/-- A version: two numbers with a point between them. -/
def version (p : Page) : Except Flaw (Nat × Page) := do
  let (major, left) ← versionNumber (skipSpaces p)
  let (_, left) ← versionNumber (← expect '.' left)
  apart left
  return (major, left)

/-- A handle and the beginning of tags that it stands for. -/
def handleLine (p : Page) : Except Flaw (Text × Text × Page) := do
  let (h, left) ← handle (skipSpaces p)
  let (t, left) ← tagText (skipSpaces (← expect ' ' left))
  apart left
  return (h, t, left)

/-- A directive from its mark on, with its line. -/
def directive (p : Page) : Except Flaw (Directive × Page) := do
  let (t, left) := nameText (p.drop 1)
  refuseIf t.isEmpty (unreadable left)
  apart left
  let (d, left) ←
    if t = "YAML" then do
      let (major, left) ← version left
      pure (Directive.version major, left)
    else if t = "TAG" then do
      let (h, t, left) ← handleLine left
      pure (Directive.handle h t, left)
    else pure (Directive.other, left.dropWhile (!isAtLineEnd [·]))
  return (d, ← restOfLine left)

end PredictionMarket.Document
