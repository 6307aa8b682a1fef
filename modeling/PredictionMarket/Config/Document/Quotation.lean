import PredictionMarket.Config.Document.Page

/-!
# Quotations

A text between quotation marks may hold anything. Between single marks only the mark itself is
special, and is written twice. Between double marks a backslash names a code point, or joins two
lines. Line breaks fold as they do between words.
-/

namespace PredictionMarket.Document

/-- The code points that a letter after a backslash names. -/
def namedPoints : List (CodePoint × CodePoint) :=
  [('0', 0x0), ('a', 0x7), ('b', 0x8), ('t', 0x9), ('\t', 0x9), ('n', 0xA), ('v', 0xB), ('f', 0xC),
    ('r', 0xD), ('e', 0x1B), (' ', 0x20), ('"', 0x22), ('/', 0x2F), ('\\', 0x5C), ('N', 0x85),
    ('_', 0xA0), ('L', 0x2028), ('P', 0x2029)].map fun (letter, p) => (CodePoint.ofChar letter, p)

/-- The number of hexadecimal digits that a letter after a backslash asks for. -/
def digitCount? (letter : CodePoint) : Option Nat :=
  if letter = CodePoint.ofChar 'x' then some 2
  else if letter = CodePoint.ofChar 'u' then some 4
  else if letter = CodePoint.ofChar 'U' then some 8
  else none

/-- The code point that comes next by a number of hexadecimal digits, and what is left. -/
def numberedPoint (count : Nat) (p : Page) : Except Flaw (CodePoint × Page) := do
  let values := (content (p.take count)).map CodePoint.hexValue?
  let digits := values.takeWhile Option.isSome
  refuseIf (digits.length < count) (unreadable (p.drop digits.length))
  let n := digits.foldl (fun n d => 16 * n + d.getD 0) 0
  if h : n < 0x110000 then .ok (⟨n, h⟩, p.drop count)
  else if n < 0x80000000 then .error .noCodePoint
  else .error .hugeCodePoint

/-- Leaves blanks and line breaks out, and returns the breaks. A document must not end here. -/
def quotedLines : Page → Except Flaw (Text × Page)
  | [] => .ok ([], [])
  | s :: rest => do
    refuseIf (← comesDivision (s :: rest)) .unreadable
    if isBlank s.point then quotedLines rest
    else if isBreak s.point then do
      let (breaks, left) ← quotedLines rest
      return (breakPoint s.point :: breaks, left)
    else .ok ([], s :: rest)

/-- What a backslash and the code points after it stand for. -/
def escaped : Page → Except Flaw (Text × Page)
  | [] => .error .unreadable
  | s :: rest =>
    match namedPoints.lookup s.point, digitCount? s.point with
    | some p, _ => .ok ([p], rest)
    | none, some n => do
      let (p, left) ← numberedPoint n rest
      return ([p], left)
    | none, none =>
      if isBreak s.point then quotedLines rest else .error (unreadable (s :: rest))

/-- What blanks and line breaks between marks stand for. -/
def quotedGap (p : Page) : Except Flaw (Text × Page) :=
  let blanks := p.takeWhile (isBlank ·.point)
  match p.drop blanks.length with
  | [] => .error .unreadable
  | s :: rest =>
    if isEnd s.point then .error (unreadable (s :: rest))
    else if isBreak s.point then do
      let (breaks, left) ← quotedLines rest
      return (folded s.point breaks, left)
    else .ok (content blanks, s :: rest)

/-- A text up to its closing mark, and what is left. -/
def quotationFrom (isDouble : Bool) : (fuel : Nat) → Page → Except Flaw (Text × Page)
  | 0, _ => .error .unreadable
  | _, [] => .error .unreadable
  | fuel + 1, s :: rest =>
    let mark := if isDouble then '"' else '\''
    if s.point = CodePoint.ofChar mark then
      if !isDouble && comes mark rest then do
        let (t, left) ← quotationFrom isDouble fuel (rest.drop 1)
        return (s.point :: t, left)
      else .ok ([], rest)
    else if isDouble && s.point = CodePoint.ofChar '\\' then do
      let (p, left) ← escaped rest
      let (t, left) ← quotationFrom isDouble fuel left
      return (p ++ t, left)
    else if isOver (s :: rest) then do
      let (between, left) ← quotedGap (s :: rest)
      let (t, left) ← quotationFrom isDouble fuel left
      return (between ++ t, left)
    else do
      let (t, left) ← quotationFrom isDouble fuel rest
      return (s.point :: t, left)

/-- A text from its opening mark on, and what is left. -/
def quotation (p : Page) : Except Flaw (Text × Page) :=
  quotationFrom (comes '"' p) p.length (p.drop 1)

end PredictionMarket.Document
