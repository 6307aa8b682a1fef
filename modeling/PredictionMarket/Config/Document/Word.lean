import PredictionMarket.Config.Document.Page

/-!
# Words

What stands in a document without quotation marks: one word or several, over one line or several,
up to a colon or a comment.
-/

namespace PredictionMarket.Document

/-- The marks of lists and dictionaries that are written in brackets. -/
def bracketMarks : String :=
  ",[]\x7b\x7d"

/-- Whether a word ends before a code point. In brackets the marks of brackets end it too. -/
def endsWord (bracketed : Bool) (s : Spot) (rest : Page) : Bool :=
  isOver [s] || (comes ':' [s] && (isOver rest || (bracketed && comesAny bracketMarks rest))) ||
    (bracketed && (comesAny bracketMarks [s] || comes '?' [s]))

/-- One word, and what is left. -/
def word (bracketed : Bool) : Page → Text × Page
  | [] => ([], [])
  | s :: rest =>
    if endsWord bracketed s rest then ([], s :: rest)
    else
      let (t, left) := word bracketed rest
      (s.point :: t, left)

/-- Leaves spaces and line breaks out, and returns the breaks. -/
def emptyLines : Page → Except Flaw (Text × Page)
  | [] => .ok ([], [])
  | s :: rest => do
    if ← comesDivision (s :: rest) then return ([], s :: rest)
    if s.point = 0x20 then emptyLines rest
    else if isBreak s.point then do
      let (breaks, left) ← emptyLines rest
      return (breakPoint s.point :: breaks, left)
    else return ([], s :: rest)

/-- What is between two words of a text. -/
def wordGap (p : Page) : Except Flaw (Text × Page) :=
  let spaces := p.takeWhile (·.point = 0x20)
  match p.drop spaces.length with
  | [] => .ok (content spaces, [])
  | s :: rest =>
    if isBreak s.point then do
      let (breaks, left) ← emptyLines rest
      return (folded s.point breaks, left)
    else .ok (content spaces, s :: rest)

/-- The words that follow a word. They must not stand left of the margin. The truth value says
whether there is a line break between the last of them and what is left. -/
def moreWords (bracketed : Bool) (margin : Nat) :
    (fuel : Nat) → Page → Except Flaw (Text × Bool × Page)
  | 0, p => .ok ([], false, p)
  | fuel + 1, p => do
    let (between, next) ← wordGap p
    let crossed := (here next).line != (here p).line
    let outside := !bracketed && (here next).column < margin
    if between.isEmpty || outside || comes '#' next || isDivision next then
      return ([], crossed, next)
    let (t, left) := word bracketed next
    if comes ':' left then known 2 left
    if t.isEmpty then return ([], crossed, next)
    let (others, crossed, left) ← moreWords bracketed margin fuel left
    return (between ++ t ++ others, crossed, left)

/-- The words that come next as one text, whether a line break follows them, and what is left. -/
def words (bracketed : Bool) (margin : Nat) (p : Page) : Except Flaw (Text × Bool × Page) := do
  let (first, left) := word bracketed p
  if comes ':' left then known 2 left
  let (others, crossed, left) ← moreWords bracketed margin left.length left
  return (first ++ others, crossed, left)

/-- Whether a word may begin with what comes next. -/
def wordComes (bracketed : Bool) (p : Page) : Bool :=
  if comesAny "-?:" p then !isOver (p.drop 1) && (comes '-' p || !bracketed)
  else !isOver p && !comesAny ",[]\x7b\x7d#&*!|>'\"%@`" p

end PredictionMarket.Document
