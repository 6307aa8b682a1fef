import PredictionMarket.ErrorKind
import PredictionMarket.Guard
import PredictionMarket.Text

/-!
# Pages

The indentation of a document says what belongs to what, so every code point is kept together with
the line and the column in which it stands. The end has its place too: a page ends with the code
point zero, which no document may hold. Between the parts of a document there may be blanks,
comments and line breaks. Three dashes or three points alone at the left margin divide documents.

A document comes in pieces. A piece with a code point that no document may hold cannot be had, and
the page is torn off in front of it. A flaw in front of the tear is found first, and any other
reading stops there.
-/

namespace PredictionMarket.Document

/-- A code point with its place. -/
structure Spot where
  /-- The number of code points before it. -/
  index : Nat
  /-- The number of line breaks before it. -/
  line : Nat
  /-- The number of code points before it in its line, marks of the byte order left out. -/
  column : Nat
  /-- The code point. -/
  point : CodePoint

/-- A document, or what is left of it. -/
abbrev Page := List Spot

/-! ## Code points -/

/-- Whether a code point ends a line. -/
def isBreak (c : CodePoint) : Bool :=
  c.val = 0xA || c.val = 0x85 || c.val = 0x2028 || c.val = 0x2029

/-- The code point at the end of a page. -/
def endPoint : CodePoint := 0

/-- The code point at the end of a page that is torn off. It stands in no document. -/
def tornPoint : CodePoint := 0xFFFF

/-- Whether a page ends with a code point. -/
def isEnd (c : CodePoint) : Bool :=
  c = endPoint || c = tornPoint

/-- The mark of the byte order, which takes no room on a line. -/
def orderMark : CodePoint := 0xFEFF

/-- Whether a code point is a blank: a space or a tabulator. -/
def isBlank (c : CodePoint) : Bool :=
  c.val = 0x20 || c.val = 0x9

/-- Whether a document may hold a code point. -/
def isAllowed (c : CodePoint) : Bool :=
  c.val = 0x9 || c.val = 0xA || c.val = 0xD || c.val = 0x85 || (0x20 ≤ c.val && c.val ≤ 0x7E) ||
    (0xA0 ≤ c.val && c.val ≤ 0xD7FF) || (0xE000 ≤ c.val && c.val ≤ 0xFFFD) || 0x10000 ≤ c.val

/-- The code point that stands for a line break in a text. -/
def breakPoint (c : CodePoint) : CodePoint :=
  if c.val = 0x85 then 0xA else c

/-! ## Layout -/

/-- A text in which a carriage return, alone or before a line feed, is a line feed. -/
def withLineFeeds : Text → Text
  | [] => []
  | c :: rest =>
    if c ≠ 0xD then c :: withLineFeeds rest
    else if rest.head? = some 0xA then withLineFeeds rest
    else 0xA :: withLineFeeds rest

/-- A text with the place of every code point and of its end, from a place on. -/
def layOut (ending : CodePoint) (index line column : Nat) : Text → Page
  | [] => [⟨index, line, column, ending⟩]
  | c :: rest =>
    ⟨index, line, column, c⟩ :: (if isBreak c then layOut ending (index + 1) (line + 1) 0 rest
      else layOut ending (index + 1) line (if c = orderMark then column else column + 1) rest)

/-- The number of code points of a piece. -/
def pieceLength : Nat := 4096

/-- Where the piece with the code point of an index begins. The first two pieces come at once. -/
def pieceStart (index : Nat) : Nat :=
  if index < 2 * pieceLength then 0 else index / pieceLength * pieceLength

/-- The page of a text. A mark of the byte order in front is not part of it. -/
def page (t : Text) : Page :=
  let t := withLineFeeds t
  let (t, ending) := match t.findIdx? (!isAllowed ·) with
    | none => (t, endPoint)
    | some index => (t.take (pieceStart index), tornPoint)
  let first := if t.head? = some orderMark then 1 else 0
  layOut ending first 0 0 (t.drop first)

/-- The code points of a page. -/
def content (p : Page) : Text :=
  p.map Spot.point

/-! ## What comes next -/

/-- Whether a character comes next. -/
def comes (c : Char) : Page → Bool
  | [] => false
  | s :: _ => s.point = CodePoint.ofChar c

/-- Whether the end comes next. -/
def isAtEnd : Page → Bool
  | [] => true
  | s :: _ => isEnd s.point

/-- Whether the page is torn off here. -/
def isTorn : Page → Bool
  | [] => false
  | s :: _ => s.point = tornPoint

/-- Why reading stops where something comes next that cannot stand there. -/
def unreadable (p : Page) : Flaw :=
  if isTorn p then .unprintable else .unreadable

/-- Makes sure that the page is not torn off before some of the next code points. -/
def known (count : Nat) (p : Page) : Except Flaw Unit :=
  refuseIf ((p.take count).any fun s => s.point = tornPoint) .unprintable

/-- Whether a line break or the end comes next. -/
def isAtLineEnd : Page → Bool
  | [] => true
  | s :: _ => isBreak s.point || isEnd s.point

/-- Whether nothing comes next that belongs to what was before: a blank, a line break or the
end. -/
def isOver : Page → Bool
  | [] => true
  | s :: rest => isBlank s.point || isAtLineEnd (s :: rest)

/-- The place where a page begins. -/
def here (p : Page) : Spot :=
  p.headD ⟨0, 0, 0, endPoint⟩

/-- Whether one of some characters comes next. -/
def comesAny (marks : String) : Page → Bool
  | [] => false
  | s :: _ => (Text.ofString marks).contains s.point

/-- Whether a character comes next as a mark, that is, with nothing attached to it. -/
def marks (c : Char) (p : Page) : Bool :=
  comes c p && isOver (p.drop 1)

/-- Whether three characters come next at the left margin, with nothing attached to them. -/
def divides (word : String) (p : Page) : Bool :=
  match p with
  | [] => false
  | s :: _ => s.column = 0 && content (p.take 3) = Text.ofString word && isOver (p.drop 3)

/-- Whether a division of documents comes next. -/
def isDivision (p : Page) : Bool :=
  divides "---" p || divides "..." p

/-- Whether a division of documents comes next, where one may come. -/
def comesDivision (p : Page) : Except Flaw Bool := do
  if (here p).column = 0 then
    known 3 p
    let next := content (p.take 3)
    if next = Text.ofString "---" || next = Text.ofString "..." then known 4 p
  return isDivision p

/-- Leaves blanks, comments and line breaks out. The truth values say whether a part may begin a
line here, which a line break makes true, and whether a comment is being left out. -/
def gap (fresh inComment : Bool) : Page → Bool × Page
  | [] => (fresh, [])
  | s :: rest =>
    if isEnd s.point then (fresh, s :: rest)
    else if isBreak s.point then gap true false rest
    else if inComment || s.point = 0x20 then gap fresh inComment rest
    else if s.point = CodePoint.ofChar '#' then gap fresh true rest
    else (fresh, s :: rest)

/-- Leaves spaces out. -/
def skipSpaces (p : Page) : Page :=
  p.dropWhile (·.point = 0x20)

/-- Leaves what is left of a line out, which may be a comment, and its break. -/
def restOfLine (p : Page) : Except Flaw Page :=
  let next := skipSpaces p
  let next := if comes '#' next then next.dropWhile (!isAtLineEnd [·]) else next
  if isAtEnd next then .ok next
  else if isAtLineEnd next then .ok (next.drop 1)
  else .error (unreadable next)

/-- What a line break and those after it become in a text: a single one becomes a space, and of
several the first is dropped. -/
def folded (first : CodePoint) (others : Text) : Text :=
  if breakPoint first ≠ 0xA then first :: others
  else if others.isEmpty then [0x20]
  else others

end PredictionMarket.Document
