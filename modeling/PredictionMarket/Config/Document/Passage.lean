import PredictionMarket.Config.Document.Page

/-!
# Passages

A text may be written as indented lines after a mark: a bar keeps its line breaks, and an angle
bracket folds them as between words, but not around lines that begin with a blank. The mark may be
followed by the depth of the indentation, which is otherwise that of the first line, and by a sign:
minus drops the last line break, and plus keeps all empty lines at the end.
-/

namespace PredictionMarket.Document

/-- What is said beside the mark of a passage. -/
structure Heading where
  /-- Whether all line breaks at the end are kept, or none; only one if nothing is said. -/
  keepsBreaks : Option Bool := none
  /-- The depth of the indentation. -/
  depth : Option Nat := none

/-- A sign, if one comes next, and what is left. -/
def headingSign (p : Page) : Option Bool × Page :=
  if comes '+' p then (some true, p.drop 1)
  else if comes '-' p then (some false, p.drop 1)
  else (none, p)

/-- A depth, if one comes next, and what is left. It must not be zero. -/
def headingDepth (p : Page) : Except Flaw (Option Nat × Page) :=
  let point := (here p).point
  if point.isAsciiDigit then
    if comes '0' p then .error .unreadable else .ok (some (point.val - 48), p.drop 1)
  else .ok (none, p)

/-- What is said beside the mark of a passage up to the next line, in either order. -/
def heading (p : Page) : Except Flaw (Heading × Page) := do
  let (first, left) := headingSign p
  let (depth, left) ← headingDepth left
  let (second, left) := if first.isNone && depth.isSome then headingSign left else (none, left)
  refuseIf (¬(comes ' ' left || isAtLineEnd left)) (unreadable left)
  return (⟨first.or second, depth⟩, ← restOfLine left)

/-- The line breaks in front of a passage, and the farthest column that spaces reach there. -/
def emptyFront (farthest : Nat) : Page → Text × Nat × Page
  | [] => ([], farthest, [])
  | s :: rest =>
    if s.point = 0x20 then emptyFront (max farthest (s.column + 1)) rest
    else if isBreak s.point then
      let (breaks, farthest, left) := emptyFront farthest rest
      (breakPoint s.point :: breaks, farthest, left)
    else ([], farthest, s :: rest)

/-- The line breaks up to the next line with something right of a column. -/
def emptyUpTo (column : Nat) : Page → Text × Page
  | [] => ([], [])
  | s :: rest =>
    if s.point = 0x20 && s.column < column then emptyUpTo column rest
    else if isBreak s.point then
      let (breaks, left) := emptyUpTo column rest
      (breakPoint s.point :: breaks, left)
    else ([], s :: rest)

/-- Whether a line of a passage comes next. -/
def hasLine (column : Nat) (p : Page) : Bool :=
  (here p).column = column && !isAtEnd p

/-- The lines of a passage, given the line breaks before them: the text up to the last line, its
line break, those of the empty lines after it, and what is left. -/
def passageLines (isFolded : Bool) (column : Nat) :
    (fuel : Nat) → Text → Page → Text × Text × Text × Page
  | 0, breaks, p => ([], [], breaks, p)
  | fuel + 1, breaks, p =>
    if hasLine column p then
      let line := content (p.takeWhile (!isAtLineEnd [·]))
      let behind := p.drop line.length
      let (ending, behind) : Text × Page :=
        if isAtEnd behind then ([], behind) else ([breakPoint (here behind).point], behind.drop 1)
      let (next, behind) := emptyUpTo column behind
      if hasLine column behind then
        let isJoined := isFolded && ending = [0xA] && !isOver p && !isOver behind
        let between : Text := if !isJoined then ending else if next.isEmpty then [0x20] else []
        let (others, ending, last, left) := passageLines isFolded column fuel next behind
        (breaks ++ line ++ between ++ others, ending, last, left)
      else (breaks ++ line, ending, next, behind)
    else ([], [], breaks, p)

/-- A passage from its mark on, below a part that stands in a column; minus one is left of
everything. -/
def passage (column : Int) (p : Page) : Except Flaw (Text × Page) := do
  let (heading, left) ← heading (p.drop 1)
  let least := (max (column + 1) 1).toNat
  let (breaks, depth, left) := match heading.depth with
    | some depth =>
      let depth := least + depth - 1
      let (breaks, left) := emptyUpTo depth left
      (breaks, depth, left)
    | none =>
      let (breaks, farthest, left) := emptyFront 0 left
      (breaks, max least farthest, left)
  let (t, ending, last, left) := passageLines (comes '>' p) depth left.length breaks left
  let ending := if heading.keepsBreaks = some false then [] else ending
  let last := if heading.keepsBreaks = some true then last else []
  return (t ++ ending ++ last, left)

end PredictionMarket.Document
