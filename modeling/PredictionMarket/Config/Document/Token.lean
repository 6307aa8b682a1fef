import PredictionMarket.Config.Document.Label
import PredictionMarket.Config.Document.Passage
import PredictionMarket.Config.Document.Quotation
import PredictionMarket.Config.Document.Word

/-!
# Tokens

A document is a sequence of tokens: texts, names and tags, the marks between them, and the begin and
end of every list and dictionary, which indentation alone may say. That a text or something in
brackets is a key is known only when a colon follows on the same line, so whatever may turn out to
be a key is remembered, and the tokens from there on are not settled yet.

If a document cannot be read on, its tokens end with the flaw. What was not settled before it is
left out. Every step looks at the code point behind what it reads, so none comes up to where a page
is torn off.
-/

namespace PredictionMarket.Document

/-- A part of a document. -/
inductive Token where
  /-- The document cannot be read on. -/
  | broken (flaw : Flaw)
  /-- The end of the page. -/
  | stop
  /-- A directive. -/
  | directive (d : Directive)
  /-- Three dashes: a document begins. -/
  | documentStart
  /-- Three points: a document ends. -/
  | documentEnd
  /-- An indented list begins. -/
  | listStart
  /-- An indented dictionary begins. -/
  | mapStart
  /-- An indented list or dictionary ends. -/
  | blockEnd
  /-- An opening square bracket. -/
  | openList
  /-- A closing square bracket. -/
  | closeList
  /-- An opening curly bracket. -/
  | openMap
  /-- A closing curly bracket. -/
  | closeMap
  /-- The dash in front of an item. -/
  | dash
  /-- The comma after an item in brackets. -/
  | comma
  /-- A key follows. -/
  | key
  /-- The colon between a key and its value. -/
  | colon
  /-- The name of a part that stands elsewhere. -/
  | alias (name : Text)
  /-- The name of the part that follows. -/
  | anchor (name : Text)
  /-- The tag of the part that follows: its handle, if it has one, and the rest. -/
  | tag (handle : Option Text) (rest : Text)
  /-- A text, and whether it is bare: without quotation marks. -/
  | text (t : Text) (isBare : Bool)
  deriving Inhabited

/-- What may turn out to be a key. -/
structure PossibleKey where
  /-- How many brackets were open. -/
  depth : Nat
  /-- The number of tokens before it. -/
  number : Nat
  /-- Whether it must turn out to be one, because entries of a dictionary stand there. -/
  isDue : Bool
  /-- Where it begins. -/
  place : Spot

/-- A document of which the first tokens have been read. -/
structure Reading where
  /-- What is left. -/
  page : Page
  /-- The tokens so far. -/
  tokens : List Token := []
  /-- How many brackets are open. -/
  depth : Nat := 0
  /-- The columns of the indented lists and dictionaries that have begun and not ended, the last one
  first, down to minus one. -/
  columns : List Int := [-1]
  /-- Whether a key may begin here. -/
  mayBeKey : Bool := true
  /-- What may turn out to be a key, at most one for each number of open brackets. -/
  keys : List PossibleKey := []

namespace Reading

/-! ## Steps of a reading -/

/-- The column of the innermost indented list or dictionary. -/
def column (r : Reading) : Int :=
  r.columns.headD (-1)

/-- The reading with one more token. -/
def push (r : Reading) (t : Token) : Reading :=
  { r with tokens := r.tokens ++ [t] }

/-- The reading with one more token, which takes some code points. -/
def take (r : Reading) (count : Nat) (t : Token) : Reading :=
  { r.push t with page := r.page.drop count }

/-- The reading with or without the possibility of a key. -/
def allow (r : Reading) (mayBeKey : Bool) : Reading :=
  { r with mayBeKey }

/-- Ends the indented lists and dictionaries right of a column. Brackets hold any indentation. -/
def unindent (r : Reading) (column : Int) : Reading :=
  if r.depth ≠ 0 then r
  else
    let ended := r.columns.takeWhile (column < ·)
    { r with
      tokens := r.tokens ++ ended.map fun _ => .blockEnd
      columns := r.columns.drop ended.length }

/-- Begins an indented list or dictionary in a column, with its token in a place among the tokens,
unless one has begun there or outside of brackets. -/
def indent (r : Reading) (column place : Nat) (t : Token) : Reading :=
  if r.depth = 0 && r.column < column then
    { r with tokens := r.tokens.insertIdx place t, columns := column :: r.columns }
  else r

/-- Forgets what may have turned out to be a key, which must not be due. -/
def forgetKey (r : Reading) : Except Flaw Reading := do
  refuseIf (r.keys.any fun k => k.depth = r.depth && k.isDue) .unreadable
  return { r with keys := r.keys.filter (·.depth ≠ r.depth) }

/-- Remembers that the next token may turn out to be a key. -/
def noteKey (r : Reading) : Except Flaw Reading := do
  if r.mayBeKey then
    let r ← r.forgetKey
    let place := here r.page
    let isDue := r.depth = 0 && r.column = place.column
    return { r with keys := r.keys ++ [⟨r.depth, r.tokens.length, isDue, place⟩] }
  else return r

/-- Whether something can no longer turn out to be a key: a key and its colon are on one line, and
not far from each other. -/
def isStale (r : Reading) (k : PossibleKey) : Bool :=
  let place := here r.page
  k.place.line != place.line || k.place.index + 1024 < place.index

/-- Forgets what can no longer turn out to be a key. -/
def forgetStale (r : Reading) : Except Flaw Reading := do
  refuseIf (r.keys.any fun k => r.isStale k && k.isDue) .unreadable
  return { r with keys := r.keys.filter (!r.isStale ·) }

/-- The number of tokens that are settled. -/
def settled (r : Reading) : Nat :=
  ((r.keys.map PossibleKey.number).min?).getD r.tokens.length

/-! ## Marks -/

/-- Reads a division of documents. -/
def divide (r : Reading) (t : Token) : Except Flaw Reading := do
  return (← (r.unindent (-1)).forgetKey).allow false |>.take 3 t

/-- Reads a directive. -/
def direct (r : Reading) : Except Flaw Reading := do
  let r ← (r.unindent (-1)).forgetKey
  let (d, left) ← directive r.page
  return { (r.allow false).push (.directive d) with page := left }

/-- Reads an opening bracket. -/
def openBracket (r : Reading) (t : Token) : Except Flaw Reading := do
  let r ← r.noteKey
  return { (r.allow true).take 1 t with depth := r.depth + 1 }

/-- Reads a closing bracket. -/
def closeBracket (r : Reading) (t : Token) : Except Flaw Reading := do
  let r ← r.forgetKey
  return { (r.allow false).take 1 t with depth := r.depth - 1 }

/-- Reads a comma. -/
def comma (r : Reading) : Except Flaw Reading := do
  return (← r.forgetKey).allow true |>.take 1 .comma

/-- Reads the mark of an item or of a key, which may begin a list or a dictionary. -/
def mark (r : Reading) (start t : Token) (mayBeKey : Bool) : Except Flaw Reading := do
  refuseIf (r.depth = 0 ∧ !r.mayBeKey) .unreadable
  let r := r.indent (here r.page).column r.tokens.length start
  return (← r.forgetKey).allow mayBeKey |>.take 1 t

/-- Reads a colon. What may have turned out to be a key has, and if it is the first of its column, a
dictionary begins with it. -/
def colon (r : Reading) : Except Flaw Reading := do
  match r.keys.find? (·.depth = r.depth) with
  | none => r.mark .mapStart .colon (r.depth = 0)
  | some k =>
    let r := { r with
      keys := r.keys.filter (·.depth ≠ r.depth)
      tokens := r.tokens.insertIdx k.number .key }
    return ((r.indent k.place.column k.number .mapStart).allow false).take 1 .colon

/-- Reads the name of a part. -/
def named (r : Reading) (token : Text → Token) : Except Flaw Reading := do
  let r ← r.noteKey
  let (t, left) ← name r.page
  return { (r.allow false).push (token t) with page := left }

/-- Reads a tag. -/
def tagged (r : Reading) : Except Flaw Reading := do
  let r ← r.noteKey
  let (first, t, left) ← Document.tag r.page
  return { (r.allow false).push (.tag first t) with page := left }

/-! ## Texts -/

/-- Reads a passage. -/
def passage (r : Reading) : Except Flaw Reading := do
  let r ← r.forgetKey
  let (t, left) ← Document.passage r.column r.page
  return { (r.allow true).push (.text t false) with page := left }

/-- Reads a quotation. -/
def quotation (r : Reading) : Except Flaw Reading := do
  let r ← r.noteKey
  let (t, left) ← Document.quotation r.page
  return { (r.allow false).push (.text t false) with page := left }

/-- Reads words. After a line break, what follows may be a key. -/
def words (r : Reading) : Except Flaw Reading := do
  let r ← r.noteKey
  let (t, crossed, left) ← Document.words (r.depth ≠ 0) (r.column + 1).toNat r.page
  return { (r.allow crossed).push (.text t true) with page := left }

/-! ## Whole documents -/

/-- Ends all that has begun. -/
def stop (r : Reading) : Except Flaw Reading := do
  let r ← (r.unindent (-1)).forgetKey
  return { r.push .stop with keys := [] }

/-- Reads a token or several. -/
def next (r : Reading) : Except Flaw Reading := do
  let (fresh, page) := gap (r.mayBeKey && r.depth = 0) false r.page
  known 1 page
  let r ← forgetStale { r with page, mayBeKey := r.mayBeKey || (fresh && r.depth = 0) }
  let r := r.unindent (here page).column
  let inBrackets := r.depth ≠ 0
  if comesAny "-." page then let _ ← comesDivision page
  if comesAny "-?:" page then known 2 page
  if isAtEnd page then r.stop
  else if comes '%' page && (here page).column = 0 then r.direct
  else if divides "---" page then r.divide .documentStart
  else if divides "..." page then r.divide .documentEnd
  else if comes '[' page then r.openBracket .openList
  else if comes '\x7b' page then r.openBracket .openMap
  else if comes ']' page then r.closeBracket .closeList
  else if comes '\x7d' page then r.closeBracket .closeMap
  else if comes ',' page then r.comma
  else if marks '-' page then r.mark .listStart .dash true
  else if comes '?' page && (inBrackets || marks '?' page) then
    r.mark .mapStart .key (!inBrackets)
  else if comes ':' page && (inBrackets || marks ':' page) then r.colon
  else if comes '*' page then r.named .alias
  else if comes '&' page then r.named .anchor
  else if comes '!' page then r.tagged
  else if comesAny "|>" page && !inBrackets then r.passage
  else if comesAny "'\"" page then r.quotation
  else if wordComes inBrackets page then r.words
  else .error (unreadable (page.drop 1))

/-- Reads on, not up to where the page is torn off, and forgets what can no longer turn out to be a
key. -/
def step (r : Reading) : Except Flaw Reading := do
  let after ← r.next
  known 1 after.page
  after.forgetStale

/-- Whether all has been read. -/
def isDone (r : Reading) : Bool :=
  match r.tokens.getLast? with
  | some .stop => true
  | _ => false

/-- The tokens of a reading that goes on to the end. Every step reads at least one code point. -/
def finish : (fuel : Nat) → Reading → List Token
  | 0, r => r.tokens
  | fuel + 1, r =>
    if r.isDone then r.tokens
    else
      match r.step with
      | .ok after => finish fuel after
      | .error flaw => r.tokens.take r.settled ++ [.broken flaw]

end Reading

/-- The tokens of a text. -/
def tokens (t : Text) : List Token :=
  let p := page t
  Reading.finish (p.length + 1) { page := p }

end PredictionMarket.Document
