import PredictionMarket.Config.Document.Meaning
import PredictionMarket.Config.Document.Token

/-!
# Nodes

The tokens of a document make nodes: texts, lists and dictionaries. Every node has a number and a
meaning, which its form or its tag gives. Lists and dictionaries hold the numbers of their parts. A
name stands for the node that was given it before, so a node can stand in many places, and even in
itself.
-/

namespace PredictionMarket.Document

/-- What a node is written as. -/
inductive Body where
  /-- A text. -/
  | text (t : Text)
  /-- A list of nodes. -/
  | list (items : List Nat)
  /-- A dictionary of nodes, in the order of its entries. -/
  | map (entries : List (Nat × Nat))
  deriving Inhabited

/-- A part of a document with its meaning. -/
structure Node where
  /-- What it stands for. -/
  meaning : Meaning
  /-- What it is written as. -/
  body : Body

/-- What stands where nothing is written. -/
def Node.nothing : Node :=
  ⟨.null, .text []⟩

/-! ## Tags and names -/

/-- The handles that tags begin with, and the beginnings that they stand for. -/
abbrev Handles := List (Text × Text)

/-- The handles that need no introduction. -/
def commonHandles : Handles := [("!", "!"), ("!!", commonBeginning)]

/-- A whole tag. Its handle, if it has one, must be known. -/
def wholeTag (handles : Handles) (handle : Option Text) (rest : Text) : Except Flaw Text :=
  match handle with
  | none => .ok rest
  | some h =>
    match handles.lookup h with
    | some beginning => .ok (beginning ++ rest)
    | none => .error .misplaced

/-- The tag that asks for the meaning of the form. -/
def formTag : Text := "!"

/-- The meaning of a text under a tag. -/
def textMeaning (tag : Option Text) (isBare : Bool) (t : Text) : Meaning :=
  match tag with
  | none => if isBare then .ofBare t else .text
  | some tag => if tag = formTag then .ofBare t else .ofTag tag

/-- The meaning of a list or a dictionary under a tag. -/
def partsMeaning (tag : Option Text) (plain : Meaning) : Meaning :=
  match tag with
  | none => plain
  | some tag => if tag = formTag then plain else .ofTag tag

/-- What is said about a node in front of it. -/
structure Label where
  /-- The name that it is given. -/
  name : Option Text := none
  /-- Its tag. -/
  tag : Option Text := none

/-- Where a node stands. -/
inductive Place where
  /-- Where indentation counts. -/
  | block
  /-- In the entry of a dictionary, where indentation counts and a list need not be indented. -/
  | entry
  /-- In brackets. -/
  | brackets
  deriving DecidableEq

/-- The tokens that are left, and the nodes that have begun. A node has its number and its name
before its parts are known. -/
structure Source where
  /-- The tokens. -/
  tokens : List Token
  /-- The nodes by their numbers. -/
  nodes : Array Node := #[]
  /-- The names with the numbers of their nodes. -/
  names : List (Text × Nat) := []
  /-- How many lists and dictionaries have begun and not ended. -/
  depth : Nat := 0

/-- How many lists and dictionaries may stand in each other. -/
def mostLevels : Nat := 489

namespace Source

/-- The next token. -/
def peek (s : Source) : Except Flaw Token :=
  match s.tokens with
  | [] => .ok .stop
  | .broken flaw :: _ => .error flaw
  | t :: _ => .ok t

/-- The source without the next token. -/
def skip (s : Source) : Source :=
  { s with tokens := s.tokens.drop 1 }

/-- Adds a node with its name, if it has one. The name must be new. -/
def add (s : Source) (name : Option Text) (n : Node) : Except Flaw (Nat × Source) := do
  let number := s.nodes.size
  refuseIf (name.any fun t => (s.names.lookup t).isSome) .repeatedName
  let names := name.toList.map (·, number) ++ s.names
  return (number, { s with nodes := s.nodes.push n, names })

/-- Begins a list or a dictionary, which does not have its parts yet. -/
def enter (s : Source) (label : Label) (plain : Meaning) : Except Flaw (Nat × Source) := do
  refuseIf (mostLevels ≤ s.depth) .tooDeep
  let (number, s) ← s.add label.name ⟨partsMeaning label.tag plain, default⟩
  return (number, { s with depth := s.depth + 1 })

/-- Ends a list or a dictionary, which gets its parts. -/
def leave (s : Source) (number : Nat) (body : Body) : Nat × Source :=
  (number,
    { s with nodes := s.nodes.modify number ({ · with body }), depth := s.depth - 1 })

/-- The node that a name was given to. -/
def find (s : Source) (name : Text) : Except Flaw Nat :=
  match s.names.lookup name with
  | none => .error .unknownName
  | some number => .ok number

/-- The name that comes next, if one does. -/
def readName (s : Source) : Except Flaw (Option Text × Source) := do
  match ← s.peek with
  | .anchor name => return (some name, s.skip)
  | _ => return (none, s)

/-- The tag that comes next, if one does. -/
def readTag (s : Source) : Except Flaw (Option (Option Text × Text) × Source) := do
  match ← s.peek with
  | .tag handle rest => return (some (handle, rest), s.skip)
  | _ => return (none, s)

/-- A name and a tag, in either order. -/
def readLabel (handles : Handles) (s : Source) : Except Flaw (Label × Source) := do
  let (first, s) ← s.readName
  let (tag, s) ← s.readTag
  let (second, s) ← if first.isNone && tag.isSome then s.readName else pure (none, s)
  let tag ← tag.mapM fun (handle, rest) => wholeTag handles handle rest
  return (⟨first.or second, tag⟩, s)

end Source

/-! ## Reading nodes -/

/-- Whether a token shows that there is nothing after a dash. -/
def Token.endsItem : Token → Bool
  | .dash | .key | .colon | .blockEnd => true
  | _ => false

/-- Whether a token shows that there is nothing in an entry of an indented dictionary. -/
def Token.endsEntry : Token → Bool
  | .key | .colon | .blockEnd => true
  | _ => false

/-- Whether a token shows that there is nothing between brackets, commas and colons. -/
def Token.endsInBrackets : Token → Bool
  | .colon | .comma | .closeList | .closeMap => true
  | _ => false

mutual

/-- The number of a node with its label. -/
def node (handles : Handles) (place : Place) :
    (fuel : Nat) → Source → Except Flaw (Nat × Source)
  | 0, _ => .error .misplaced
  | fuel + 1, s => do
    if let .alias name ← s.peek then return (← s.find name, s.skip)
    let (label, s) ← s.readLabel handles
    let next ← s.peek
    match next, place with
    | .text t isBare, _ => s.skip.add label.name ⟨textMeaning label.tag isBare t, .text t⟩
    | .openList, _ =>
      let (number, s) ← s.skip.enter label .list
      let (items, s) ← bracketItems handles true [] fuel s
      return s.leave number (.list items)
    | .openMap, _ =>
      let (number, s) ← s.skip.enter label .map
      let (entries, s) ← bracketEntries handles true [] fuel s
      return s.leave number (.map entries)
    | .dash, .entry =>
      let (number, s) ← s.enter label .list
      let (items, s) ← listItems handles false [] fuel s
      return s.leave number (.list items)
    | .listStart, .block | .listStart, .entry =>
      let (number, s) ← s.skip.enter label .list
      let (items, s) ← listItems handles true [] fuel s
      return s.leave number (.list items)
    | .mapStart, .block | .mapStart, .entry =>
      let (number, s) ← s.skip.enter label .map
      let (entries, s) ← mapEntries handles [] fuel s
      return s.leave number (.map entries)
    | _, _ =>
      refuseIf (label.name.isNone ∧ label.tag.isNone) .misplaced
      s.add label.name ⟨textMeaning label.tag true [], .text []⟩

/-- The number of a node, which is nothing if a token shows that there is none. -/
def optionalNode (handles : Handles) (place : Place) (isAbsent : Token → Bool) :
    (fuel : Nat) → Source → Except Flaw (Nat × Source)
  | 0, _ => .error .misplaced
  | fuel + 1, s => do
    if isAbsent (← s.peek) then s.add none .nothing else node handles place fuel s

/-- A key and its value. -/
def entryOf (handles : Handles) (place : Place) (isAbsent : Token → Bool) :
    (fuel : Nat) → Source → Except Flaw ((Nat × Nat) × Source)
  | 0, _ => .error .misplaced
  | fuel + 1, s => do
    let (key, s) ← optionalNode handles place isAbsent fuel s
    let (v, s) ← match ← s.peek with
      | .colon => optionalNode handles place isAbsent fuel s.skip
      | _ => s.add none .nothing
    return ((key, v), s)

/-- The items of a list with dashes. One that is indented has an end of its own. -/
def listItems (handles : Handles) (isIndented : Bool) (done : List Nat) :
    (fuel : Nat) → Source → Except Flaw (List Nat × Source)
  | 0, _ => .error .misplaced
  | fuel + 1, s => do
    match ← s.peek with
    | .dash =>
      let (n, s) ← optionalNode handles .block Token.endsItem fuel s.skip
      listItems handles isIndented (done ++ [n]) fuel s
    | .blockEnd => return (done, if isIndented then s.skip else s)
    | _ => if isIndented then .error .misplaced else return (done, s)

/-- The entries of an indented dictionary. -/
def mapEntries (handles : Handles) (done : List (Nat × Nat)) :
    (fuel : Nat) → Source → Except Flaw (List (Nat × Nat) × Source)
  | 0, _ => .error .misplaced
  | fuel + 1, s => do
    match ← s.peek with
    | .key =>
      let (entry, s) ← entryOf handles .entry Token.endsEntry fuel s.skip
      mapEntries handles (done ++ [entry]) fuel s
    | .blockEnd => return (done, s.skip)
    | _ => .error .misplaced

/-- The items of a list in brackets, each after a comma but the first. One may be a dictionary with
a single entry. -/
def bracketItems (handles : Handles) (isFirst : Bool) (done : List Nat) :
    (fuel : Nat) → Source → Except Flaw (List Nat × Source)
  | 0, _ => .error .misplaced
  | fuel + 1, s => do
    if let .closeList ← s.peek then return (done, s.skip)
    let s ← match ← s.peek, isFirst with
      | .comma, false => pure s.skip
      | _, true => pure s
      | _, false => .error .misplaced
    match ← s.peek with
    | .closeList => return (done, s.skip)
    | .key =>
      let (number, s) ← s.skip.enter {} .map
      let (entry, s) ← entryOf handles .brackets Token.endsInBrackets fuel s
      let (n, s) := s.leave number (.map [entry])
      bracketItems handles false (done ++ [n]) fuel s
    | _ =>
      let (n, s) ← node handles .brackets fuel s
      bracketItems handles false (done ++ [n]) fuel s

/-- The entries of a dictionary in brackets, each after a comma but the first. One without a colon
has no value. -/
def bracketEntries (handles : Handles) (isFirst : Bool) (done : List (Nat × Nat)) :
    (fuel : Nat) → Source → Except Flaw (List (Nat × Nat) × Source)
  | 0, _ => .error .misplaced
  | fuel + 1, s => do
    if let .closeMap ← s.peek then return (done, s.skip)
    let s ← match ← s.peek, isFirst with
      | .comma, false => pure s.skip
      | _, true => pure s
      | _, false => .error .misplaced
    match ← s.peek with
    | .closeMap => return (done, s.skip)
    | .key =>
      let (entry, s) ← entryOf handles .brackets Token.endsInBrackets fuel s.skip
      bracketEntries handles false (done ++ [entry]) fuel s
    | _ =>
      let (n, s) ← node handles .brackets fuel s
      let (v, s) ← s.add none .nothing
      bracketEntries handles false (done ++ [(n, v)]) fuel s

end

/-! ## Documents -/

/-- The directives in front of a document: the version is given at most once and is one that is
known, and no handle is introduced twice. -/
def readDirectives (hasVersion : Bool) (handles : Handles) :
    List Token → Except Flaw (Handles × List Token)
  | .directive (.version major) :: rest => do
    refuseIf (hasVersion ∨ major ≠ 1) .misplaced
    readDirectives true handles rest
  | .directive (.handle name beginning) :: rest => do
    refuseIf (handles.lookup name).isSome .misplaced
    readDirectives hasVersion (handles ++ [(name, beginning)]) rest
  | .directive .other :: rest => readDirectives hasVersion handles rest
  | rest => .ok (handles ++ commonHandles, rest)

/-- The begin of a document with directives or dashes: the handles that it may use. -/
def readStart (s : Source) : Except Flaw (Handles × Source) := do
  let (handles, rest) ← readDirectives false [] s.tokens
  let s := { s with tokens := rest }
  match ← s.peek with
  | .documentStart => return (handles, s.skip)
  | _ => .error .misplaced

/-- Leaves the ends of documents out. -/
def skipEnds (s : Source) : Source :=
  { s with tokens := s.tokens.dropWhile fun | .documentEnd => true | _ => false }

/-- Whether a token is outside of any document. -/
def Token.isOutside : Token → Bool
  | .directive _ | .documentStart | .documentEnd | .stop => true
  | _ => false

/-- Makes sure that nothing follows a document. -/
def checkEnd (s : Source) : Except Flaw Unit := do
  let s := skipEnds s
  match ← s.peek with
  | .stop => return ()
  | _ =>
    let _ ← readStart s
    .error .anotherDocument

/-- The nodes of a document by their numbers, of which the first holds the others. There are none if
nothing is written. -/
def nodesOf (tokens : List Token) : Except Flaw (Array Node) := do
  let fuel := 4 * tokens.length + 4
  let s : Source := { tokens }
  match ← s.peek with
  | .stop => return #[]
  | .directive _ | .documentStart =>
    let (handles, s) ← readStart s
    let (_, s) ← optionalNode handles .block Token.isOutside fuel s
    checkEnd s
    return s.nodes
  | _ =>
    let (_, s) ← node commonHandles .block fuel s
    checkEnd s
    return s.nodes

end PredictionMarket.Document
