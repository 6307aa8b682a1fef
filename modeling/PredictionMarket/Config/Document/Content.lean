import PredictionMarket.Config.Document.Merge
import PredictionMarket.Value.Dictionary
import PredictionMarket.Value.Members

/-!
# Contents

Every node holds something: a value, or parts, which are nodes again. What the nodes hold is found
from the outside inwards, level by level, so of two flaws the outer one is found, or else the first.
A node that stands in many places is looked at once.

A node that stands in itself has a value nevertheless: it is cut short where it comes again.
-/

namespace PredictionMarket.Document

/-- What a node holds. -/
inductive Content where
  /-- A value without parts. -/
  | leaf (v : Value)
  /-- A list of nodes. -/
  | list (items : List Nat)
  /-- A list of pairs of nodes. -/
  | pairs (entries : List (Nat × Nat))
  /-- A set of values. -/
  | set (members : List Value)
  /-- A dictionary with nodes under its keys. -/
  | map (entries : List (Value × Nat))
  deriving Inhabited

/-- What nodes hold, by their numbers, as far as that has been found. -/
abbrev Contents := Array (Option Content)

/-- What a node holds, if that has been found. -/
def Contents.content? (contents : Contents) (number : Nat) : Option Content :=
  contents[number]?.join

/-- Nodes with what they hold, as far as that has been found. -/
structure Survey where
  /-- The nodes. -/
  nodes : Nodes
  /-- What they hold. -/
  contents : Contents
  /-- The nodes whose parts have not been looked at, those that have waited longest first. -/
  waiting : List Nat := []

namespace Survey

/-- The survey with what a node holds. -/
def hold (s : Survey) (number : Nat) (c : Content) : Survey :=
  { s with contents := s.contents.setIfInBounds number (some c) }

/-- The survey with a node whose parts are not known yet. -/
def postpone (s : Survey) (number : Nat) (empty : Content) : Survey :=
  { s.hold number empty with waiting := s.waiting ++ [number] }

/-- The text of a node: its own or, if it is a dictionary, the one under the key of its default. -/
def textOf (nodes : Nodes) : (fuel : Nat) → Nat → Except Flaw Text
  | 0, _ => .error .tooDeep
  | fuel + 1, number =>
    match nodes.body number with
    | .text t => .ok t
    | .list _ => .error .wrongShape
    | .map entries =>
      match entries.find? fun (key, _) => nodes.meaning key = .default with
      | some (_, n) => textOf nodes fuel n
      | none => .error .wrongShape

/-- The value of a node that has no parts. -/
def leafOf (nodes : Nodes) (number : Nat) : Except Flaw Value := do
  let meaning := nodes.meaning number
  let t ← textOf nodes (nodes.size + 1) number
  refuseIf (meaning = .moment ∧ nodes.isMap number) .compoundMoment
  meaning.read t

/-- Looks at a node, but not at its parts. -/
def look (s : Survey) (number : Nat) : Except Flaw Survey :=
  if (s.contents.content? number).isSome then .ok s
  else
    match s.nodes.meaning number with
    | .list => .ok (s.postpone number (.list []))
    | .pairs => .ok (s.postpone number (.pairs []))
    | .set => .ok (s.postpone number (.set []))
    | .map => .ok (s.postpone number (.map []))
    | .merge | .default | .unknown => .error .meaningless
    | _ => do return s.hold number (.leaf (← leafOf s.nodes number))

/-- Looks at the entries of a dictionary, whose keys must not have parts. -/
def lookAtEntries (s : Survey) :
    List (Nat × Nat) → Except Flaw (Survey × List (Value × Nat))
  | [] => .ok (s, [])
  | (key, n) :: rest => do
    let s ← s.look key
    let some (.leaf v) := s.contents.content? key | .error .compoundKey
    let s ← s.look n
    let (s, others) ← s.lookAtEntries rest
    return (s, (v, n) :: others)

/-- Looks at pairs, each of which must be a dictionary with a single entry. -/
def lookAtPairs (s : Survey) : List Nat → Except Flaw (Survey × List (Nat × Nat))
  | [] => .ok (s, [])
  | item :: rest => do
    let .map [(key, n)] := s.nodes.body item | .error .wrongShape
    let s ← (← s.look key).look n
    let (s, others) ← s.lookAtPairs rest
    return (s, (key, n) :: others)

/-- Looks at a dictionary after its merges. -/
def lookAtMap (s : Survey) (number : Nat) : Except Flaw (Survey × List (Value × Nat)) := do
  let nodes ← s.nodes.merge number
  let (s, entries) ← { s with nodes }.lookAtEntries (nodes.entries number)
  return (s, Value.collect entries)

/-- Looks at the parts of a node, which must be written as its meaning asks for. -/
def lookInto (s : Survey) (number : Nat) : Except Flaw Survey := do
  match s.nodes.meaning number, s.nodes.body number with
  | .list, .list items => return (← items.foldlM look s).hold number (.list items)
  | .pairs, .list items =>
    let (s, entries) ← s.lookAtPairs items
    return s.hold number (.pairs entries)
  | .set, .map _ =>
    let (s, entries) ← s.lookAtMap number
    return s.hold number (.set (Value.listed (entries.map Prod.fst)))
  | .map, .map _ =>
    let (s, entries) ← s.lookAtMap number
    return s.hold number (.map entries)
  | _, _ => .error .wrongShape

/-- Looks at the parts of all nodes that wait. Every node waits once at most. -/
def complete : (fuel : Nat) → Survey → Except Flaw Survey
  | 0, s => .ok s
  | fuel + 1, s =>
    match s.waiting with
    | [] => .ok s
    | number :: rest => do complete fuel (← { s with waiting := rest }.lookInto number)

end Survey

/-- What the nodes of a document hold, as far as they belong to the first one. -/
def contentsOf (nodes : Nodes) : Except Flaw Contents := do
  let s : Survey := { nodes, contents := Array.replicate nodes.size none }
  let s ← Survey.complete nodes.size (← s.look 0)
  return s.contents

/-- The value of a node that stands inside of others. Where it stands inside of itself, it is cut
short. What belongs to parts that are taken apart, for so many levels, counts as standing alone. -/
def valueOf (contents : Contents) :
    (fuel : Nat) → (apart : Nat) → (inside : List Nat) → (number : Nat) → Value
  | 0, _, _, _ => .null
  | fuel + 1, apart, inside, number =>
    let around := if apart = 0 then number :: inside else []
    match contents.content? number with
    | none => .null
    | some (.leaf v) => v
    | some (.set members) => .set members
    | some (.list items) =>
      if inside.contains number then .again true
      else .list (items.map (valueOf contents fuel (apart - 1) around))
    | some (.pairs entries) =>
      let part := valueOf contents fuel (apart - 1) around
      if inside.contains number then .again true
      else .list (entries.map fun (key, n) => .tuple [part key, part n])
    | some (.map entries) =>
      if inside.contains number then .again false
      else .object (entries.map fun (key, n) => (key, valueOf contents fuel 0 around n))

end PredictionMarket.Document
