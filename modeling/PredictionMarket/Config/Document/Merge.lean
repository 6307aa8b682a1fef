import PredictionMarket.Config.Document.Node

/-!
# Merged dictionaries

An entry with the key of a merge is no entry of its dictionary. What is under it, a dictionary or a
list of them, is merged: its entries come in front of the others, those of the last dictionary of a
list first. Dictionaries that are merged have their own merges done before, and a dictionary may be
merged into itself. Where the key of a default stands among other keys, it is a text.
-/

namespace PredictionMarket.Document

/-- Nodes by their numbers. -/
abbrev Nodes := Array Node

namespace Nodes

/-- The node with a number. -/
def node (nodes : Nodes) (number : Nat) : Node :=
  nodes[number]?.getD .nothing

/-- The meaning of a node. -/
def meaning (nodes : Nodes) (number : Nat) : Meaning :=
  (nodes.node number).meaning

/-- What a node is written as. -/
def body (nodes : Nodes) (number : Nat) : Body :=
  (nodes.node number).body

/-- The entries of a dictionary. -/
def entries (nodes : Nodes) (number : Nat) : List (Nat × Nat) :=
  match nodes.body number with
  | .map entries => entries
  | _ => []

/-- Whether a node is written as a dictionary. -/
def isMap (nodes : Nodes) (number : Nat) : Bool :=
  match nodes.body number with
  | .map _ => true
  | _ => false

/-- The nodes where a dictionary has other entries. -/
def setEntries (nodes : Nodes) (number : Nat) (entries : List (Nat × Nat)) : Nodes :=
  nodes.modify number ({ · with body := .map entries })

/-- The nodes where a key of a default is a text. -/
def setKey (nodes : Nodes) (key : Nat) : Nodes :=
  if nodes.meaning key = .default then nodes.modify key ({ · with meaning := .text }) else nodes

/-- The nodes after the merges of a dictionary, given the entries that are merged already. Every
step leaves one key of a merge less. -/
def mergeFrom : (fuel : Nat) → (merged : List (Nat × Nat)) → (number : Nat) → Nodes →
    Except Flaw Nodes
  | 0, _, _, nodes => .ok nodes
  | fuel + 1, merged, number, nodes => do
    let own := nodes.entries number
    match own.find? fun (key, _) => nodes.meaning key = .merge with
    | none =>
      let nodes := own.foldl (fun nodes (key, _) => nodes.setKey key) nodes
      return nodes.setEntries number (merged ++ own)
    | some (key, source) =>
      let nodes := nodes.setEntries number (own.eraseP (·.1 = key))
      let (nodes, others) ← match nodes.body source with
        | .map _ => do
          let nodes ← mergeFrom fuel [] source nodes
          pure (nodes, nodes.entries source)
        | .list items =>
          items.foldlM (fun (nodes, others) item => do
            refuseIf (!nodes.isMap item) .badMerge
            let nodes ← mergeFrom fuel [] item nodes
            return (nodes, nodes.entries item ++ others)) (nodes, [])
        | .text _ => .error .badMerge
      mergeFrom fuel (merged ++ others) number nodes

/-- The number of keys of merges. -/
def mergeCount (nodes : Nodes) : Nat :=
  let keys := nodes.toList.flatMap fun n =>
    match n.body with
    | .map entries => entries.map Prod.fst
    | _ => []
  keys.countP fun key => nodes.meaning key = .merge

/-- The nodes after the merges of a dictionary. -/
def merge (nodes : Nodes) (number : Nat) : Except Flaw Nodes :=
  mergeFrom (nodes.mergeCount + 1) [] number nodes

end Nodes

end PredictionMarket.Document
