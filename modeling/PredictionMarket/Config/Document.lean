import PredictionMarket.Config
import PredictionMarket.Config.Document.Content

/-!
# Configuration documents

The documents in which configurations are kept. A dictionary has a line `key: value` for each entry,
and a list has a line `- item` for each item. What belongs to an entry or an item stands right of
it, on the same line or on the lines below, and may be a dictionary or a list again. Both can also
be written in brackets. An empty document, and a key with nothing right of it, stand for nothing.

A document is read as tokens first, then as nodes, then as what they hold, so a flaw of the layout
is found before one of the meaning.
-/

namespace PredictionMarket

namespace Document

/-- For how many levels the setting of a key is taken apart: the collateral tokens are, which may be
pairs. -/
def levelsApart : Value → Nat
  | .text t => if t = "collateral_whitelist" then 2 else 0
  | _ => 0

/-- The value of a document. The settings, which are the entries of the outermost dictionary, stand
alone. -/
def parse (t : Text) : Except Flaw Value := do
  let nodes ← nodesOf (tokens t)
  if nodes.isEmpty then return .null
  let contents ← contentsOf nodes
  let value := valueOf contents (contents.size + 3)
  match contents.content? 0 with
  | some (.map entries) =>
    return .object (entries.map fun (key, n) => (key, value (levelsApart key) [] n))
  | _ => return value 0 [] 0

end Document

/-- Reads a configuration from the text of a document, which errors call by its path. -/
def Config.ofText (path t : Text) : Except ConfigError Config := do
  ofDocument path (← (Document.parse t).mapError .document)

end PredictionMarket
