import PredictionMarket.Arena

/-!
# A workbench for markets

Markets can be taken from the arena under a name and worked on. A copy is worked on apart and takes
its place in the arena when it is put back; a market that is only looked at is the one in the arena,
and so is a copy once it is put back. The workbench keeps every market once, as a sheet, and says
which sheet lies in each place and under each name.
-/

namespace PredictionMarket

/-- Markets under names, beside an arena. -/
structure Workbench where
  /-- All markets that were ever stored or copied. -/
  sheets : List Market := []
  /-- The sheet of each place of the arena. -/
  places : List Nat := []
  /-- The sheet under each name. -/
  names : List (Text × Nat) := []

namespace Workbench

/-- The arena that the sheets in their places make up. -/
def arena (w : Workbench) : Arena :=
  ⟨w.places.filterMap fun sheet => w.sheets[sheet]?⟩

/-- Takes a new market into the arena. -/
def push (w : Workbench) (m : Market) : Except ArenaError Workbench := do
  let _ ← w.arena.push m
  return { w with sheets := w.sheets ++ [m], places := w.places ++ [w.sheets.length] }

/-- Copies a market of the arena under a name. -/
def copy (w : Workbench) (marketId : Value) (name : Text) :
    Except ArenaError (Market × Workbench) := do
  let m ← w.arena.get marketId
  return (m, { w with
    sheets := w.sheets ++ [m]
    names := (name, w.sheets.length) :: w.names })

/-- Gives a market of the arena a name. -/
def look (w : Workbench) (marketId : Value) (name : Text) :
    Except ArenaError (Market × Workbench) := do
  let place ← w.arena.slot marketId
  let m ← w.arena.get marketId
  return (m, { w with names := (name, w.places.getD place 0) :: w.names })

/-- The sheet under a name. -/
def sheet? (w : Workbench) (name : Text) : Option Nat :=
  w.names.lookup name

/-- The market under a name. -/
def market? (w : Workbench) (name : Text) : Option Market :=
  (w.sheet? name).bind fun sheet => w.sheets[sheet]?

/-- The workbench with the market under a name changed. -/
def update (w : Workbench) (name : Text) (m : Market) : Workbench :=
  match w.sheet? name with
  | some sheet => { w with sheets := w.sheets.set sheet m }
  | none => w

/-- Puts the market under a name into its place in the arena, if it is under that name. -/
def replace (w : Workbench) (name : Text) : Option (Except ArenaError Workbench) :=
  match w.sheet? name, w.market? name with
  | some sheet, some m => some do
    let place ← w.arena.slot (.int m.id)
    return { w with places := w.places.set place sheet }
  | _, _ => none

end Workbench

end PredictionMarket
