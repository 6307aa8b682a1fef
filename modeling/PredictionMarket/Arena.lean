import PredictionMarket.Market

/-!
# The arena

All markets, each under its number. Numbers are given in order from zero on and never taken back.
-/

namespace PredictionMarket

/-- Why the arena refuses a market or has none. -/
inductive ArenaError where
  /-- A new market does not have the next number. -/
  | wrongNumber (marketId next : Int)
  /-- There is no market with this number. -/
  | notFound (marketId : Value)

namespace ArenaError

/-- What an arena error says. -/
def notice : ArenaError → Notice
  | .wrongNumber m next =>
    .badValue ["market id ", m, " does not match next arena slot ", next]
  | .notFound m => .refusal .marketNotFound ["market ", m, " does not exist"]

/-- The kind of an arena error. -/
def kind (e : ArenaError) : ErrorKind := e.notice.kind

/-- The text of an arena error. -/
def message (e : ArenaError) : Option Text := e.notice.message

end ArenaError

/-- The markets in the order of their numbers. -/
structure Arena where
  /-- The markets. -/
  markets : List Market := []

namespace Arena

/-- The number that the next market must have. -/
def nextId (a : Arena) : Int :=
  a.markets.length

/-- Takes a new market in. -/
def push (a : Arena) (m : Market) : Except ArenaError Arena := do
  refuseIf (m.id ≠ a.nextId) (.wrongNumber m.id a.nextId)
  return ⟨a.markets ++ [m]⟩

/-- The place of a market, whose number is given as a value. -/
def slot (a : Arena) (marketId : Value) : Except ArenaError Nat :=
  match marketId with
  | .int n =>
    if 0 ≤ n ∧ n < a.nextId then .ok n.toNat else .error (.notFound marketId)
  | _ => .error (.notFound marketId)

/-- The market with a number. -/
def get (a : Arena) (marketId : Value) : Except ArenaError Market := do
  match a.markets[← a.slot marketId]? with
  | some m => return m
  | none => .error (.notFound marketId)

/-- The arena with the market of the same number replaced. -/
def store (a : Arena) (m : Market) : Arena :=
  ⟨a.markets.set m.id.toNat m⟩

end Arena

end PredictionMarket
