import PredictionMarket.Guard
import PredictionMarket.Table
import PredictionMarket.Wording

/-!
# Shares

How many shares of each outcome each account holds. A balance of zero is not stored.
-/

namespace PredictionMarket

/-- An account and one of the outcomes. -/
structure Holding where
  /-- The holder. -/
  account : Text
  /-- The outcome. -/
  outcome : Nat
  deriving DecidableEq

namespace Holding

/-- Holdings are ordered by account, those of one account by outcome. -/
instance : Ord Holding := ⟨compareLex (compareOn account) (compareOn outcome)⟩

instance : Std.TransOrd Holding :=
  inferInstanceAs (Std.TransCmp (compareLex (compareOn account) (compareOn outcome)))

instance : Std.LawfulEqOrd Holding where
  compare_self {a} := by
    show (compare a.account a.account).then (compare a.outcome a.outcome) = .eq
    simp
  eq_of_compare {a b} h := by
    have h : (compare a.account b.account).then (compare a.outcome b.outcome) = .eq := h
    have hparts := Ordering.then_eq_eq.1 h
    cases a
    cases b
    simp_all

end Holding

/-- Why a table of shares refuses a change or a question. -/
inductive SharesError where
  /-- The table is for no outcome. -/
  | outcomesNotPositive (outcomes : Int)
  /-- There is no outcome with this number. -/
  | outcomeOutOfRange (outcome : Int) (outcomes : Nat)
  /-- A balance is to be negative. -/
  | negativeBalance (amount : Int)
  /-- A change would make a balance negative. -/
  | insufficient (current delta : Int)
  /-- A negative amount is taken off. -/
  | negativeDelta (delta : Int)
  deriving DecidableEq

namespace SharesError

/-- What a share error says: the value is bad. -/
def notice : SharesError → Notice
  | .outcomesNotPositive n => .badValue ["outcomes must be positive: ", n]
  | .outcomeOutOfRange o n => .badValue ["outcome out of range: ", o, " (outcomes=", n, ")"]
  | .negativeBalance a => .badValue ["Balance cannot be negative: ", a]
  | .insufficient c d => .badValue ["Insufficient balance: ", c, " + ", d, " = ", c + d, " < 0"]
  | .negativeDelta d => .badValue ["Delta must be non-negative: ", d]

/-- The kind of a share error. -/
def kind (e : SharesError) : ErrorKind := e.notice.kind

/-- The text of a share error. -/
def message (e : SharesError) : Option Text := e.notice.message

end SharesError

/-- The share balances of a pool. -/
structure Shares where
  /-- The number of outcomes. -/
  outcomes : Nat
  /-- The balances that are not zero. -/
  balances : Table Holding Int := .empty

namespace Shares

/-- The table for a number of outcomes, with nothing in it. -/
def make (outcomes : Int) : Except SharesError Shares := do
  refuseIf (outcomes ≤ 0) (.outcomesNotPositive outcomes)
  return { outcomes := outcomes.toNat }

/-- The number of an outcome of the table. -/
def checkOutcome (s : Shares) (outcome : Int) : Except SharesError Nat :=
  if 0 ≤ outcome ∧ outcome < s.outcomes then .ok outcome.toNat
  else .error (.outcomeOutOfRange outcome s.outcomes)

/-- The balance of an account in an outcome, zero if none is stored. -/
def balance (s : Shares) (account : Text) (outcome : Nat) : Int :=
  s.balances.getD ⟨account, outcome⟩ 0

/-- The balance of an account in an outcome that may be given wrong. -/
def get (s : Shares) (account : Text) (outcome : Int) : Except SharesError Int := do
  return s.balance account (← s.checkOutcome outcome)

/-- The balances of an account in all outcomes. -/
def allOf (s : Shares) (account : Text) : List Int :=
  (List.range s.outcomes).map (s.balance account)

/-- The table with one balance changed; zero takes it out. -/
def store (s : Shares) (account : Text) (outcome : Nat) (amount : Int) : Shares :=
  { s with
    balances :=
      if amount = 0 then s.balances.erase ⟨account, outcome⟩
      else s.balances.insert ⟨account, outcome⟩ amount }

/-- Sets a balance, which must not be negative. -/
def set (s : Shares) (account : Text) (outcome amount : Int) : Except SharesError Shares := do
  let o ← s.checkOutcome outcome
  refuseIf (amount < 0) (.negativeBalance amount)
  return s.store account o amount

/-- Changes a balance by a difference; the balance must not become negative. -/
def add (s : Shares) (account : Text) (outcome delta : Int) : Except SharesError Shares := do
  let current ← s.get account outcome
  refuseIf (current + delta < 0) (.insufficient current delta)
  s.set account outcome (current + delta)

/-- Takes an amount off a balance. -/
def subtract (s : Shares) (account : Text) (outcome delta : Int) : Except SharesError Shares := do
  refuseIf (delta < 0) (.negativeDelta delta)
  s.add account outcome (-delta)

/-- Takes all balances of an account out of the table. -/
def clear (s : Shares) (account : Text) : Shares :=
  { s with balances := s.balances.filter fun holding _ => holding.account != account }

/-- Takes all shares of an account out, and returns what it held, by outcome. -/
def takeAll (s : Shares) (account : Text) : Shares × List Int :=
  (s.clear account, s.allOf account)

/-- The shares of an outcome that all accounts hold together. -/
def supply (s : Shares) (outcome : Nat) : Int :=
  (s.balances.filter fun holding _ => holding.outcome == outcome).total

/-- The supply of an outcome that may be given wrong. -/
def totalSupply (s : Shares) (outcome : Int) : Except SharesError Int := do
  return s.supply (← s.checkOutcome outcome)

/-- Adds the amounts to an account's balances, the first to outcome zero, leaving out zeros. -/
def addAll (s : Shares) (account : Text) (amounts : List Int) : Except SharesError Shares :=
  amounts.zipIdx.foldlM
    (fun s (amount, outcome) => if amount = 0 then .ok s else s.add account outcome amount) s

/-- The table in a few words. -/
def describe (s : Shares) : Wording :=
  ["ShareTable(outcomes=", s.outcomes, ", ", s.balances.size, " entries)"]

end Shares

end PredictionMarket
