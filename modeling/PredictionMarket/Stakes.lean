import PredictionMarket.Guard
import PredictionMarket.Table
import PredictionMarket.Wording

/-!
# Stakes

How much of the liquidity of a pool each account has provided, in pool tokens, and how many pool
tokens there are. A balance of zero is not stored.
-/

namespace PredictionMarket

/-- Why a table of stakes refuses a change. -/
inductive StakesError where
  /-- Nothing is issued. -/
  | mintNotPositive (amount : Int)
  /-- Nothing is given back. -/
  | burnNotPositive (amount : Int)
  /-- More is given back than the account has. -/
  | insufficient (current amount : Int)
  deriving DecidableEq

namespace StakesError

/-- What a stake error says: the value is bad. -/
def notice : StakesError → Notice
  | .mintNotPositive a => .badValue ["mint amount must be positive: ", a]
  | .burnNotPositive a => .badValue ["burn amount must be positive: ", a]
  | .insufficient c a => .badValue ["Insufficient LP balance: ", c, " < ", a]

/-- The kind of a stake error. -/
def kind (e : StakesError) : ErrorKind := e.notice.kind

/-- The text of a stake error. -/
def message (e : StakesError) : Option Text := e.notice.message

end StakesError

/-- The stakes in a pool. -/
structure Stakes where
  /-- The balances that are not zero. -/
  balances : Table Text Int := .empty
  /-- The number of pool tokens. -/
  supply : Int := 0

namespace Stakes

/-- The stake of an account, zero if none is stored. -/
def balance (s : Stakes) (account : Text) : Int :=
  s.balances.getD account 0

/-- Issues pool tokens to an account. -/
def mint (s : Stakes) (account : Text) (amount : Int) : Except StakesError Stakes := do
  refuseIf (amount ≤ 0) (.mintNotPositive amount)
  return ⟨s.balances.insert account (s.balance account + amount), s.supply + amount⟩

/-- Takes pool tokens back from an account. -/
def burn (s : Stakes) (account : Text) (amount : Int) : Except StakesError Stakes := do
  refuseIf (amount ≤ 0) (.burnNotPositive amount)
  refuseIf (s.balance account < amount) (.insufficient (s.balance account) amount)
  let balances :=
    if amount = s.balance account then s.balances.erase account
    else s.balances.insert account (s.balance account - amount)
  return ⟨balances, s.supply - amount⟩

/-- Whether the number of pool tokens is the sum of the balances. -/
def isBalanced (s : Stakes) : Bool :=
  s.balances.total == s.supply

/-- The table in a few words. -/
def describe (s : Stakes) : Wording :=
  ["LPTable(", s.balances.size, " entries, supply=", s.supply, ")"]

end Stakes

end PredictionMarket
