import PredictionMarket.Guard
import PredictionMarket.Table
import PredictionMarket.Wording

/-!
# Nonces

Each account's outbound transfers are numbered from one on. A table may start from stored content,
which is judged only when it is used.
-/

namespace PredictionMarket

/-- A stored number is not one that can be counted on from. -/
structure NonceError where
  /-- The account. -/
  account : Text
  /-- What is stored for it. -/
  stored : Value

/-- What a nonce error says: the stored value is bad. -/
def NonceError.notice (e : NonceError) : Notice :=
  .badValue ["invalid stored nonce for ", e.account.quoted, ": ", e.stored]

/-- The text of a nonce error. -/
def NonceError.message (e : NonceError) : Option Text := e.notice.message

/-- The last number used by each account. -/
abbrev Nonces := Table Text Value

namespace Nonces

/-- The last number that an account used, zero if it used none. -/
def last (t : Nonces) (account : Text) : Except NonceError Int :=
  match t.get? account with
  | none => .ok 0
  | some (.int n) => if n < 0 then .error ⟨account, .int n⟩ else .ok n
  | some stored => .error ⟨account, stored⟩

/-- The next number of an account, and the table in which it is used. -/
def next (t : Nonces) (account : Text) : Except NonceError (Int × Nonces) := do
  let nonce := (← last t account) + 1
  return (nonce, t.insert account (.int nonce))

end Nonces

end PredictionMarket
