import PredictionMarket.Pool.Trading

/-!
# Settlement of a pool

After resolution an account is paid for everything it holds: a stake is given back first, then all
shares are valued by the payout vector and taken out.
-/

namespace PredictionMarket

/-- The result of a claim. -/
structure Settlement where
  /-- What the shares were worth. -/
  sharePayout : Int
  /-- The fees that were paid for a stake. -/
  fees : Int
  /-- The stake that was given back, if there was one. -/
  exit : Option Exit
  deriving DecidableEq

/-- What the claimant is paid. -/
def Settlement.total (s : Settlement) : Int :=
  s.sharePayout + s.fees

namespace Pool

/-- What a list of balances is worth, in units of the denomination times the collateral. -/
def weighted (balances vector : List Int) : Int :=
  Amounts.sum (List.zipWith (· * ·) balances vector)

/-- Pays an account for its stake and its shares. -/
def payout (p : Pool) (account : Text) (numerator : Numerator) :
    Except PoolError (Pool × Settlement) := do
  refuseIf (!numerator.isResolved) .unresolved
  let vector ← (numerator.vector p.outcomes p.denomination).mapError .payout
  let balances := p.shares.allOf account
  let stake := p.stakes.balance account
  if 0 < stake then
    let plan ← p.planExit account stake
    let all := List.zipWith (· + ·) balances plan.sharesOut
    let sharePayout := Curve.floorDiv (weighted all vector) p.denomination
    refuseIf (sharePayout + plan.fees = 0) (.nothingToClaim account)
    let left ← p.commitExit account plan
    return ({ left with shares := left.shares.clear account },
      ⟨sharePayout, plan.fees, some plan.result⟩)
  else
    let sharePayout := Curve.floorDiv (weighted balances vector) p.denomination
    refuseIf (sharePayout = 0) (.nothingToClaim account)
    return ({ p with shares := p.shares.clear account }, ⟨sharePayout, 0, none⟩)

end Pool

end PredictionMarket
