import PredictionMarket.Pool.Settlement
import PredictionMarket.Proofs.Payout
import PredictionMarket.Proofs.Pool.Trading

/-!
# What a settlement does to a pool

An account that is paid after resolution loses all its shares. If it has a stake, the stake is given
back first, as in a trade, and the shares that it releases are paid for as well.
-/

namespace PredictionMarket.Pool

/-- A pool, an account that is paid by a resolution, and what comes of it: the pool afterwards and
the settlement. -/
inductive Settled (p : Pool) (account : Text) (numerator : Numerator) :
    Pool → Settlement → Prop
  /-- All of a stake is given back, and the shares that it releases are paid for with the others. -/
  | stake {vector : List Int} {plan : ExitPlan} {left : Pool}
      (resolved : numerator.vector p.outcomes p.denomination = .ok vector)
      (planned : p.Planned account (p.stakes.balance account) plan)
      (committed : p.Committed account plan left) :
      Settled p account numerator { left with shares := left.shares.clear account }
        ⟨Curve.floorDiv
            (weighted (List.zipWith (· + ·) (p.shares.allOf account) plan.sharesOut) vector)
            p.denomination,
          plan.fees, some plan.result⟩
  /-- Without a stake, the shares of the account are paid for. -/
  | shares {vector : List Int}
      (resolved : numerator.vector p.outcomes p.denomination = .ok vector) :
      Settled p account numerator { p with shares := p.shares.clear account }
        ⟨Curve.floorDiv (weighted (p.shares.allOf account) vector) p.denomination, 0, none⟩

/-- A successful settlement is one of the two. -/
theorem payout_ok {p after : Pool} {account : Text} {numerator : Numerator} {s : Settlement}
    (h : p.payout account numerator = .ok (after, s)) : p.Settled account numerator after s := by
  unfold payout at h
  simp only [bind_eq_ok, refuseIf_eq_ok, mapError_eq_ok] at h
  obtain ⟨_, -, vector, hvector, h⟩ := h
  split at h
  · simp only [bind_eq_ok, refuseIf_eq_ok, pure, Except.pure, Except.ok.injEq,
      Prod.mk.injEq] at h
    obtain ⟨plan, hplan, _, -, left, hcommit, rfl, rfl⟩ := h
    exact .stake hvector (planExit_ok hplan) (commitExit_ok hcommit)
  · simp only [bind_eq_ok, refuseIf_eq_ok, pure, Except.pure, Except.ok.injEq,
      Prod.mk.injEq] at h
    obtain ⟨_, -, rfl, rfl⟩ := h
    exact .shares hvector

/-- A settlement keeps the terms. -/
theorem Settled.sameTerms {p after : Pool} {account : Text} {numerator : Numerator}
    {s : Settlement} (h : p.Settled account numerator after s) : p.SameTerms after := by
  cases h with
  | stake _ _ hcommitted =>
    have hterms := hcommitted.sameTerms
    exact ⟨hterms.marketId, hterms.token, hterms.denomination, hterms.swapFee, hterms.outcomes⟩
  | shares _ => exact ⟨rfl, rfl, rfl, rfl, rfl⟩

end PredictionMarket.Pool
