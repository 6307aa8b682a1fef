import PredictionMarket.Proofs.Pool.Leaving

/-!
# Claiming with a stake

A claim gives the whole stake of the account back and pays for the shares that it releases before
they are credited. It comes to the same as giving the stake back first and claiming the shares then,
except that the claim is refused as a whole only if neither fees nor shares are owed.
-/

namespace PredictionMarket.Pool

variable {p left : Pool} {account : Text} {numerator : Numerator} {vector : List Int}
  {plan : ExitPlan}

/-- With its whole stake given back, an account has the shares that a claim is paid for. -/
theorem Planned.allOf_eq_payable (hp : p.WellFormed)
    (hplanned : p.Planned account (p.stakes.balance account) plan)
    (hcommitted : p.Committed account plan left) :
    left.shares.allOf account = p.payable account := by
  have hgiven := Shares.credited_addAll hcommitted.shares
  have houtcomes := hcommitted.sameTerms.outcomes
  refine List.ext_getElem ?_ fun o ho ho' => ?_
  · rw [Shares.length_allOf, hp.length_payable]
    exact houtcomes
  · have hbalance : o < left.shares.outcomes := by rwa [Shares.length_allOf] at ho
    have hout : o < p.outcomes := by rwa [hp.length_payable] at ho'
    have hreserve : o < p.reserves.length := hp.reserves_length.symm ▸ hout
    rw [← List.getD_eq_getElem _ 0 ho, ← List.getD_eq_getElem _ 0 ho',
      Shares.getD_allOf _ _ hbalance, hp.getD_payable account hout, hgiven.balance, if_pos rfl,
      hplanned.sharesOut_eq, getD_map_of_lt _ hreserve]

/-- After the whole stake is given back, a claim is paid for the shares of the account, which are
those that the claim with the stake is paid for. -/
theorem Planned.payout_of_left (hp : p.WellFormed)
    (hvector : numerator.vector p.outcomes p.denomination = .ok vector)
    (hplanned : p.Planned account (p.stakes.balance account) plan)
    (hcommitted : p.Committed account plan left) :
    left.payout account numerator =
      if Curve.floorDiv (weighted (p.payable account) vector) p.denomination = 0 then
        .error (.nothingToClaim account)
      else .ok ({ left with shares := left.shares.clear account },
        ⟨Curve.floorDiv (weighted (p.payable account) vector) p.denomination, 0, none⟩) := by
  have hterms := hcommitted.sameTerms
  have hsame : numerator.vector left.outcomes left.denomination = .ok vector := by
    rwa [hterms.outcomes, hterms.denomination]
  have hnone : left.stakes.balance account = 0 := by
    rw [hplanned.balance_eq hcommitted, sub_self]
  rw [payout_of_no_stake hsame hnone.le, hplanned.allOf_eq_payable hp hcommitted,
    hterms.denomination]

/-- **Claiming with a stake is leaving first**: in a pool that can be reached, an account with a
stake can give it back, whatever the resolution. A claim that is paid instead pays the same fees and
hands out the same shares; claiming after the exit pays for the shares as much and leaves the same
pool, unless they are worth nothing. A claim that is refused is so because nothing is owed: the exit
pays no fees then, and claiming after it is refused as well. -/
theorem claiming_is_leaving_first (hp : p.Reachable)
    (hvector : numerator.vector p.outcomes p.denomination = .ok vector)
    (hstake : 0 < p.stakes.balance account) :
    ∃ left e, p.exitPool account (p.stakes.balance account) = .ok (left, e) ∧
      (∀ after s, p.payout account numerator = .ok (after, s) →
        e.fees = s.fees ∧ s.exit = some e ∧ 0 ≤ s.sharePayout ∧
          (0 < s.sharePayout →
            left.payout account numerator = .ok (after, ⟨s.sharePayout, 0, none⟩)) ∧
          (s.sharePayout = 0 →
            left.payout account numerator = .error (.nothingToClaim account))) ∧
      ∀ error, p.payout account numerator = .error error →
        error = .nothingToClaim account ∧ e.fees = 0 ∧
          left.payout account numerator = .error (.nothingToClaim account) := by
  have hwell := hp.wellFormed
  obtain ⟨plan, hplan⟩ := hp.ledgered.exists_planExit hstake le_rfl
  have hplanned := planExit_ok hplan
  obtain ⟨left, hcommit⟩ := hwell.exists_commitExit hplanned
  have hexit : p.exitPool account (p.stakes.balance account) = .ok (left, plan.result) := by
    rw [exitPool, hplan, ok_bind, hcommit]
    rfl
  have hwith := payout_of_stake hvector hstake hplan
  have hthen := hplanned.payout_of_left hwell hvector (commitExit_ok hcommit)
  have hworth := Curve.floorDiv_nonneg (weighted_payable_nonneg hwell hp.ledgered
    (Numerator.vector_ok hwell.denomination_pos.le hvector) account) hwell.denomination_pos.le
  have hfees := hplanned.fees_nonneg
  rw [hcommit] at hwith
  -- Both ways value the same shares, and differ only in what they refuse.
  generalize Curve.floorDiv (weighted (p.payable account) vector) p.denomination = worth at *
  refine ⟨left, plan.result, hexit, fun after s hpaid => ?_, fun error hrefused => ?_⟩
  · rw [hwith] at hpaid
    split at hpaid
    · cases hpaid
    · obtain ⟨rfl, rfl⟩ := Prod.mk.inj (Except.ok.inj hpaid)
      exact ⟨rfl, rfl, hworth, fun hpos => hthen.trans (if_neg hpos.ne'),
        fun hzero => hthen.trans (if_pos hzero)⟩
  · rw [hwith] at hrefused
    split at hrefused
    · next hnothing =>
      have hzero : worth = 0 := by omega
      exact ⟨(Except.error.inj hrefused).symm, (by omega : plan.fees = 0),
        hthen.trans (if_pos hzero)⟩
    · cases hrefused

/-- The provider of a pool with a fee is paid the fee and for all shares at once, or the fee first
and the shares then. -/
theorem claiming_with_ten_is_leaving_first :
    earning.Reachable ∧ (Numerator.valid [1, 0]).vector 2 1 = .ok [1, 0] ∧
      0 < earning.stakes.balance "a" ∧
      ∃ left e after s, earning.exitPool "a" 10 = .ok (left, e) ∧
        earning.payout "a" (.valid [1, 0]) = .ok (after, s) ∧ s = ⟨9, 1, some ⟨10, 1, [9, 8]⟩⟩ ∧
        e.fees = s.fees ∧ s.exit = some e ∧
        left.payout "a" (.valid [1, 0]) = .ok (after, ⟨9, 0, none⟩) := by
  have hvector : (Numerator.valid [1, 0]).vector 2 1 = .ok [1, 0] := rfl
  obtain ⟨left, e, hexit, hclaimed, -⟩ :=
    @claiming_is_leaving_first earning "a" _ _ reachable_earning hvector (by decide)
  have hpayout : earning.payout "a" (.valid [1, 0]) = .ok (_, ⟨9, 1, some ⟨10, 1, [9, 8]⟩⟩) := rfl
  obtain ⟨hfees, hgiven, -, hthen, -⟩ := hclaimed _ _ hpayout
  exact ⟨reachable_earning, hvector, by decide, left, e, _, _, hexit, hpayout, rfl, hfees, hgiven,
    hthen (by decide)⟩

end PredictionMarket.Pool
