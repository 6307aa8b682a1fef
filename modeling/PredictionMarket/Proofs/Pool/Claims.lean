import PredictionMarket.Proofs.Pool.Conservation
import PredictionMarket.Proofs.Pool.Ledger

/-!
# Claims after a resolution

A claim on a resolved pool is paid, or it is refused because the account is owed nothing; there is
no third way. A stake can always be given back in full, since the accounting of a pool whose ledgers
agree refuses nothing. What a refused account holds is worth less than one unit of collateral.
-/

namespace PredictionMarket

/-- Amounts of the outcomes of a table that are not negative can be added. -/
theorem Shares.exists_addFrom (account : Text) {amounts : List Int} (first : Nat) {s : Shares}
    (hs : s.WellFormed) (hrange : first + amounts.length ≤ s.outcomes)
    (hamounts : ∀ amount ∈ amounts, 0 ≤ amount) :
    ∃ s', (amounts.zipIdx first).foldlM
      (fun (s : Shares) ((amount, outcome) : Int × Nat) =>
        if amount = 0 then Except.ok s else s.add account outcome amount) s = .ok s' := by
  induction amounts generalizing first s with
  | nil => exact ⟨s, rfl⟩
  | cons amount amounts ih =>
    rw [List.length_cons] at hrange
    have hamount : 0 ≤ amount := hamounts amount List.mem_cons_self
    have hrest : ∀ amount ∈ amounts, 0 ≤ amount :=
      fun amount h => hamounts amount (List.mem_cons_of_mem _ h)
    simp only [List.zipIdx_cons, List.foldlM_cons]
    by_cases hzero : amount = 0
    · rw [if_pos hzero, ok_bind]
      exact ih (first + 1) hs (by omega) hrest
    · have hbalance := hs.balance_nonneg account first
      have hadd : s.add account first amount =
          .ok (s.store account first (s.balance account first + amount)) :=
        add_eq_ok.2 ⟨by omega, by omega, rfl⟩
      rw [if_neg hzero, hadd, ok_bind]
      refine ih (first + 1) (hs.store (by omega) (by omega)) ?_ hrest
      have houtcomes : (s.store account first (s.balance account first + amount)).outcomes =
          s.outcomes := rfl
      omega

namespace FeeState

/-- What can be paid can be booked. -/
theorem exists_withdraw {s : FeeState} (hweight : 0 ≤ s.weight) (hwithdrawn : 0 ≤ s.withdrawn)
    (stake supply withdrawn : Int) : ∃ w, s.withdraw stake supply withdrawn = .ok w := by
  have hamount := s.withdrawable_nonneg stake supply withdrawn
  unfold withdraw
  by_cases hzero : s.withdrawable stake supply withdrawn = 0
  · exact ⟨_, if_pos hzero⟩
  · have hmake : make s.weight (s.withdrawn + s.withdrawable stake supply withdrawn) =
        .ok ⟨s.weight, s.withdrawn + s.withdrawable stake supply withdrawn⟩ :=
      make_eq_ok.2 ⟨hweight, by omega, rfl⟩
    simp only [hzero, if_false, hmake, ok_bind]
    exact ⟨_, rfl⟩

/-- A stake whose weight is part of the whole can be given back. -/
theorem exists_onBurn {s : FeeState} {supply burned : Int} (hburned : 0 < burned)
    (hle : burned ≤ supply) (hreleased : s.releasedWeight supply burned ≤ s.weight)
    (withdrawn : Int) : ∃ left, s.onBurn supply burned withdrawn = .ok left := by
  have hmake : make (s.weight - s.releasedWeight supply burned)
        (max 0 (s.withdrawn - min (s.releasedWeight supply burned) withdrawn)) =
      .ok ⟨s.weight - s.releasedWeight supply burned,
        max 0 (s.withdrawn - min (s.releasedWeight supply burned) withdrawn)⟩ :=
    make_eq_ok.2 ⟨by omega, le_max_left _ _, rfl⟩
  rw [onBurn, refuseIf_bind, if_neg (not_le.2 hburned), refuseIf_bind, if_neg (not_lt.2 hle)]
  simp only [hmake, ok_bind]
  exact ⟨_, rfl⟩

end FeeState

namespace Pool

/-! ## Giving a stake back -/

/-- Giving back any part of a stake can be planned. -/
theorem Ledgered.exists_planExit {p : Pool} (h : p.Ledgered) {account : Text} {stake : Int}
    (hstake : 0 < stake) (hle : stake ≤ p.stakes.balance account) :
    ∃ plan, p.planExit account stake = .ok plan := by
  have hsupply : stake ≤ p.stakes.supply := hle.trans (h.stakes.balance_le_supply account)
  have hwithdrawn : 0 ≤ p.fees.withdrawn := by
    rw [← h.withdrawn_total]
    exact h.withdrawn_positive.total_nonneg
  have hreleased := (h.releasedWeight_le hstake hsupply).2
  obtain ⟨w, hpaid⟩ := FeeState.exists_withdraw h.weight_nonneg hwithdrawn
    (p.stakes.balance account) p.stakes.supply (p.withdrawnBy account)
  have hstate : w.state.weight = p.fees.weight := by
    rw [FeeState.withdraw_ok hpaid]
  obtain ⟨⟨withdrawn, state⟩, hburn⟩ := FeeState.exists_onBurn (s := w.state) hstake hsupply
    (by rwa [FeeState.releasedWeight, hstate]) w.withdrawn
  have hrelease : Curve.release stake p.reserves p.stakes.supply = .ok _ :=
    Curve.release_eq_ok.2 ⟨hstake, hsupply, rfl⟩
  rw [planExit, refuseIf_bind, if_neg (not_le.2 hstake), refuseIf_bind, if_neg (not_lt.2 hle)]
  simp only [hpaid, hburn, hrelease, Except.mapError, ok_bind]
  exact ⟨_, rfl⟩

/-- Giving a stake back can be carried out once it is planned. -/
theorem WellFormed.exists_commitExit {p : Pool} (hp : p.WellFormed) {account : Text} {stake : Int}
    {plan : ExitPlan} (hplanned : p.Planned account stake plan) :
    ∃ after, p.commitExit account plan = .ok after := by
  have hstake := hplanned.stake_pos
  have hle := hplanned.stake_le
  have hsupply : 0 < p.stakes.supply := hstake.trans_le hplanned.stake_le_supply
  have hamounts : ∀ amount ∈ plan.sharesOut, 0 ≤ amount := by
    rw [hplanned.sharesOut_eq]
    intro amount hamount
    obtain ⟨reserve, hreserve, rfl⟩ := List.mem_map.1 hamount
    exact Curve.shareOfReserve_nonneg hstake.le hsupply (hp.reserves_nonneg reserve hreserve)
  have hlength : plan.sharesOut.length = p.shares.outcomes := by
    rw [hplanned.sharesOut_eq, List.length_map]
    exact hp.reserves_length
  obtain ⟨shares, hshares⟩ := Shares.exists_addFrom account 0 hp.shares (by omega) hamounts
  have hshares : p.shares.addAll account plan.sharesOut = .ok shares := hshares
  rw [← hplanned.stake_eq] at hstake hle
  rw [commitExit, Stakes.burn, refuseIf_bind, if_neg (not_le.2 hstake), refuseIf_bind,
    if_neg (not_lt.2 hle)]
  simp only [hshares, Except.mapError, ok_bind, pure, Except.pure]
  exact ⟨_, rfl⟩

/-! ## What a claim takes out -/

/-- What an account is paid for of each outcome: its shares, and what its stake releases. -/
def payable (p : Pool) (account : Text) : List Int :=
  List.zipWith (· + ·) (p.shares.allOf account)
    (p.reserves.map (Curve.shareOfReserve (p.stakes.balance account) p.stakes.supply))

/-- There is one amount for each outcome. -/
theorem WellFormed.length_payable {p : Pool} (hp : p.WellFormed) (account : Text) :
    (p.payable account).length = p.outcomes := by
  rw [payable, List.length_zipWith, Shares.length_allOf, List.length_map, hp.reserves_length]
  exact min_self _

/-- What an account is paid for of an outcome. -/
theorem WellFormed.getD_payable {p : Pool} (hp : p.WellFormed) (account : Text) {o : Nat}
    (ho : o < p.outcomes) :
    (p.payable account).getD o 0 = p.shares.balance account o +
      Curve.shareOfReserve (p.stakes.balance account) p.stakes.supply (p.reserves.getD o 0) := by
  have hlength : o < p.reserves.length := by rwa [hp.reserves_length]
  have hbalances : o < (p.shares.allOf account).length := by rwa [Shares.length_allOf]
  rw [payable, getD_zipWith _ hbalances (by rwa [List.length_map]), getD_map_of_lt _ hlength,
    Shares.getD_allOf _ _ ho]

/-- Without a stake, an account is paid for its shares. -/
theorem WellFormed.payable_of_no_stake {p : Pool} (hp : p.WellFormed) {account : Text}
    (hstake : p.stakes.balance account = 0) : p.payable account = p.shares.allOf account := by
  have hlength : (p.shares.allOf account).length = p.reserves.length :=
    (Shares.length_allOf _ _).trans hp.reserves_length.symm
  refine List.ext_getElem (by simp [payable, hlength]) fun o ho _ => ?_
  rw [payable] at ho
  simp only [payable, List.getElem_zipWith, List.getElem_map, hstake,
    Curve.shareOfReserve_zero, add_zero]

/-- What an account is paid for is not worth a negative amount. -/
theorem weighted_payable_nonneg {p : Pool} (hp : p.WellFormed) (hledgered : p.Ledgered)
    {vector : List Int} (hvector : Numerator.Divides vector p.outcomes p.denomination)
    (account : Text) : 0 ≤ weighted (p.payable account) vector := by
  rw [weighted_eq_sum (hp.length_payable account) hvector.length_eq]
  refine Finset.sum_nonneg fun o ho => mul_nonneg ?_ (getD_nonneg_of_divides hvector o)
  have ho : o < p.outcomes := Finset.mem_range.1 ho
  have hlength : o < p.reserves.length := by rwa [hp.reserves_length]
  have hbalance := hp.shares.balance_nonneg account o
  have hstake := hledgered.stakes.balance_nonneg account
  have hreserve : 0 ≤ p.reserves.getD o 0 := by
    rw [List.getD_eq_getElem _ _ hlength]
    exact hp.reserves_nonneg _ (List.getElem_mem hlength)
  have hreleased : 0 ≤ Curve.shareOfReserve (p.stakes.balance account) p.stakes.supply
      (p.reserves.getD o 0) :=
    Curve.floorDiv_nonneg (mul_nonneg hstake hreserve) hp.supply_nonneg
  rw [hp.getD_payable account ho]
  omega

/-- A pool, and the pool without anything that an account has in it. -/
structure Released (p : Pool) (account : Text) (after : Pool) : Prop where
  /-- The account has no stake. -/
  stake : after.stakes.balance account = 0
  /-- The other stakes stay. -/
  stakes : ∀ a ≠ account, after.stakes.balance a = p.stakes.balance a
  /-- The pool tokens of the account are gone. -/
  supply : after.stakes.supply = p.stakes.supply - p.stakes.balance account
  /-- The account has no shares. -/
  shares : ∀ o, after.shares.balance account o = 0
  /-- The other shares stay. -/
  others : ∀ a ≠ account, ∀ o, after.shares.balance a o = p.shares.balance a o
  /-- The shares of the account are gone. -/
  left : ∀ o, after.shares.supply o = p.shares.supply o - p.shares.balance account o
  /-- Each reserve is less by the part of the stake. -/
  reserves : after.reserves = p.reserves.map fun r =>
    r - Curve.shareOfReserve (p.stakes.balance account) p.stakes.supply r

/-- Without a stake, only the shares of an account are taken out. -/
theorem released_clear {p : Pool} {account : Text} (hstake : p.stakes.balance account = 0) :
    p.Released account { p with shares := p.shares.clear account } := by
  have hcleared := Shares.credited_clear p.shares account
  have hnothing : (fun r => r - Curve.shareOfReserve 0 p.stakes.supply r) = id := by
    funext r
    rw [Curve.shareOfReserve_zero, sub_zero, id]
  refine ⟨hstake, fun _ _ => rfl, by rw [hstake, sub_zero], fun o => ?_, fun a ha o => ?_,
    fun o => ?_, ?_⟩
  · rw [hcleared.balance, if_pos rfl, add_neg_cancel]
  · exact hcleared.balance_of_ne ha o
  · rw [hcleared.supply, sub_eq_add_neg]
  · rw [hstake, hnothing, List.map_id]

/-- With all of its stake given back and its shares cleared, nothing of an account is left. -/
theorem Planned.released {p left : Pool} {account : Text} {plan : ExitPlan}
    (hplanned : p.Planned account (p.stakes.balance account) plan)
    (hcommitted : p.Committed account plan left) :
    p.Released account { left with shares := left.shares.clear account } := by
  have hcleared := Shares.credited_clear left.shares account
  have hgiven := Shares.credited_addAll hcommitted.shares
  have hburned := Stakes.balance_burn hcommitted.stakes
  obtain ⟨-, -, hsupply⟩ := Stakes.burn_ok hcommitted.stakes
  rw [hplanned.stake_eq] at hburned hsupply
  refine ⟨?_, fun a ha => ?_, hsupply, fun o => ?_, fun a ha o => ?_, fun o => ?_, ?_⟩
  · rw [hburned, if_pos rfl, sub_self]
  · rw [hburned, if_neg ha, sub_zero]
  · rw [hcleared.balance, if_pos rfl, add_neg_cancel]
  · exact (hcleared.balance_of_ne ha o).trans (hgiven.balance_of_ne ha o)
  · rw [hcleared.supply, hgiven.supply, hgiven.balance, if_pos rfl]
    ring
  · have hreserves := hplanned.reserves_eq hcommitted
    exact hreserves

section

variable {p : Pool} {numerator : Numerator} {vector : List Int} {account : Text}

/-- A claim of an account with a stake is refused if the account is owed nothing; otherwise the
stake is given back as planned, and the shares are cleared. -/
theorem payout_of_stake {plan : ExitPlan}
    (hvector : numerator.vector p.outcomes p.denomination = .ok vector)
    (hstake : 0 < p.stakes.balance account)
    (hplan : p.planExit account (p.stakes.balance account) = .ok plan) :
    p.payout account numerator =
      if Curve.floorDiv (weighted (p.payable account) vector) p.denomination + plan.fees = 0 then
        .error (.nothingToClaim account)
      else (p.commitExit account plan).map fun left =>
        ({ left with shares := left.shares.clear account },
          ⟨Curve.floorDiv (weighted (p.payable account) vector) p.denomination, plan.fees,
            some plan.result⟩) := by
  have hall : List.zipWith (· + ·) (p.shares.allOf account) plan.sharesOut = p.payable account := by
    rw [(planExit_ok hplan).sharesOut_eq, payable]
  unfold payout
  rw [refuseIf_bind, if_neg (by simp [Numerator.isResolved_of_vector hvector])]
  simp only [hvector, Except.mapError, ok_bind, if_pos hstake, hplan, hall, refuseIf_bind]
  rfl

/-- A claim of an account without a stake is refused if its shares are worth nothing; otherwise the
shares are cleared. -/
theorem payout_of_no_stake (hvector : numerator.vector p.outcomes p.denomination = .ok vector)
    (hstake : p.stakes.balance account ≤ 0) :
    p.payout account numerator =
      if Curve.floorDiv (weighted (p.shares.allOf account) vector) p.denomination = 0 then
        .error (.nothingToClaim account)
      else .ok ({ p with shares := p.shares.clear account },
        ⟨Curve.floorDiv (weighted (p.shares.allOf account) vector) p.denomination, 0, none⟩) := by
  unfold payout
  rw [refuseIf_bind, if_neg (by simp [Numerator.isResolved_of_vector hvector])]
  simp only [hvector, Except.mapError, ok_bind, if_neg (not_lt.2 hstake), refuseIf_bind]
  rfl

end

/-- A claim on a resolved pool is paid what the account has, which is taken out; or it is refused,
and what the account has is worth less than one unit of collateral. -/
theorem payout_cases {p : Pool} (hp : p.WellFormed) (hledgered : p.Ledgered) {numerator : Numerator}
    {vector : List Int} (hvector : numerator.vector p.outcomes p.denomination = .ok vector)
    (account : Text) :
    (∃ after s, p.payout account numerator = .ok (after, s) ∧ p.Released account after ∧
      s.sharePayout = Curve.floorDiv (weighted (p.payable account) vector) p.denomination) ∨
    p.payout account numerator = .error (.nothingToClaim account) ∧
      Curve.floorDiv (weighted (p.payable account) vector) p.denomination = 0 := by
  have hstake_nonneg := hledgered.stakes.balance_nonneg account
  have hworth := Curve.floorDiv_nonneg (weighted_payable_nonneg hp hledgered
    (Numerator.vector_ok hp.denomination_pos.le hvector) account) hp.denomination_pos.le
  by_cases hstake : 0 < p.stakes.balance account
  · obtain ⟨plan, hplan⟩ := hledgered.exists_planExit hstake le_rfl
    have hplanned := planExit_ok hplan
    have hfees := hplanned.fees_nonneg
    rw [payout_of_stake hvector hstake hplan]
    split
    · exact .inr ⟨rfl, by omega⟩
    · obtain ⟨left, hcommit⟩ := hp.exists_commitExit hplanned
      rw [hcommit]
      exact .inl ⟨_, _, rfl, hplanned.released (commitExit_ok hcommit), rfl⟩
  · have hnone : p.stakes.balance account = 0 := by omega
    rw [payout_of_no_stake hvector hnone.le, hp.payable_of_no_stake hnone]
    split
    · next hzero => exact .inr ⟨rfl, hzero⟩
    · exact .inl ⟨_, _, rfl, released_clear hnone, rfl⟩

end Pool

end PredictionMarket
