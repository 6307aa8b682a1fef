import PredictionMarket.Proofs.Pool.WellFormed

/-!
# Empty pools

A pool is either funded or empty, and nothing lies in between. As long as there are pool tokens, it
has something of each outcome, so everything that is quoted by dividing by a reserve can be quoted.
When the last ones are given back, the reserves go with them, and so does all of the weight that the
fees are attributed by: the next provider finds a pool that is like a new one.
-/

namespace PredictionMarket.Pool

/-- Without pool tokens, no fees are attributed to anybody. -/
def Unburdened (p : Pool) : Prop :=
  p.stakes.supply = 0 → p.fees.weight = 0

/-- A new pool has no fees to attribute. -/
theorem unburdened_make {marketId outcomes decimals swapFee : Int} {token : Text} {p : Pool}
    (h : Pool.make marketId outcomes token decimals swapFee = .ok p) : p.Unburdened := by
  obtain ⟨-, -, rfl⟩ := make_ok h
  exact fun _ => rfl

/-- The last stake that is given back takes the whole weight along. -/
theorem Committed.unburdened {p after : Pool} {sender : Text} {stake : Int} {plan : ExitPlan}
    (hplanned : p.Planned sender stake plan) (hcommitted : p.Committed sender plan after) :
    after.Unburdened := by
  intro hnone
  have hsupply := hplanned.supply_eq hcommitted
  have hstake := hplanned.stake_pos
  have hall : stake = p.stakes.supply := by omega
  obtain ⟨w, hpaid, -, hburn⟩ := hplanned.paid
  obtain rfl := FeeState.withdraw_ok hpaid
  obtain ⟨-, -, -, hstate⟩ := FeeState.onBurn_ok hburn
  have hreleased := FeeState.releasedWeight_self p.fees (show 0 < p.stakes.supply by omega)
  -- A payment of fees leaves the weight alone, so what is released is the weight before it.
  rw [hcommitted.after_eq]
  dsimp only
  rw [hstate, hall]
  exact Int.sub_eq_zero.2 hreleased.symm

/-- A trade leaves no weight in an empty pool. -/
theorem Traded.unburdened {p after : Pool} {sender : Text} {t : Trade Int} {r : Receipt}
    (h : p.Traded sender t after r) (hp : p.WellFormed) (hempty : p.Unburdened) :
    after.Unburdened := by
  intro hnone
  cases h with
  | addLiquidity _ _ _ hissued _ =>
    obtain ⟨hminted, rfl⟩ := Stakes.mint_ok hissued
    have hsupply := hp.supply_nonneg
    dsimp only at hnone
    omega
  | exitPool hplanned hcommitted => exact hcommitted.unburdened hplanned hnone
  | buy _ hfunded _ _ _ _ _ _ => exact absurd hnone hfunded
  | sell _ hfunded _ _ _ _ _ _ _ => exact absurd hnone hfunded
  | redeem _ _ hcharged _ haccrued =>
    -- Sets that are redeemed without pool tokens are free of the fee.
    have hfree : ¬0 < p.stakes.supply := not_lt.2 hnone.le
    rw [redeemFee, if_neg hfree, Except.ok.injEq] at hcharged
    obtain ⟨-, rfl⟩ := FeeState.accrue_ok haccrued
    have hweight := hempty hnone
    dsimp only
    omega

/-- A settlement leaves no weight in an empty pool. -/
theorem Settled.unburdened {p after : Pool} {account : Text} {numerator : Numerator}
    {s : Settlement} (h : p.Settled account numerator after s) (hempty : p.Unburdened) :
    after.Unburdened := by
  cases h with
  | stake _ hplanned hcommitted =>
    have hleft := hcommitted.unburdened hplanned
    exact hleft
  | shares _ => exact hempty

/-- No pool that can be reached has fees to attribute and nobody to attribute them to. -/
theorem Reachable.unburdened {p : Pool} (h : p.Reachable) : p.Unburdened := by
  have hboth : p.WellFormed ∧ p.Unburdened := by
    refine h.induct (P := fun p => p.WellFormed ∧ p.Unburdened)
      (fun hmake => ⟨wellFormed_make hmake, unburdened_make hmake⟩) fun hp hcall => ?_
    obtain ⟨hp, hempty⟩ := hp
    rcases call_ok hcall with ⟨_, _, _, -, -, htraded⟩ | ⟨_, _, _, -, -, hsettled⟩
    · exact ⟨htraded.wellFormed hp, htraded.unburdened hp hempty⟩
    · exact ⟨hsettled.wellFormed hp, hsettled.unburdened hempty⟩
  exact hboth.2

/-- After every run of a new pool there is one reserve for each of its outcomes. They are all
positive as long as there are pool tokens, and without pool tokens they are all empty, with no fees
left to attribute. -/
theorem reserves_match_supply_after_run {marketId outcomes decimals swapFee : Int} {token : Text}
    {new : Pool} (hmake : Pool.make marketId outcomes token decimals swapFee = .ok new)
    (calls : List PoolCall) :
    ((new.run calls).1.reserves.length : Int) = outcomes ∧
      0 ≤ (new.run calls).1.stakes.supply ∧
      (0 < (new.run calls).1.stakes.supply → ∀ r ∈ (new.run calls).1.reserves, 0 < r) ∧
      ((new.run calls).1.stakes.supply = 0 →
        (∀ r ∈ (new.run calls).1.reserves, r = 0) ∧ (new.run calls).1.fees.weight = 0) := by
  have hreachable : (new.run calls).1.Reachable := ⟨_, _, _, _, _, new, calls, hmake, rfl⟩
  have hwell := hreachable.wellFormed
  have hterms := sameTerms_run new calls
  refine ⟨?_, hwell.supply_nonneg, hwell.funded, fun hnone => ?_⟩
  · rw [hwell.reserves_length, hterms.outcomes]
    exact outcomes_eq_of_make hmake
  · exact ⟨hwell.unfunded hnone, hreachable.unburdened hnone⟩

/-- A provider funds the first outcome at three times the price of the second, a trader buys and
sells, and the provider leaves in two steps. -/
def departure : List PoolCall :=
  [.trade "a" (.addLiquidity 1000 (some [1, 3])), .trade "b" (.buy 500 (.int 1) 0),
    .trade "b" (.sell 100 (.int 1) 1000), .trade "a" (.exitPool 400), .trade "a" (.exitPool 600)]

/-- After the first step there are 600 pool tokens, all reserves are positive and fees are
attributed; after the second, nothing of it is left. -/
theorem reserves_match_supply_after_departure :
    ∃ p, Pool.make 0 2 "T" 0 100 = .ok p ∧ (p.run departure).2.length = 5 ∧
      (p.run (departure.take 4)).1.stakes.supply = 600 ∧
      (p.run (departure.take 4)).1.fees.weight = 4 ∧
      (∀ r ∈ (p.run (departure.take 4)).1.reserves, 0 < r) ∧
      (p.run departure).1.stakes.supply = 0 ∧
      (∀ r ∈ (p.run departure).1.reserves, r = 0) ∧ (p.run departure).1.fees.weight = 0 := by
  have hmake : Pool.make 0 2 "T" 0 100 = .ok _ := rfl
  refine ⟨_, hmake, by decide +kernel, by decide +kernel, by decide +kernel, ?_, by decide +kernel,
    ?_⟩
  · obtain ⟨-, -, hfunded, -⟩ := reserves_match_supply_after_run hmake (departure.take 4)
    exact hfunded (by decide +kernel)
  · obtain ⟨-, -, -, hunfunded⟩ := reserves_match_supply_after_run hmake departure
    exact hunfunded (by decide +kernel)

end PredictionMarket.Pool
