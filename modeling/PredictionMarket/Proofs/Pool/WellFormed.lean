import PredictionMarket.Proofs.Pool.Run

/-!
# Well-formed pools

A pool has a reserve of each outcome, and as long as anybody has a stake, no reserve is empty. Once
the last stake is given back, nothing is left in any of them. All pools that can be reached are
well formed.
-/

namespace PredictionMarket.Pool

/-- A pool whose parts fit together. -/
structure WellFormed (p : Pool) : Prop where
  /-- There is something to choose between. -/
  two_le_outcomes : 2 ≤ p.outcomes
  /-- There is one reserve for each outcome. -/
  reserves_length : p.reserves.length = p.outcomes
  /-- A complete set is worth something. -/
  denomination_pos : 0 < p.denomination
  /-- The share balances are well formed. -/
  shares : p.shares.WellFormed
  /-- The number of pool tokens is not negative. -/
  supply_nonneg : 0 ≤ p.stakes.supply
  /-- With a stake in it, a pool has something of each outcome. -/
  funded : 0 < p.stakes.supply → ∀ r ∈ p.reserves, 0 < r
  /-- Without a stake, a pool has nothing. -/
  unfunded : p.stakes.supply = 0 → ∀ r ∈ p.reserves, r = 0

/-- A new pool is well formed. -/
theorem wellFormed_make {marketId outcomes decimals swapFee : Int} {token : Text} {p : Pool}
    (h : Pool.make marketId outcomes token decimals swapFee = .ok p) : p.WellFormed := by
  obtain ⟨htwo, -, rfl⟩ := make_ok h
  exact {
    two_le_outcomes := by
      dsimp only [Pool.outcomes]
      omega
    reserves_length := by simp [Pool.outcomes]
    denomination_pos := Int.natCast_pos.2 (Nat.pow_pos (by decide))
    shares := Shares.wellFormed_empty _
    supply_nonneg := le_rfl
    funded := fun h => absurd h (lt_irrefl _)
    unfunded := fun _ r hr => List.eq_of_mem_replicate hr }

/-- No reserve is negative. -/
theorem WellFormed.reserves_nonneg {p : Pool} (h : p.WellFormed) : ∀ r ∈ p.reserves, 0 ≤ r := by
  intro r hr
  rcases h.supply_nonneg.lt_or_eq with hpos | hzero
  · exact (h.funded hpos r hr).le
  · exact (h.unfunded hzero.symm r hr).ge

/-! ## Deposits -/

/-- A deposit is split among the outcomes of the pool. -/
theorem WellFormed.splits {p : Pool} (hp : p.WellFormed) {total : Int}
    {weights : Option (List Int)} {f : Curve.Funding}
    (h : p.splitDeposit total weights = .ok f) : f.Splits total p.outcomes := by
  rcases splitDeposit_ok h with ⟨-, hfunding⟩ | ⟨-, hfunding⟩
  · exact (Curve.initialFunding_ok hfunding).1
  · rw [← hp.reserves_length]
    exact (Curve.proportionalFunding_ok hfunding).1

/-- After a deposit there is something of each outcome. -/
theorem WellFormed.deposit_pos {p : Pool} (hp : p.WellFormed) {total : Int}
    {weights : Option (List Int)} {f : Curve.Funding}
    (h : p.splitDeposit total weights = .ok f) :
    ∀ r ∈ List.zipWith (· + ·) p.reserves f.added, 0 < r := by
  intro r hr
  rw [← List.map_uncurry_zip_eq_zipWith] at hr
  obtain ⟨⟨reserve, added⟩, hmem, rfl⟩ := List.mem_map.1 hr
  obtain ⟨hreserve, hadded⟩ := List.of_mem_zip hmem
  have hsplits := (hp.splits h).added_nonneg added hadded
  have hnonneg := hp.reserves_nonneg reserve hreserve
  rcases splitDeposit_ok h with ⟨-, hfunding⟩ | ⟨hsupply, -⟩
  · have hpos := (Curve.initialFunding_ok hfunding).2 added hadded
    exact add_pos_of_nonneg_of_pos hnonneg hpos
  · have hpos := hp.funded (lt_of_le_of_ne hp.supply_nonneg (Ne.symm hsupply)) reserve hreserve
    exact add_pos_of_pos_of_nonneg hpos hsplits

/-! ## Exits -/

/-- After a stake was given back, each reserve is less by the part of the stake. -/
theorem Planned.reserves_eq {p after : Pool} {sender : Text} {stake : Int} {plan : ExitPlan}
    (hplanned : p.Planned sender stake plan) (hcommitted : p.Committed sender plan after) :
    after.reserves =
      p.reserves.map fun r => r - Curve.shareOfReserve stake p.stakes.supply r := by
  rw [hcommitted.after_eq, hplanned.sharesOut_eq, List.zipWith_map_right, List.zipWith_self]

/-- After a stake was given back, there are as many fewer pool tokens. -/
theorem Planned.supply_eq {p after : Pool} {sender : Text} {stake : Int} {plan : ExitPlan}
    (hplanned : p.Planned sender stake plan) (hcommitted : p.Committed sender plan after) :
    after.stakes.supply = p.stakes.supply - stake := by
  rw [(Stakes.burn_ok hcommitted.stakes).2.2, hplanned.stake_eq]

/-- A pool stays well formed when a stake is given back. -/
theorem WellFormed.exit {p after : Pool} (hp : p.WellFormed) {sender : Text} {stake : Int}
    {plan : ExitPlan} (hplanned : p.Planned sender stake plan)
    (hcommitted : p.Committed sender plan after) : after.WellFormed := by
  have hreserves := hplanned.reserves_eq hcommitted
  have hsupply := hplanned.supply_eq hcommitted
  have hshares := Shares.credited_addAll hcommitted.shares
  have hstake := hplanned.stake_pos
  have hle := hplanned.stake_le_supply
  have hpos : 0 < p.stakes.supply := by omega
  refine ⟨?_, ?_, ?_, hshares.wellFormed hp.shares, by omega, fun hleft r hr => ?_,
    fun hnone r hr => ?_⟩
  · rw [hcommitted.sameTerms.outcomes]
    exact hp.two_le_outcomes
  · rw [hreserves, List.length_map, hp.reserves_length]
    exact hcommitted.sameTerms.outcomes.symm
  · rw [hcommitted.after_eq]
    exact hp.denomination_pos
  · rw [hreserves] at hr
    obtain ⟨reserve, hmem, rfl⟩ := List.mem_map.1 hr
    have hlt := Curve.shareOfReserve_lt hpos (show stake < p.stakes.supply by omega)
      (hp.funded hpos reserve hmem)
    omega
  · rw [hreserves, show stake = p.stakes.supply by omega] at hr
    obtain ⟨reserve, -, rfl⟩ := List.mem_map.1 hr
    rw [Curve.shareOfReserve_self hpos, Int.sub_self]

/-! ## All calls -/

/-- A trade keeps a pool well formed. -/
theorem Traded.wellFormed {p after : Pool} {sender : Text} {t : Trade Int} {r : Receipt}
    (h : p.Traded sender t after r) (hp : p.WellFormed) : after.WellFormed := by
  have houtcomes := h.sameTerms.outcomes
  have htwo := hp.two_le_outcomes.trans houtcomes.ge
  cases h with
  | addLiquidity _ hsplit _ hissued hgiven =>
    have hshares := Shares.credited_addAll hgiven
    obtain ⟨hminted, rfl⟩ := Stakes.mint_ok hissued
    have hsupply : 0 < p.stakes.supply + _ := add_pos_of_nonneg_of_pos hp.supply_nonneg hminted
    exact {
      two_le_outcomes := htwo
      reserves_length := by
        rw [List.length_zipWith, hp.reserves_length, (hp.splits hsplit).length_added, min_self]
        exact houtcomes.symm
      denomination_pos := hp.denomination_pos
      shares := hshares.wellFormed hp.shares
      supply_nonneg := hsupply.le
      funded := fun _ => hp.deposit_pos hsplit
      unfunded := fun hzero => absurd hzero hsupply.ne' }
  | exitPool hplanned hcommitted => exact hp.exit hplanned hcommitted
  | buy _ hfunded hquoted _ _ happlied _ hgiven =>
    have hshares := Shares.credited_add hgiven
    have hpos := Curve.applyBuy_pos hquoted happlied
    obtain ⟨ht, -⟩ := Curve.quoteBuy_ok hquoted
    obtain ⟨rfl, -⟩ := Curve.applyBuy_ok ht happlied
    refine ⟨htwo, ?_, hp.denomination_pos, hshares.wellFormed hp.shares, hp.supply_nonneg,
      fun _ => hpos, fun hzero => absurd hzero hfunded⟩
    rw [List.length_modify, List.length_map, hp.reserves_length]
    exact houtcomes.symm
  | sell _ hfunded hquoted _ _ _ happlied htaken _ =>
    have hshares := Shares.credited_subtract htaken
    obtain ⟨ht, -⟩ := Curve.quoteSell_ok hquoted
    obtain ⟨rfl, hpos⟩ := Curve.applySell_ok ht happlied
    refine ⟨htwo, ?_, hp.denomination_pos, hshares.wellFormed hp.shares, hp.supply_nonneg,
      fun _ => hpos, fun hzero => absurd hzero hfunded⟩
    rw [List.length_map, List.length_modify, hp.reserves_length]
    exact houtcomes.symm
  | redeem _ _ _ htaken _ =>
    have hshares := credited_takeSets htaken
    refine ⟨htwo, ?_, hp.denomination_pos,
      hshares.wellFormed hp.shares, hp.supply_nonneg, hp.funded, hp.unfunded⟩
    exact hp.reserves_length.trans houtcomes.symm

/-- A pool whose shares of an account are cleared stays well formed. -/
theorem WellFormed.clear {p : Pool} (hp : p.WellFormed) (account : Text) :
    WellFormed { p with shares := p.shares.clear account } :=
  { hp with shares := (Shares.credited_clear p.shares account).wellFormed hp.shares }

/-- A settlement keeps a pool well formed. -/
theorem Settled.wellFormed {p after : Pool} {account : Text} {numerator : Numerator}
    {s : Settlement} (h : p.Settled account numerator after s) (hp : p.WellFormed) :
    after.WellFormed := by
  cases h with
  | stake _ hplanned hcommitted => exact (hp.exit hplanned hcommitted).clear account
  | shares _ => exact hp.clear account

/-- All pools that can be reached are well formed. -/
theorem Reachable.wellFormed {p : Pool} (h : p.Reachable) : p.WellFormed := by
  refine h.induct wellFormed_make fun hp hcall => ?_
  rcases call_ok hcall with ⟨_, _, _, -, -, htraded⟩ | ⟨_, _, _, -, -, hsettled⟩
  · exact htraded.wellFormed hp
  · exact hsettled.wellFormed hp

end PredictionMarket.Pool
