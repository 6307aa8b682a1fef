import PredictionMarket.Proofs.Pool.WellFormed
import Mathlib.Algebra.Order.BigOperators.Ring.List

/-!
# What stands behind a pool token

The reserves of a pool, multiplied, and its tokens, each to the power of the number of outcomes,
tell what stands behind one token. Trades, redemptions and exits never lower it. A deposit rounds
twice: what joins a reserve is rounded down, and so is the stake. The first works against the pool,
the second for it, and nothing makes the second the larger. For deposits the law therefore holds
exactly when the rounding of the stake covers the rounding of the reserves.
-/

namespace PredictionMarket

namespace Curve

/-- An amount that grows by a part of itself, `total` over `top`, rounded down; in units of one over
`top`, so that the rounding shows as a remainder. -/
def grown (total top amount : Int) : Int :=
  amount * (top + total) - total * amount % top

/-- An amount with a rounded part of it on top is the exact one less the remainder. -/
theorem mul_add_floorDiv (total amount : Int) {top : Int} (htop : 0 < top) :
    top * (amount + floorDiv (total * amount) top) = grown total top amount := by
  rw [mul_add, mul_floorDiv _ htop, grown]
  ring

/-- A factor of every reserve is a factor of the product for each of them. -/
theorem prod_map_const_mul (reserves : List Int) (k : Int) (f : Int → Int) :
    (reserves.map fun r => k * f r).prod = k ^ reserves.length * (reserves.map f).prod := by
  rw [List.prod_map_mul, List.map_const', List.prod_replicate]

/-- The remainder only takes off what is exact. -/
theorem grown_le (total amount : Int) {top : Int} (htop : 0 < top) :
    grown total top amount ≤ (top + total) * amount := by
  have hremainder := Int.emod_nonneg (total * amount) htop.ne'
  unfold grown
  linarith

/-- Growth is exact where the division leaves no remainder. -/
theorem grown_eq_iff (total top amount : Int) :
    grown total top amount = (top + total) * amount ↔ top ∣ total * amount := by
  rw [Int.dvd_iff_emod_eq_zero, grown, mul_comm (top + total)]
  omega

/-- Factors that are at most others, with a product that is at least theirs, are these others. -/
theorem eq_of_prod_map_le {reserves : List Int} {f g : Int → Int}
    (hpos : ∀ r ∈ reserves, 0 < f r) (hle : ∀ r ∈ reserves, f r ≤ g r)
    (h : (reserves.map g).prod ≤ (reserves.map f).prod) : ∀ r ∈ reserves, f r = g r := by
  induction reserves with
  | nil => simp
  | cons first rest ih =>
    have hposRest : ∀ r ∈ rest, 0 < f r := fun r hr => hpos r (List.mem_cons_of_mem _ hr)
    have hleRest : ∀ r ∈ rest, f r ≤ g r := fun r hr => hle r (List.mem_cons_of_mem _ hr)
    have hfirst := hpos first List.mem_cons_self
    have hfirstLe := hle first List.mem_cons_self
    have hprod : 0 < (rest.map f).prod := List.prod_pos fun x hx => by
      obtain ⟨r, hr, rfl⟩ := List.mem_map.1 hx
      exact hposRest r hr
    have hprodLe : (rest.map f).prod ≤ (rest.map g).prod :=
      List.prod_map_le_prod_map₀ _ _ (fun r hr => (hposRest r hr).le) hleRest
    simp only [List.map_cons, List.prod_cons] at h
    have hsame : f first = g first := by
      refine hfirstLe.eq_of_not_lt fun hlt => ?_
      have hstrict := mul_lt_mul_of_pos_right hlt hprod
      have hrest := mul_le_mul_of_nonneg_left hprodLe (hfirst.trans hlt).le
      omega
    have hrest : (rest.map g).prod ≤ (rest.map f).prod := by
      rw [← hsame] at h
      exact le_of_mul_le_mul_left h hfirst
    intro r hr
    rcases List.mem_cons.1 hr with rfl | hr
    · exact hsame
    · exact ih hposRest hleRest hrest r hr

/-- When a stake takes its rounded parts of the reserves along, the product of the reserves falls by
no more than the tokens do. -/
theorem prod_mul_pow_le_of_release {reserves : List Int} {stake supply : Int}
    (hpos : ∀ r ∈ reserves, 0 ≤ r) (hsupply : 0 < supply) (hstake : stake ≤ supply) :
    reserves.prod * (supply - stake) ^ reserves.length ≤
      (reserves.map fun r => r - shareOfReserve stake supply r).prod *
        supply ^ reserves.length := by
  have hpart : ∀ r ∈ reserves,
      (supply - stake) * r ≤ supply * (r - shareOfReserve stake supply r) := by
    intro r _
    have hshare := shareOfReserve_mul_le stake r hsupply
    linarith
  calc reserves.prod * (supply - stake) ^ reserves.length
      = (reserves.map fun r => (supply - stake) * r).prod := by
        rw [prod_map_const_mul, List.map_id', mul_comm]
    _ ≤ (reserves.map fun r => supply * (r - shareOfReserve stake supply r)).prod :=
        List.prod_map_le_prod_map₀ _ _
          (fun r hr => mul_nonneg (sub_nonneg.2 hstake) (hpos r hr)) hpart
    _ = _ := by rw [prod_map_const_mul, mul_comm]

end Curve

namespace Pool

/-- Whether no less stands behind a token afterwards than before. -/
def BackingKept (p after : Pool) : Prop :=
  p.reserves.prod * after.stakes.supply ^ p.outcomes ≤
    after.reserves.prod * p.stakes.supply ^ p.outcomes

/-- Whether the rounding of a deposit favours the pool: the law for a deposit, with the remainders
of its divisions by the largest reserve. -/
def DepositFavoursPool (p : Pool) (total : Int) : Prop :=
  p.reserves.prod *
      Curve.grown total (Curve.largest p.reserves) p.stakes.supply ^ p.outcomes ≤
    (p.reserves.map (Curve.grown total (Curve.largest p.reserves))).prod *
      p.stakes.supply ^ p.outcomes

/-- Without a change of the tokens, the law is one about the product of the reserves. -/
theorem backingKept_of_prod_le {p after : Pool} (hp : p.WellFormed)
    (hsupply : after.stakes.supply = p.stakes.supply)
    (hprod : p.reserves.prod ≤ after.reserves.prod) : p.BackingKept after := by
  unfold BackingKept
  rw [hsupply]
  exact mul_le_mul_of_nonneg_right hprod (pow_nonneg hp.supply_nonneg _)

/-- An exit keeps what stands behind a token. -/
theorem Planned.backingKept {p after : Pool} {sender : Text} {stake : Int} {plan : ExitPlan}
    (hp : p.WellFormed) (hplanned : p.Planned sender stake plan)
    (hcommitted : p.Committed sender plan after) : p.BackingKept after := by
  have hle := hplanned.stake_le_supply
  have hpos := hplanned.stake_pos.trans_le hle
  unfold BackingKept
  rw [hplanned.reserves_eq hcommitted, hplanned.supply_eq hcommitted, ← hp.reserves_length]
  exact Curve.prod_mul_pow_le_of_release hp.reserves_nonneg hpos hle

/-- A later deposit keeps what stands behind a token exactly when its rounding favours the pool. -/
theorem backingKept_deposit_iff {p after : Pool} {total : Int} {weights : Option (List Int)}
    {f : Curve.Funding} (hp : p.WellFormed) (hfunded : 0 < p.stakes.supply)
    (hsplit : p.splitDeposit total weights = .ok f)
    (hreserves : after.reserves = List.zipWith (· + ·) p.reserves f.added)
    (hsupply : after.stakes.supply = p.stakes.supply + f.minted) :
    p.BackingKept after ↔ p.DepositFavoursPool total := by
  obtain ⟨-, hfunding⟩ := (splitDeposit_ok hsplit).resolve_left fun h => hfunded.ne' h.1
  obtain ⟨-, -, -, htop, hadded, hminted⟩ := Curve.proportionalFunding_ok hfunding
  unfold BackingKept DepositFavoursPool
  generalize Curve.largest p.reserves = top at *
  have hscaled : 0 < top ^ p.outcomes := pow_pos htop _
  -- Both sides are multiplied by the largest reserve, once for each outcome.
  have hleft : top ^ p.outcomes * (p.reserves.prod * after.stakes.supply ^ p.outcomes) =
      p.reserves.prod * Curve.grown total top p.stakes.supply ^ p.outcomes := by
    rw [hsupply, hminted, ← Curve.mul_add_floorDiv _ _ htop, mul_pow]
    ring
  have hright : top ^ p.outcomes * (after.reserves.prod * p.stakes.supply ^ p.outcomes) =
      (p.reserves.map (Curve.grown total top)).prod * p.stakes.supply ^ p.outcomes := by
    rw [hreserves, hadded, List.zipWith_map_right, List.zipWith_self, ← mul_assoc,
      ← hp.reserves_length, ← Curve.prod_map_const_mul]
    simp only [Curve.mul_add_floorDiv _ _ htop]
  rw [← mul_le_mul_iff_right₀ hscaled, hleft, hright]

/-- When the stake for a deposit comes out even, its rounding favours the pool only if every reserve
grows evenly as well. -/
theorem depositFavoursPool_iff_of_dvd {p : Pool} {total : Int} (hp : p.WellFormed)
    (hfunded : 0 < p.stakes.supply) (htotal : 0 < total) (htop : 0 < Curve.largest p.reserves)
    (heven : Curve.largest p.reserves ∣ total * p.stakes.supply) :
    p.DepositFavoursPool total ↔ ∀ r ∈ p.reserves, Curve.largest p.reserves ∣ total * r := by
  unfold DepositFavoursPool
  generalize Curve.largest p.reserves = top at *
  have hgrown : ∀ r ∈ p.reserves, 0 < Curve.grown total top r := by
    intro r hr
    have hreserve := hp.funded hfunded r hr
    have hpart := Curve.floorDiv_nonneg (mul_nonneg htotal.le hreserve.le) htop.le
    rw [← Curve.mul_add_floorDiv _ _ htop]
    exact mul_pos htop (add_pos_of_pos_of_nonneg hreserve hpart)
  have hexact : p.reserves.prod * Curve.grown total top p.stakes.supply ^ p.outcomes =
      (p.reserves.map fun r => (top + total) * r).prod * p.stakes.supply ^ p.outcomes := by
    rw [(Curve.grown_eq_iff _ _ _).2 heven, mul_pow, Curve.prod_map_const_mul, List.map_id',
      hp.reserves_length]
    ring
  rw [hexact, mul_le_mul_iff_left₀ (pow_pos hfunded _)]
  constructor
  · intro hle r hr
    have hsame := Curve.eq_of_prod_map_le hgrown (fun r _ => Curve.grown_le total r htop) hle r hr
    exact (Curve.grown_eq_iff _ _ _).1 hsame
  · intro hdvd
    refine le_of_eq (congrArg List.prod (List.map_congr_left fun r hr => ?_))
    exact ((Curve.grown_eq_iff _ _ _).2 (hdvd r hr)).symm

/-- A deposit that is accepted keeps what stands behind a token exactly when its rounding favours
the pool. -/
theorem Traded.deposit {p after : Pool} {sender : Text} {total : Int}
    {weights : Option (List Int)} {r : Receipt} (hp : p.WellFormed) (hfunded : 0 < p.stakes.supply)
    (h : p.Traded sender (.addLiquidity total weights) after r) :
    (p.BackingKept after ↔ p.DepositFavoursPool total) ∧
      (Curve.largest p.reserves ∣ total * p.stakes.supply →
        (p.DepositFavoursPool total ↔
          ∀ reserve ∈ p.reserves, Curve.largest p.reserves ∣ total * reserve)) := by
  cases h with
  | addLiquidity hpositive hsplit _ hissued _ =>
    obtain ⟨-, rfl⟩ := Stakes.mint_ok hissued
    obtain ⟨-, hfunding⟩ := (splitDeposit_ok hsplit).resolve_left fun h => hfunded.ne' h.1
    obtain ⟨-, -, -, htop, -⟩ := Curve.proportionalFunding_ok hfunding
    exact ⟨backingKept_deposit_iff hp hfunded hsplit rfl rfl,
      depositFavoursPool_iff_of_dvd hp hfunded hpositive htop⟩

/-- Trades that are no deposits keep what stands behind a token. -/
theorem Traded.backingKept {p after : Pool} {sender : Text} {t : Trade Int} {r : Receipt}
    (hp : p.WellFormed) (h : p.Traded sender t after r)
    (hother : ∀ total weights, t ≠ .addLiquidity total weights) : p.BackingKept after := by
  cases h with
  | addLiquidity => exact absurd rfl (hother _ _)
  | exitPool hplanned hcommitted => exact hplanned.backingKept hp hcommitted
  | buy _ _ hquoted _ _ happlied _ _ =>
    exact backingKept_of_prod_le hp rfl (Curve.applyBuy_prod_le hquoted happlied)
  | sell _ _ hquoted _ _ _ happlied _ _ =>
    exact backingKept_of_prod_le hp rfl (Curve.applySell_prod_le hquoted happlied)
  | redeem => exact backingKept_of_prod_le hp rfl le_rfl

/-- In a pool that can be reached, a trade that leaves tokens keeps what stands behind each of them,
except for a deposit whose rounding does not favour the pool, which always lowers it. Where the
stake for a deposit comes out even, its rounding favours the pool only if every reserve grows
evenly. -/
theorem backingKept_iff {p after : Pool} {sender : Text} {t : Trade Int} {r : Receipt}
    (hp : p.Reachable) (hfunded : 0 < p.stakes.supply)
    (h : p.trade sender t = .ok (after, r)) (hleft : 0 < after.stakes.supply) :
    (p.BackingKept after ↔
      ∀ total weights, t = .addLiquidity total weights → p.DepositFavoursPool total) ∧
      ∀ total weights, t = .addLiquidity total weights →
        Curve.largest p.reserves ∣ total * p.stakes.supply →
          (p.DepositFavoursPool total ↔
            ∀ reserve ∈ p.reserves, Curve.largest p.reserves ∣ total * reserve) := by
  have htraded := trade_ok h
  by_cases hdeposit : ∃ total weights, t = .addLiquidity total weights
  · obtain ⟨total, weights, rfl⟩ := hdeposit
    obtain ⟨hkept, heven⟩ := htraded.deposit hp.wellFormed hfunded
    refine ⟨hkept.trans ⟨?_, fun hfavours => hfavours _ _ rfl⟩, ?_⟩
    · rintro hfavours _ _ ⟨⟩
      exact hfavours
    · rintro _ _ ⟨⟩
      exact heven
  · have hother : ∀ total weights, t ≠ .addLiquidity total weights :=
      fun total weights hsame => hdeposit ⟨total, weights, hsame⟩
    exact ⟨iff_of_true (htraded.backingKept hp.wellFormed hother)
      fun _ _ hsame => absurd hsame (hother _ _), fun _ _ hsame => absurd hsame (hother _ _)⟩

/-- A pool of two outcomes with uneven reserves, as the first deposit of an account leaves it. -/
def uneven : Pool where
  marketId := 0
  token := "T"
  denomination := 1
  swapFee := 0
  reserves := [10, 1]
  stakes := ⟨.ofList [("a", 10)], 10⟩
  shares := ⟨2, .ofList [(⟨"a", 1⟩, 9)]⟩

/-- The uneven pool can be reached. -/
theorem reachable_uneven : uneven.Reachable :=
  ⟨0, 2, "T", 0, 0, _, [.trade "a" (.addLiquidity 10 (some [10, 1]))], rfl, rfl⟩

/-- A deposit that doubles uneven reserves keeps what stands behind each token. -/
theorem backingKept_doubled :
    ∃ after r, uneven.trade "b" (.addLiquidity 10 none) = .ok (after, r) ∧
      0 < uneven.stakes.supply ∧ 0 < after.stakes.supply ∧ after.reserves = [20, 2] ∧
      (uneven.BackingKept after ↔ ∀ total weights,
        Trade.addLiquidity 10 none = .addLiquidity total weights →
          uneven.DepositFavoursPool total) ∧
      uneven.BackingKept after := by
  have htrade : uneven.trade "b" (.addLiquidity 10 none) = .ok (_, _) := rfl
  obtain ⟨hkept, heven⟩ := backingKept_iff reachable_uneven (by decide) htrade (by decide)
  refine ⟨_, _, htrade, by decide, by decide, rfl, hkept, hkept.2 ?_⟩
  rintro total weights ⟨⟩
  exact (heven 10 none rfl (by decide)).2 (by decide)

/-- Half as much again joins ten and one as five and nothing, for half as many tokens again: less
stands behind each of them than before. -/
theorem backing_shrinks :
    ∃ after r, uneven.Reachable ∧ 0 < uneven.stakes.supply ∧
      uneven.trade "b" (.addLiquidity 5 none) = .ok (after, r) ∧ 0 < after.stakes.supply ∧
      after.reserves = [15, 1] ∧ ¬uneven.BackingKept after := by
  refine ⟨_, _, reachable_uneven, by decide, rfl, by decide, rfl, ?_⟩
  unfold BackingKept
  decide

end Pool

end PredictionMarket
