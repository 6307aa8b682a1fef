import PredictionMarket.Proofs.Pool.Empty
import PredictionMarket.Proofs.Pool.Leaving

/-!
# Joining a pool

A deposit rounds the growth of every reserve, the stake that is issued for it and the fees that the
stake must not claim. Still, whoever joins a pool and leaves it again takes no more out than the
deposit, and no fees of others. Those who were there before can be paid as before, up to one unit.
-/

namespace PredictionMarket

namespace Pool

variable {p after : Pool} {account : Text} {total : Int} {weights : Option (List Int)}
  {d : Deposit} {f : Curve.Funding} {ineligible : Int}

/-! ## Deposits -/

/-- What a deposit does: its split joins the reserves, the depositor is issued a stake, and is to
have withdrawn the fees that the stake must not claim. -/
structure Deposited (p : Pool) (account : Text) (total : Int) (weights : Option (List Int))
    (f : Curve.Funding) (ineligible : Int) (after : Pool) : Prop where
  /-- The deposit is split. -/
  split : p.splitDeposit total weights = .ok f
  /-- The split joins the reserves. -/
  reserves_eq : after.reserves = List.zipWith (· + ·) p.reserves f.added
  /-- There are as many more pool tokens. -/
  supply_eq : after.stakes.supply = p.stakes.supply + f.minted
  /-- The depositor has them, and no other stake changes. -/
  balance_eq : ∀ a, after.stakes.balance a =
    p.stakes.balance a + if a = account then f.minted else 0
  /-- The accounting takes note of them. -/
  minted : p.fees.onMint p.stakes.supply f.minted = .ok (ineligible, after.fees)
  /-- Only the depositor is to have withdrawn more. -/
  withdrawnBy_eq : ∀ a, after.withdrawnBy a =
    p.withdrawnBy a + if a = account then ineligible else 0

/-- A deposit is one of the trades. -/
theorem traded_of_addLiquidity (h : p.addLiquidity account total weights = .ok (after, d)) :
    p.Traded account (.addLiquidity total weights) after (.addLiquidity total d) := by
  refine trade_ok ?_
  rw [trade, h]
  rfl

/-- What a successful deposit does. -/
theorem addLiquidity_ok (h : p.addLiquidity account total weights = .ok (after, d)) :
    ∃ f ineligible, p.Deposited account total weights f ineligible after ∧
      d = ⟨f.minted, f.returned⟩ := by
  cases traded_of_addLiquidity h with
  | @addLiquidity _ _ f ineligible _ _ _ _ hsplit hminted hissued _ =>
    obtain ⟨-, hstakes⟩ := Stakes.mint_ok hissued
    refine ⟨f, ineligible, ⟨hsplit, rfl, ?_, Stakes.balance_mint hissued, hminted, fun a => ?_⟩,
      rfl⟩
    · rw [hstakes]
    · dsimp only [withdrawnBy]
      by_cases hnone : ineligible = 0
      · rw [if_pos hnone, hnone, ite_self, add_zero]
      · rw [if_neg hnone, Table.getD_insert]
        by_cases ha : a = account
        · rw [if_pos ha, if_pos ha, ha]
        · rw [if_neg ha, if_neg ha, add_zero]

/-! ## Leaving again -/

/-- What the issued stake has of a reserve is at most what joined it. In an empty pool it is just
that. -/
theorem Deposited.portion_le (hp : p.WellFormed)
    (h : p.Deposited account total weights f ineligible after) {o : Nat} (ho : o < p.outcomes) :
    Curve.shareOfReserve f.minted after.stakes.supply (after.reserves.getD o 0) ≤
        f.added.getD o 0 ∧
      (p.stakes.supply = 0 →
        Curve.shareOfReserve f.minted after.stakes.supply (after.reserves.getD o 0) =
          f.added.getD o 0) := by
  have hsplits := hp.splits h.split
  have hlength : o < p.reserves.length := hp.reserves_length.symm ▸ ho
  have hadded : o < f.added.length := hsplits.length_added.symm ▸ ho
  have hmem : p.reserves.getD o 0 ∈ p.reserves := by
    rw [List.getD_eq_getElem _ _ hlength]
    exact List.getElem_mem hlength
  rw [h.reserves_eq, h.supply_eq, getD_zipWith _ hlength hadded]
  rcases splitDeposit_ok h.split with ⟨hnone, -⟩ | ⟨hsome, hfunding⟩
  · have hall : Curve.shareOfReserve f.minted (p.stakes.supply + f.minted)
        (p.reserves.getD o 0 + f.added.getD o 0) = f.added.getD o 0 := by
      rw [hnone, hp.unfunded hnone _ hmem, zero_add, zero_add,
        Curve.shareOfReserve_self hsplits.minted_pos]
    exact ⟨hall.le, fun _ => hall⟩
  · obtain ⟨-, -, hsupply, htop, hparts, hminted⟩ := Curve.proportionalFunding_ok hfunding
    refine ⟨Curve.shareOfReserve_joined_le hsplits.minted_pos hsupply ?_,
      fun hnone => absurd hnone hsome⟩
    -- The stake is a part of the supply as what joins a reserve is of the reserve.
    rw [hparts, getD_map_of_lt _ hlength, hminted]
    exact Curve.shareOfReserve_shareOfReserve_le htop hsupply (hp.funded hsupply _ hmem).le

/-- For a stake that was just issued no fees are pending. -/
theorem Deposited.feesWithdrawable_eq_zero (hp : p.WellFormed) (hledgered : p.Ledgered)
    (hempty : p.Unburdened) (hnone : p.stakes.balance account = 0)
    (h : p.Deposited account total weights f ineligible after) :
    after.feesWithdrawable account = 0 := by
  rw [feesWithdrawable, h.balance_eq, h.withdrawnBy_eq, h.supply_eq, if_pos rfl, if_pos rfl, hnone,
    zero_add]
  exact FeeState.withdrawable_of_minted h.minted hp.supply_nonneg hempty
    (hledgered.withdrawnBy_nonneg account)

/-- **Joining and leaving gains nothing**: when an account without a stake joins a pool that can be
reached, it can give the issued stake back at once. It is paid no fees, and of each outcome it is
returned and handed out at most one share for each unit that it deposited, and exactly one if the
pool was empty. -/
theorem joining_and_leaving_gains_nothing {joined : Pool} (hp : p.Reachable)
    (hnone : p.stakes.balance account = 0)
    (h : p.addLiquidity account total weights = .ok (joined, d)) :
    ∃ left e, joined.exitPool account d.minted = .ok (left, e) ∧ e.fees = 0 ∧
      d.returned.length = p.outcomes ∧ e.sharesOut.length = p.outcomes ∧
      ∀ o < p.outcomes, d.returned.getD o 0 + e.sharesOut.getD o 0 ≤ total ∧
        (p.stakes.supply = 0 → d.returned.getD o 0 + e.sharesOut.getD o 0 = total) := by
  have hwell := hp.wellFormed
  have htraded := traded_of_addLiquidity h
  have hjoined := htraded.wellFormed hwell
  have houtcomes := htraded.sameTerms.outcomes
  obtain ⟨f, ineligible, hdeposited, rfl⟩ := addLiquidity_ok h
  have hsplits := hwell.splits hdeposited.split
  have hstake : f.minted ≤ joined.stakes.balance account := by
    rw [hdeposited.balance_eq, if_pos rfl, hnone, zero_add]
  obtain ⟨left, e, hexit⟩ :=
    exists_exitPool hjoined (htraded.ledgered hp.ledgered) hsplits.minted_pos hstake
  obtain ⟨plan, hplanned, -, rfl⟩ := exitPool_ok hexit
  have hfees : plan.result.fees = 0 := by
    rw [ExitPlan.result, hplanned.accounting.1]
    exact hdeposited.feesWithdrawable_eq_zero hwell hp.ledgered hp.unburdened hnone
  refine ⟨left, _, hexit, hfees, ?_, ?_, fun o ho => ?_⟩
  · rw [hsplits.returned_eq, List.length_map, hsplits.length_added]
  · rw [ExitPlan.result, hplanned.sharesOut_eq, List.length_map, hjoined.reserves_length, houtcomes]
  · have hlength : o < joined.reserves.length := by
      rwa [hjoined.reserves_length, houtcomes]
    obtain ⟨hle, hall⟩ := hdeposited.portion_le hwell ho
    dsimp only [ExitPlan.result]
    rw [hsplits.returned_eq, getD_map_of_lt _ (hsplits.length_added.symm ▸ ho),
      hplanned.sharesOut_eq, getD_map_of_lt _ hlength]
    exact ⟨by omega, fun hfirst => by rw [hall hfirst, sub_add_cancel]⟩

/-- A pool that everybody has left. What its last provider has withdrawn is not all forgotten. -/
def abandoned : Pool where
  marketId := 0
  token := "T"
  denomination := 1
  swapFee := 100
  reserves := [0, 0]
  shares := ⟨2, .ofList [(⟨"a", 0⟩, 3), (⟨"a", 1⟩, 3), (⟨"b", 0⟩, 3), (⟨"b", 1⟩, 3)]⟩
  fees := ⟨0, 1⟩
  withdrawn := .ofList [("a", 1)]

/-- The abandoned pool can be reached. -/
theorem reachable_abandoned : abandoned.Reachable :=
  ⟨0, 2, "T", 0, 100, _,
    [.trade "a" (.addLiquidity 5 none), .trade "a" (.exitPool 2), .trade "a" (.redeem 1),
      .trade "a" (.redeem 1), .trade "b" (.addLiquidity 3 none), .trade "a" (.exitPool 1),
      .trade "a" (.exitPool 1), .trade "b" (.exitPool 3), .trade "a" (.exitPool 1)], rfl, rfl⟩

/-- Who joins a pool with liquidity gets one share of the first outcome less back, and is paid
nothing of the fee, of which the stake has the larger part. Who joins an abandoned pool gets all
back. -/
theorem joining_with_ten_gains_nothing :
    (∃ joined d left e, earning.Reachable ∧ earning.stakes.balance "c" = 0 ∧
      earning.addLiquidity "c" 10 none = .ok (joined, d) ∧ d = ⟨11, [0, 2]⟩ ∧
      joined.exitPool "c" 11 = .ok (left, e) ∧ e = ⟨11, 0, [9, 8]⟩ ∧ e.fees = 0 ∧
      ∀ o < earning.outcomes, d.returned.getD o 0 + e.sharesOut.getD o 0 ≤ 10) ∧
    ∃ joined d left e, abandoned.Reachable ∧ abandoned.stakes.supply = 0 ∧
      abandoned.addLiquidity "a" 10 (some [1, 3]) = .ok (joined, d) ∧ d = ⟨10, [7, 0]⟩ ∧
      joined.exitPool "a" 10 = .ok (left, e) ∧ e.fees = 0 ∧
      ∀ o < abandoned.outcomes, d.returned.getD o 0 + e.sharesOut.getD o 0 = 10 := by
  constructor
  · have hdeposit : earning.addLiquidity "c" 10 none = .ok (_, ⟨11, [0, 2]⟩) := rfl
    obtain ⟨left, e, hexit, hfees, -, -, hgain⟩ :=
      joining_and_leaving_gains_nothing reachable_earning (by decide) hdeposit
    have he : (_, ⟨11, 0, [9, 8]⟩) = (left, e) := Except.ok.inj hexit
    exact ⟨_, _, left, e, reachable_earning, by decide, hdeposit, rfl, hexit,
      (Prod.mk.inj he).2.symm, hfees, fun o ho => (hgain o ho).1⟩
  · have hdeposit : abandoned.addLiquidity "a" 10 (some [1, 3]) = .ok (_, ⟨10, [7, 0]⟩) := rfl
    obtain ⟨left, e, hexit, hfees, -, -, hgain⟩ :=
      joining_and_leaving_gains_nothing reachable_abandoned (by decide) hdeposit
    exact ⟨_, _, left, e, reachable_abandoned, rfl, hdeposit, rfl, hexit, hfees,
      fun o ho => (hgain o ho).2 rfl⟩

/-! ## Those who were there before -/

/-- **A deposit hardly dilutes earned fees**: what an account other than the depositor can be paid
in fees stays the same, or falls by one unit. -/
theorem deposit_hardly_dilutes_fees {sender : Text} (hp : p.Reachable)
    (hfunded : 0 < p.stakes.supply) (h : p.addLiquidity sender total weights = .ok (after, d))
    (hother : account ≠ sender) :
    after.feesWithdrawable account ≤ p.feesWithdrawable account ∧
      p.feesWithdrawable account - 1 ≤ after.feesWithdrawable account := by
  obtain ⟨f, ineligible, hdeposited, -⟩ := addLiquidity_ok h
  have hstakes := hp.ledgered.stakes
  rw [feesWithdrawable, feesWithdrawable, hdeposited.balance_eq, hdeposited.withdrawnBy_eq,
    hdeposited.supply_eq, if_neg hother, if_neg hother, add_zero, add_zero]
  exact FeeState.withdrawable_onMint hdeposited.minted hfunded (hstakes.balance_nonneg account)
    (hstakes.balance_le_supply account) _

/-- The provider who was due the fee is due nothing of it after a deposit of one. -/
theorem deposit_of_one_hardly_dilutes_fees :
    ∃ after d, earning.Reachable ∧ 0 < earning.stakes.supply ∧
      earning.addLiquidity "c" 1 none = .ok (after, d) ∧ "a" ≠ "c" ∧
      earning.feesWithdrawable "a" = 1 ∧ after.feesWithdrawable "a" = 0 ∧
      after.feesWithdrawable "a" ≤ earning.feesWithdrawable "a" ∧
      earning.feesWithdrawable "a" - 1 ≤ after.feesWithdrawable "a" := by
  have hdeposit : earning.addLiquidity "c" 1 none = .ok (_, _) := rfl
  exact ⟨_, _, reachable_earning, by decide, hdeposit, by decide, by decide, by decide,
    deposit_hardly_dilutes_fees reachable_earning (by decide) hdeposit (by decide)⟩

end Pool

end PredictionMarket
