import PredictionMarket.Proofs.Fees.Entitlement
import PredictionMarket.Proofs.Pool.Claims

/-!
# Leaving in parts

A stake can be given back at once or part by part. Whoever gives a part back is paid all pending
fees with it, and none are pending for the rest, so the parts are paid what the whole is paid. Each
part takes its portion of the reserves, rounded down, and leaves what was rounded off to all stakes.
The parts together are therefore handed out no more shares than the whole.
-/

namespace PredictionMarket.Pool

/-! ## Giving a stake back -/

/-- Any part of a stake can be given back. -/
theorem exists_exitPool {p : Pool} (hp : p.WellFormed) (hledgered : p.Ledgered) {account : Text}
    {stake : Int} (hstake : 0 < stake) (hle : stake ≤ p.stakes.balance account) :
    ∃ after e, p.exitPool account stake = .ok (after, e) := by
  obtain ⟨plan, hplan⟩ := hledgered.exists_planExit hstake hle
  obtain ⟨after, hcommit⟩ := hp.exists_commitExit (planExit_ok hplan)
  refine ⟨after, plan.result, ?_⟩
  rw [exitPool, hplan, ok_bind, hcommit]
  rfl

/-- The rest of a stake stays with the account. -/
theorem Planned.balance_eq {p after : Pool} {account : Text} {stake : Int} {plan : ExitPlan}
    (hplanned : p.Planned account stake plan) (hcommitted : p.Committed account plan after) :
    after.stakes.balance account = p.stakes.balance account - stake := by
  rw [Stakes.balance_burn hcommitted.stakes, if_pos rfl, hplanned.stake_eq]

/-- What an account is to have withdrawn is remembered. -/
theorem getD_storeWithdrawn (p : Pool) (account : Text) (amount : Int) :
    (p.storeWithdrawn account amount).getD account 0 = amount := by
  unfold storeWithdrawn
  split
  · next hzero => rw [Table.getD_erase, if_pos rfl, hzero]
  · rw [Table.getD_insert, if_pos rfl]

/-- After a part of a stake is given back, no fees are pending for the rest. -/
theorem Planned.feesWithdrawable_eq_zero {p after : Pool} {account : Text} {stake : Int}
    {plan : ExitPlan} (hledgered : p.Ledgered) (hplanned : p.Planned account stake plan)
    (hcommitted : p.Committed account plan after) : after.feesWithdrawable account = 0 := by
  obtain ⟨w, hpaid, -, hburn⟩ := hplanned.paid
  have hwithdrawn : after.withdrawnBy account = plan.withdrawn := by
    rw [withdrawnBy, hcommitted.after_eq]
    exact p.getD_storeWithdrawn account plan.withdrawn
  have hfees : after.fees = plan.state := by rw [hcommitted.after_eq]
  rw [feesWithdrawable, hfees, hplanned.balance_eq hcommitted, hplanned.supply_eq hcommitted,
    hwithdrawn]
  exact FeeState.withdrawable_onBurn hpaid hburn hplanned.stake_le
    (hledgered.stakes.balance_le_supply account)

/-! ## Part by part -/

/-- Gives the parts of a stake back one after another. -/
def exitEach (p : Pool) (account : Text) : List Int → Except PoolError (Pool × List Exit)
  | [] => return (p, [])
  | part :: parts => do
    let (next, e) ← p.exitPool account part
    let (after, es) ← next.exitEach account parts
    return (after, e :: es)

/-- What came of giving a stake back in parts, compared with the whole: the fees that were pending,
and no more shares of any outcome than the portion of all parts together. -/
structure LeftInParts (p : Pool) (account : Text) (parts : List Int) (es : List Exit) : Prop where
  /-- The pending fees are paid with the first part, and none with the others. -/
  fees : parts ≠ [] ∨ p.feesWithdrawable account = 0 →
    (es.map Exit.fees).sum = p.feesWithdrawable account
  /-- The shares that are handed out are at most the portion of the whole. -/
  shares_le : ∀ o < p.outcomes, (es.map fun e => e.sharesOut.getD o 0).sum ≤
    Curve.shareOfReserve parts.sum p.stakes.supply (p.reserves.getD o 0)

/-- Without any part, nothing is paid or handed out. -/
theorem LeftInParts.nil (p : Pool) (account : Text) : p.LeftInParts account [] [] where
  fees h := (h.resolve_left fun hne => hne rfl).symm
  shares_le _ _ := (Curve.shareOfReserve_zero _ _).ge

/-- One part, and then the others. -/
theorem LeftInParts.cons {p next : Pool} {account : Text} {part : Int} {parts : List Int}
    {plan : ExitPlan} {es : List Exit} (hp : p.WellFormed) (hledgered : p.Ledgered)
    (hplanned : p.Planned account part plan) (hcommitted : p.Committed account plan next)
    (hparts : 0 ≤ parts.sum) (hsum : part + parts.sum ≤ p.stakes.supply)
    (hrest : next.LeftInParts account parts es) :
    p.LeftInParts account (part :: parts) (plan.result :: es) where
  fees _ := by
    have hnone := hplanned.feesWithdrawable_eq_zero hledgered hcommitted
    rw [List.map_cons, List.sum_cons, hrest.fees (.inr hnone), hnone, add_zero]
    exact hplanned.accounting.1
  shares_le o ho := by
    have hlength : o < p.reserves.length := hp.reserves_length.symm ▸ ho
    have hsupply : 0 < p.stakes.supply := by
      have hpart := hplanned.stake_pos
      omega
    have hshares := hrest.shares_le o (hcommitted.sameTerms.outcomes.symm ▸ ho)
    rw [hplanned.supply_eq hcommitted, hplanned.reserves_eq hcommitted,
      getD_map_of_lt _ hlength] at hshares
    have hout : plan.result.sharesOut.getD o 0 =
        Curve.shareOfReserve part p.stakes.supply (p.reserves.getD o 0) := by
      rw [ExitPlan.result, hplanned.sharesOut_eq, getD_map_of_lt _ hlength]
    rw [List.map_cons, List.sum_cons, List.sum_cons, hout]
    exact (add_le_add_right hshares _).trans
      (Curve.shareOfReserve_add_le hsupply hparts hsum _)

/-- Positive parts of a stake that the account has can be given back one after another. -/
theorem exists_exitEach {p : Pool} (hp : p.WellFormed) (hledgered : p.Ledgered) {account : Text}
    {parts : List Int} (hpos : ∀ part ∈ parts, 0 < part)
    (hsum : parts.sum ≤ p.stakes.balance account) :
    ∃ after es, p.exitEach account parts = .ok (after, es) ∧ p.LeftInParts account parts es := by
  induction parts generalizing p with
  | nil => exact ⟨p, [], rfl, .nil p account⟩
  | cons part parts ih =>
    obtain ⟨hpart, hpos⟩ := List.forall_mem_cons.1 hpos
    have hparts : 0 ≤ parts.sum := List.sum_nonneg fun part h => (hpos part h).le
    rw [List.sum_cons] at hsum
    have hle : part ≤ p.stakes.balance account := by omega
    obtain ⟨next, e, hexit⟩ := exists_exitPool hp hledgered hpart hle
    obtain ⟨plan, hplanned, hcommitted, rfl⟩ := exitPool_ok hexit
    have hleft := hplanned.balance_eq hcommitted
    obtain ⟨after, es, heach, hrest⟩ := ih (hp.exit hplanned hcommitted)
      (hledgered.exit hplanned hcommitted) hpos (by omega)
    refine ⟨after, plan.result :: es, ?_, ?_⟩
    · simp only [exitEach, hexit, heach, ok_bind]
      rfl
    · have hwhole := hledgered.stakes.balance_le_supply account
      exact .cons hp hledgered hplanned hcommitted hparts (by omega) hrest

/-- **Leaving in parts gains nothing**: in a pool that can be reached, no fees are pending for an
account that has just given a stake back. Whatever positive parts of its stake it gives back one
after another, it is paid the fees of giving them back at once, and handed out at most the shares of
each outcome. -/
theorem leaving_in_parts_gains_nothing {p : Pool} (hp : p.Reachable) (account : Text) :
    (∀ stake after e, p.exitPool account stake = .ok (after, e) →
      after.feesWithdrawable account = 0) ∧
    ∀ parts : List Int, parts ≠ [] → (∀ part ∈ parts, 0 < part) →
      parts.sum ≤ p.stakes.balance account →
      ∃ left es after e, p.exitEach account parts = .ok (left, es) ∧
        p.exitPool account parts.sum = .ok (after, e) ∧ (es.map Exit.fees).sum = e.fees ∧
        ∀ o < p.outcomes, (es.map fun e => e.sharesOut.getD o 0).sum ≤ e.sharesOut.getD o 0 := by
  have hwell := hp.wellFormed
  have hledgered := hp.ledgered
  constructor
  · intro stake after e hexit
    obtain ⟨plan, hplanned, hcommitted, -⟩ := exitPool_ok hexit
    exact hplanned.feesWithdrawable_eq_zero hledgered hcommitted
  · intro parts hsome hpos hsum
    have hwhole : 0 < parts.sum := List.sum_pos _ hpos hsome
    obtain ⟨left, es, heach, hparts⟩ := exists_exitEach hwell hledgered hpos hsum
    obtain ⟨after, e, hexit⟩ := exists_exitPool hwell hledgered hwhole hsum
    obtain ⟨plan, hplanned, -, rfl⟩ := exitPool_ok hexit
    refine ⟨left, es, after, _, heach, hexit, ?_, fun o ho => ?_⟩
    · rw [hparts.fees (.inl hsome)]
      exact hplanned.accounting.1.symm
    · have hlength : o < p.reserves.length := hwell.reserves_length.symm ▸ ho
      rw [ExitPlan.result, hplanned.sharesOut_eq, getD_map_of_lt _ hlength]
      exact hparts.shares_le o ho

/-- A pool of two outcomes with uneven reserves and a fee for its provider. -/
def earning : Pool where
  marketId := 0
  token := "T"
  denomination := 1
  swapFee := 100
  reserves := [9, 8]
  stakes := ⟨.ofList [("a", 10)], 10⟩
  shares := ⟨2, .ofList [(⟨"a", 1⟩, 3), (⟨"b", 0⟩, 2)]⟩
  fees := ⟨1, 0⟩

/-- The fee is that of a purchase. -/
theorem reachable_earning : earning.Reachable :=
  ⟨0, 2, "T", 0, 100, _,
    [.trade "a" (.addLiquidity 10 (some [10, 7])), .trade "b" (.buy 2 (.int 0) 0)], rfl, rfl⟩

/-- A stake of two is handed out a share of each outcome. In two steps it is handed out one share
less, for the same fee. -/
theorem leaving_in_two_steps_gains_nothing :
    earning.Reachable ∧ ([1, 1] : List Int).sum ≤ earning.stakes.balance "a" ∧
      (∀ stake after e, earning.exitPool "a" stake = .ok (after, e) →
        after.feesWithdrawable "a" = 0) ∧
      ∃ left es after e, earning.exitEach "a" [1, 1] = .ok (left, es) ∧
        earning.exitPool "a" 2 = .ok (after, e) ∧ es = [⟨1, 1, [0, 0]⟩, ⟨1, 0, [1, 0]⟩] ∧
        e = ⟨2, 1, [1, 1]⟩ ∧ (es.map Exit.fees).sum = e.fees ∧
        ∀ o < earning.outcomes,
          (es.map fun e => e.sharesOut.getD o 0).sum ≤ e.sharesOut.getD o 0 := by
  obtain ⟨hnone, hparts⟩ := leaving_in_parts_gains_nothing reachable_earning "a"
  obtain ⟨left, es, after, e, heach, hexit, hgain⟩ :=
    hparts [1, 1] (by decide) (by decide) (by decide)
  have hsteps : earning.exitEach "a" [1, 1] = .ok (_, _) := rfl
  have hwhole : earning.exitPool "a" 2 = .ok (_, _) := rfl
  have hes := (Prod.mk.inj (Except.ok.inj (hsteps.symm.trans heach))).2
  have he := (Prod.mk.inj (Except.ok.inj (hwhole.symm.trans hexit))).2
  exact ⟨reachable_earning, by decide, hnone, left, es, after, e, heach, hexit, hes.symm, he.symm,
    hgain⟩

end PredictionMarket.Pool
