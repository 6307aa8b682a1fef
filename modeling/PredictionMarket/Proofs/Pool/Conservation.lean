import PredictionMarket.Proofs.Pool.WellFormed
import Mathlib.Algebra.BigOperators.Group.Finset.Basic
import Mathlib.Algebra.BigOperators.Ring.Finset
import Mathlib.Algebra.Order.BigOperators.Ring.Finset

/-!
# Complete sets are conserved

The units of an outcome are what its reserve holds and what all accounts hold together. A trade
changes the units of every outcome by the same number, the complete sets that it issues, and the
collateral that comes in and goes out accounts for these sets and for the fees. A settlement takes
units out, of each outcome as many as it pays for, and pays no more than they are worth.
-/

namespace PredictionMarket

namespace Receipt

/-- The collateral that a trade takes in. -/
def paidIn : Receipt → Int
  | .addLiquidity total _ => total
  | .buy collateralIn _ _ => collateralIn
  | _ => 0

/-- The collateral that a trade owes. -/
def paidOut : Receipt → Int
  | .exitPool e => e.fees
  | .sell collateralOut _ s => collateralOut - s.fee
  | .redeem r => r.payout
  | _ => 0

/-- The complete sets that a trade issues, negative if it takes them back. -/
def issued : Receipt → Int
  | .addLiquidity total _ => total
  | .exitPool _ => 0
  | .buy collateralIn _ q => collateralIn - q.fee
  | .sell collateralOut _ _ => -collateralOut
  | .redeem r => -r.sets

/-- The collateral of a trade pays for the sets that it issues and for the fees. -/
theorem paidIn_sub_paidOut (r : Receipt) :
    r.paidIn - r.paidOut = r.issued + r.collected - r.feesPaid := by
  cases r <;> simp only [paidIn, paidOut, issued, collected, feesPaid, Redemption.payout] <;> omega

end Receipt

namespace Pool

/-- All of an outcome that there is: the reserve and what all accounts hold. -/
def units (p : Pool) (outcome : Nat) : Int :=
  p.reserves.getD outcome 0 + p.shares.supply outcome

/-- A new pool has nothing of any outcome. -/
theorem units_make {marketId outcomes decimals swapFee : Int} {token : Text} {p : Pool}
    (h : Pool.make marketId outcomes token decimals swapFee = .ok p) (o : Nat) : p.units o = 0 := by
  obtain ⟨-, -, rfl⟩ := make_ok h
  have hreserve : (List.replicate outcomes.toNat (0 : Int)).getD o 0 = 0 := by
    rw [List.getD_eq_getElem?_getD, List.getElem?_replicate]
    split <;> rfl
  rw [units, hreserve]
  rfl

/-- There is no negative number of units. -/
theorem WellFormed.units_nonneg {p : Pool} (hp : p.WellFormed) {o : Nat} (ho : o < p.outcomes) :
    0 ≤ p.units o := by
  have hlength : o < p.reserves.length := by rwa [hp.reserves_length]
  have hreserve := hp.reserves_nonneg _ (List.getElem_mem hlength)
  rw [← List.getD_eq_getElem _ 0 hlength] at hreserve
  exact add_nonneg hreserve (hp.shares.supply_nonneg o)

/-- A list that two lists are combined into has at each place the two items combined. -/
theorem getD_zipWith {first second : List Int} {o : Nat} (f : Int → Int → Int)
    (hfirst : o < first.length) (hsecond : o < second.length) :
    (List.zipWith f first second).getD o 0 = f (first.getD o 0) (second.getD o 0) := by
  rw [List.getD_eq_getElem _ _ hfirst, List.getD_eq_getElem _ _ hsecond,
    List.getD_eq_getElem _ _ (by simp [hfirst, hsecond]), List.getElem_zipWith]

/-- An item of a list to which a function was applied. -/
theorem getD_map_of_lt {items : List Int} {o : Nat} (f : Int → Int) (ho : o < items.length) :
    (items.map f).getD o 0 = f (items.getD o 0) := by
  rw [List.getD_eq_getElem _ _ (by simpa using ho), List.getD_eq_getElem _ _ ho, List.getElem_map]

/-- An item of a list of which one item was changed. -/
theorem getD_modify_of_lt {items : List Int} {o : Nat} (t : Nat) (f : Int → Int)
    (ho : o < items.length) :
    (items.modify t f).getD o 0 = if o = t then f (items.getD o 0) else items.getD o 0 := by
  rw [List.getD_eq_getElem _ _ (by simpa using ho), List.getD_eq_getElem _ _ ho,
    List.getElem_modify]
  by_cases hsame : o = t
  · rw [if_pos hsame, if_pos hsame.symm]
  · rw [if_neg hsame, if_neg (Ne.symm hsame)]

/-- What a stake takes out of the reserves joins the shares of the account. -/
theorem Planned.units_eq {p after : Pool} {sender : Text} {stake : Int} {plan : ExitPlan}
    (hp : p.WellFormed) (hplanned : p.Planned sender stake plan)
    (hcommitted : p.Committed sender plan after) {o : Nat} (ho : o < p.outcomes) :
    after.units o = p.units o := by
  have hlength : o < p.reserves.length := by rwa [hp.reserves_length]
  have hsupply := (Shares.credited_addAll hcommitted.shares).supply o
  unfold units
  rw [hsupply, hplanned.reserves_eq hcommitted, getD_map_of_lt _ hlength, hplanned.sharesOut_eq,
    getD_map_of_lt _ hlength]
  ring

/-- A trade changes the units of every outcome by the complete sets that it issues. -/
theorem Traded.units_eq {p after : Pool} {sender : Text} {t : Trade Int} {r : Receipt}
    (h : p.Traded sender t after r) (hp : p.WellFormed) {o : Nat} (ho : o < p.outcomes) :
    after.units o = p.units o + r.issued := by
  have hlength : o < p.reserves.length := by rwa [hp.reserves_length]
  cases h with
  | addLiquidity _ hsplit _ _ hgiven =>
    have hsplits := hp.splits hsplit
    have hadded := hsplits.length_added.symm ▸ ho
    have hsupply := (Shares.credited_addAll hgiven).supply o
    simp only [units, Receipt.issued]
    rw [hsupply, getD_zipWith _ hlength hadded, hsplits.returned_eq, getD_map_of_lt _ hadded]
    ring
  | exitPool hplanned hcommitted =>
    rw [hplanned.units_eq hp hcommitted ho]
    exact (add_zero _).symm
  | buy _ _ hquoted _ _ happlied _ hgiven =>
    obtain ⟨ht, -⟩ := Curve.quoteBuy_ok hquoted
    obtain ⟨rfl, -⟩ := Curve.applyBuy_ok ht happlied
    have hsupply := (Shares.credited_add hgiven).supply o
    simp only [units, Receipt.issued]
    rw [hsupply, getD_modify_of_lt _ _ (by simpa using hlength), getD_map_of_lt _ hlength]
    split <;> ring
  | sell _ _ hquoted _ _ _ happlied htaken _ =>
    obtain ⟨ht, -⟩ := Curve.quoteSell_ok hquoted
    obtain ⟨rfl, -⟩ := Curve.applySell_ok ht happlied
    have hsupply := (Shares.credited_subtract htaken).supply o
    simp only [units, Receipt.issued]
    rw [hsupply, getD_map_of_lt _ (by simpa using hlength), getD_modify_of_lt _ _ hlength]
    split <;> ring
  | redeem _ _ _ htaken _ =>
    have hsupply := (credited_takeSets htaken).supply o
    rw [if_pos (show o < p.shares.outcomes from ho)] at hsupply
    simp only [units, Receipt.issued]
    rw [hsupply]
    ring

/-- No trade owes a negative amount. -/
theorem Traded.paidOut_nonneg {p after : Pool} {sender : Text} {t : Trade Int} {r : Receipt}
    (h : p.Traded sender t after r) : 0 ≤ r.paidOut := by
  cases h with
  | addLiquidity => exact le_rfl
  | exitPool hplanned _ => exact hplanned.fees_nonneg
  | buy => exact le_rfl
  | sell _ _ _ _ _ hcharged => exact sub_nonneg.2 (Curve.fee_le hcharged)
  | redeem hpositive _ hcharged => exact sub_nonneg.2 (redeemFee_le hpositive hcharged)

/-! ## Settlements -/

/-- A list of amounts is summed up place by place. -/
theorem sum_eq_sum_range (amounts : List Int) :
    Amounts.sum amounts = ∑ o ∈ Finset.range amounts.length, amounts.getD o 0 := by
  induction amounts with
  | nil => simp
  | cons amount amounts ih =>
    rw [Amounts.sum_cons, List.length_cons, Finset.sum_range_succ', ih]
    simp only [List.getD_cons_succ, List.getD_cons_zero]
    ring

/-- What balances are worth is a sum over the outcomes. -/
theorem weighted_eq_sum {n : Nat} {balances vector : List Int} (hbalances : balances.length = n)
    (hvector : vector.length = n) :
    weighted balances vector = ∑ o ∈ Finset.range n, balances.getD o 0 * vector.getD o 0 := by
  have hlength : (List.zipWith (· * ·) balances vector).length = n := by
    rw [List.length_zipWith, hbalances, hvector, min_self]
  rw [weighted, sum_eq_sum_range, hlength]
  refine Finset.sum_congr rfl fun o ho => ?_
  have ho := Finset.mem_range.1 ho
  exact getD_zipWith _ (hbalances.symm ▸ ho) (hvector.symm ▸ ho)

/-- A settlement pays for some units of each outcome, which leave the pool; what it pays is their
worth by the vector, rounded down. -/
theorem Settled.units_eq {p after : Pool} {account : Text} {numerator : Numerator}
    {s : Settlement} (h : p.Settled account numerator after s) (hp : p.WellFormed) :
    ∃ vector paid, numerator.vector p.outcomes p.denomination = .ok vector ∧
      paid.length = p.outcomes ∧ (∀ b ∈ paid, 0 ≤ b) ∧
      s.sharePayout = Curve.floorDiv (weighted paid vector) p.denomination ∧
      ∀ o < p.outcomes, after.units o = p.units o - paid.getD o 0 := by
  have hheld : ∀ b ∈ p.shares.allOf account, 0 ≤ b := by
    intro b hb
    obtain ⟨o, -, rfl⟩ := List.mem_map.1 hb
    exact hp.shares.balance_nonneg account o
  have hlength : (p.shares.allOf account).length = p.outcomes := Shares.length_allOf _ _
  cases h with
  | @stake vector plan left hresolved hplanned hcommitted =>
    have hpos := hplanned.stake_pos.trans_le hplanned.stake_le_supply
    have hout : plan.sharesOut.length = p.outcomes := by
      rw [hplanned.sharesOut_eq, List.length_map, hp.reserves_length]
    refine ⟨vector, _, hresolved, ?_, fun b hb => ?_, rfl, fun o ho => ?_⟩
    · rw [List.length_zipWith, hlength, hout, min_self]
    · rw [← List.map_uncurry_zip_eq_zipWith] at hb
      obtain ⟨⟨balance, released⟩, hmem, rfl⟩ := List.mem_map.1 hb
      obtain ⟨hbalance, hreleased⟩ := List.of_mem_zip hmem
      rw [hplanned.sharesOut_eq] at hreleased
      obtain ⟨reserve, hreserve, rfl⟩ := List.mem_map.1 hreleased
      exact add_nonneg (hheld balance hbalance) (Curve.shareOfReserve_nonneg
        hplanned.stake_pos.le hpos (hp.reserves_nonneg reserve hreserve))
    · have hleft := hplanned.units_eq hp hcommitted ho
      have hcleared := (Shares.credited_clear left.shares account).supply o
      have hgiven := (Shares.credited_addAll hcommitted.shares).balance account o
      rw [if_pos rfl] at hgiven
      rw [getD_zipWith _ (hlength.symm ▸ ho) (hout.symm ▸ ho), Shares.getD_allOf _ _ ho]
      unfold units at hleft ⊢
      dsimp only
      rw [hcleared, hgiven]
      linarith
  | @shares vector hresolved =>
    refine ⟨vector, _, hresolved, hlength, hheld, rfl, fun o ho => ?_⟩
    have hcleared := (Shares.credited_clear p.shares account).supply o
    rw [Shares.getD_allOf _ _ ho]
    unfold units
    dsimp only
    rw [hcleared]
    ring

/-- The worth of all units by a vector, in units of the denomination times the collateral. -/
def worth (p : Pool) (vector : List Int) : Int :=
  ∑ o ∈ Finset.range p.outcomes, p.units o * vector.getD o 0

/-- A vector that divides the denomination has no negative amount at any place. -/
theorem getD_nonneg_of_divides {vector : List Int} {outcomes : Nat} {denomination : Int}
    (h : Numerator.Divides vector outcomes denomination) (o : Nat) : 0 ≤ vector.getD o 0 := by
  by_cases ho : o < vector.length
  · rw [List.getD_eq_getElem _ _ ho]
    exact h.nonneg _ (List.getElem_mem ho)
  · rw [List.getD_eq_default _ _ (by omega)]

/-- Units are never worth a negative amount. -/
theorem WellFormed.worth_nonneg {p : Pool} (hp : p.WellFormed) {vector : List Int}
    (hvector : Numerator.Divides vector p.outcomes p.denomination) : 0 ≤ p.worth vector :=
  Finset.sum_nonneg fun o ho =>
    mul_nonneg (hp.units_nonneg (Finset.mem_range.1 ho)) (getD_nonneg_of_divides hvector o)

/-- As many units of each outcome are worth as many complete sets. -/
theorem worth_of_units_eq {p : Pool} {vector : List Int} {sets : Int}
    (hvector : Numerator.Divides vector p.outcomes p.denomination)
    (h : ∀ o < p.outcomes, p.units o = sets) : p.worth vector = p.denomination * sets := by
  have hsum := sum_eq_sum_range vector
  rw [hvector.sum_eq, hvector.length_eq] at hsum
  unfold worth
  rw [Finset.sum_congr rfl fun o ho => by rw [h o (Finset.mem_range.1 ho)], ← Finset.mul_sum,
    ← hsum, mul_comm]

/-- What a settlement pays for shares, with what the units left are worth, is at most what all
units were worth. -/
theorem Settled.worth_le {p after : Pool} {account : Text} {numerator : Numerator}
    {s : Settlement} {vector : List Int} (h : p.Settled account numerator after s)
    (hp : p.WellFormed) (hvector : numerator.vector p.outcomes p.denomination = .ok vector) :
    0 ≤ s.sharePayout ∧ p.denomination * s.sharePayout + after.worth vector ≤ p.worth vector := by
  have hdivides := Numerator.vector_ok hp.denomination_pos.le hvector
  obtain ⟨_, paid, hresolved, hlength, hnonneg, hpayout, hunits⟩ := h.units_eq hp
  obtain rfl : vector = _ := Except.ok.inj (hvector.symm.trans hresolved)
  have hweighted := weighted_eq_sum hlength hdivides.length_eq
  have hfloor := Curve.floorDiv_mul_le (weighted paid vector) hp.denomination_pos
  have hworth : after.worth vector = p.worth vector - weighted paid vector := by
    unfold worth
    rw [hweighted, h.sameTerms.outcomes, ← Finset.sum_sub_distrib]
    refine Finset.sum_congr rfl fun o ho => ?_
    rw [hunits o (Finset.mem_range.1 ho)]
    ring
  have hpositive : 0 ≤ weighted paid vector := by
    rw [hweighted]
    refine Finset.sum_nonneg fun o ho => mul_nonneg ?_ (getD_nonneg_of_divides hdivides o)
    have ho : o < paid.length := hlength.symm ▸ Finset.mem_range.1 ho
    rw [List.getD_eq_getElem _ _ ho]
    exact hnonneg _ (List.getElem_mem ho)
  rw [hpayout]
  refine ⟨Curve.floorDiv_nonneg hpositive hp.denomination_pos.le, ?_⟩
  rw [hworth]
  linarith

/-- No settlement comes to a negative amount. -/
theorem Settled.total_nonneg {p after : Pool} {account : Text} {numerator : Numerator}
    {s : Settlement} (h : p.Settled account numerator after s) (hp : p.WellFormed) :
    0 ≤ s.total := by
  obtain ⟨vector, _, hvector, -⟩ := h.units_eq hp
  have hshares := (h.worth_le hp hvector).1
  have hfees : 0 ≤ s.fees := by
    cases h with
    | stake _ hplanned _ => exact hplanned.fees_nonneg
    | shares _ => exact le_rfl
  exact add_nonneg hshares hfees

end Pool

end PredictionMarket
