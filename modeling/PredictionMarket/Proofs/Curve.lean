import PredictionMarket.Curve
import Mathlib.Algebra.Order.BigOperators.GroupWithZero.List
import Mathlib.Data.List.Forall2
import Mathlib.Data.List.GetD
import Mathlib.Tactic.Linarith
import Mathlib.Tactic.Positivity
import Mathlib.Tactic.Ring

/-!
# What the curve answers

Each function of the curve that can fail has one lemma here that says when it succeeds and with
what. The rounding of each quotient is stated as an inequality of products, on the side of the pool.
Products of reserves are taken apart at the traded outcome, since a trade moves it against all the
others.
-/

namespace PredictionMarket

/-- What amounts add up to is the sum of their list. -/
theorem Amounts.sum_eq (amounts : List Int) : Amounts.sum amounts = amounts.sum := rfl

namespace Curve

/-! ## Rounding -/

/-- For a divisor that is not negative, rounding down is Euclidean division. -/
theorem floorDiv_eq_ediv (a : Int) {b : Int} (hb : 0 ≤ b) : floorDiv a b = a / b :=
  Int.fdiv_eq_ediv_of_nonneg a hb

/-- A quotient rounded down is at most the exact one. -/
theorem floorDiv_mul_le (a : Int) {b : Int} (hb : 0 < b) : floorDiv a b * b ≤ a := by
  rw [floorDiv_eq_ediv a hb.le]
  exact Int.ediv_mul_le a hb.ne'

/-- What is lost by rounding down is the remainder. -/
theorem mul_floorDiv (a : Int) {b : Int} (hb : 0 < b) : b * floorDiv a b = a - a % b := by
  rw [floorDiv_eq_ediv a hb.le]
  exact Int.mul_ediv_self a b

/-- What is lost by rounding down is less than one unit. -/
theorem lt_floorDiv_mul (a : Int) {b : Int} (hb : 0 < b) : a < floorDiv a b * b + b := by
  have hexact := mul_floorDiv a hb
  have hrest := Int.emod_lt_of_pos a hb
  linarith

/-- A quotient rounded down stays below a bound of the exact one. -/
theorem floorDiv_le {a b c : Int} (hb : 0 < b) (h : a ≤ c * b) : floorDiv a b ≤ c :=
  le_of_mul_le_mul_right ((floorDiv_mul_le a hb).trans h) hb

/-- A quotient rounded down does not fall where the exact one does not. -/
theorem floorDiv_le_floorDiv {a b c d : Int} (hb : 0 < b) (hd : 0 < d) (h : a * d ≤ c * b) :
    floorDiv a b ≤ floorDiv c d := by
  have hrounded := mul_le_mul_of_nonneg_right (floorDiv_mul_le a hb) hd.le
  rw [floorDiv_eq_ediv c hd.le]
  refine Int.le_ediv_of_mul_le hd (le_of_mul_le_mul_right ?_ hb)
  linarith

/-- A quotient of amounts that are not negative is not negative. -/
theorem floorDiv_nonneg {a b : Int} (ha : 0 ≤ a) (hb : 0 ≤ b) : 0 ≤ floorDiv a b :=
  Int.fdiv_nonneg ha hb

/-- A quotient rounded up is at least the exact one. -/
theorem le_ceilDiv_mul (a : Int) {b : Int} (hb : 0 < b) : a ≤ ceilDiv a b * b := by
  have h := floorDiv_mul_le (-a) hb
  unfold ceilDiv
  unfold floorDiv at h
  linarith

/-- A quotient rounded up stays below a bound of the exact one. -/
theorem ceilDiv_le {a b c : Int} (hb : 0 < b) (h : a ≤ c * b) : ceilDiv a b ≤ c := by
  have hfloor : -c ≤ floorDiv (-a) b := by
    rw [floorDiv_eq_ediv _ hb.le]
    exact Int.le_ediv_of_mul_le hb (by linarith)
  unfold ceilDiv
  unfold floorDiv at hfloor
  linarith

/-! ## Fees -/

/-- A fee is computed for an amount that is not negative at a rate that leaves something. -/
theorem fee_eq_ok {amount swapFee f : Int} :
    fee amount swapFee = .ok f ↔
      0 ≤ amount ∧ 0 ≤ swapFee ∧ swapFee < feeUnit ∧ f = feeOf amount swapFee := by
  simp only [fee, refuseIf_bind_eq_ok, pure, Except.pure, Except.ok.injEq, not_lt, isFeeRate,
    Bool.not_eq_true', Bool.not_eq_false, Bool.and_eq_true, decide_eq_true_eq]
  constructor
  · rintro ⟨hamount, ⟨hrate, hunit⟩, rfl⟩
    exact ⟨hamount, hrate, hunit, rfl⟩
  · rintro ⟨hamount, hrate, hunit, rfl⟩
    exact ⟨hamount, ⟨hrate, hunit⟩, rfl⟩

/-- A fee is at most the amount that it is charged on. -/
theorem fee_le {amount swapFee f : Int} (h : fee amount swapFee = .ok f) : f ≤ amount := by
  obtain ⟨hamount, -, hunit, rfl⟩ := fee_eq_ok.1 h
  exact ceilDiv_le (by decide) (mul_le_mul_of_nonneg_left hunit.le hamount)

/-! ## Products of reserves -/

/-- Reserves that grow stay positive. -/
theorem pos_of_grown {reserves : List Int} {net : Int} (hpos : ∀ r ∈ reserves, 0 < r)
    (hnet : 0 ≤ net) : ∀ r ∈ reserves, 0 < r + net := by
  intro r hr
  have hreserve := hpos r hr
  omega

/-- Reserves that hold more than what leaves them stay positive. -/
theorem pos_of_shrunk {reserves : List Int} {collateralOut : Int}
    (hbelow : ∀ r ∈ reserves, collateralOut < r) : ∀ r ∈ reserves, 0 < r + -collateralOut := by
  intro r hr
  have hreserve := hbelow r hr
  omega

/-- The product of the reserves is the reserve of one outcome times all the others. -/
theorem prod_eq_mul_others {reserves : List Int} {t : Nat} (ht : t < reserves.length) :
    reserves.prod = reserves.getD t 0 * (reserves.eraseIdx t).prod := by
  rw [List.getD_eq_getElem _ _ ht, List.CommMonoid.mul_prod_eraseIdx ht]

/-- A change of one reserve leaves the product of the others. -/
theorem prod_modify {reserves : List Int} {t : Nat} (ht : t < reserves.length) (f : Int → Int) :
    (reserves.modify t f).prod = f (reserves.getD t 0) * (reserves.eraseIdx t).prod := by
  have htarget : (reserves.modify t f).getD t 0 = f (reserves.getD t 0) := by
    rw [List.getD_eq_getElem _ _ (by simpa using ht), List.getD_eq_getElem _ _ ht]
    simp
  rw [prod_eq_mul_others (by simpa using ht), htarget, List.eraseIdx_modify_of_eq]

/-- If no reserve falls, the product does not fall either. -/
theorem prod_le_prod_of_forall₂ {small large : List Int} (hpos : ∀ r ∈ small, 0 < r)
    (h : List.Forall₂ (· ≤ ·) small large) : small.prod ≤ large.prod := by
  induction h with
  | nil => exact le_rfl
  | @cons r s small large hle _ ih =>
    obtain ⟨hr, hrest⟩ := List.forall_mem_cons.1 hpos
    rw [List.prod_cons, List.prod_cons]
    exact mul_le_mul hle (ih hrest) (List.prod_pos hrest).le (hr.le.trans hle)

/-- Reserves that all move by the same amount stay in order. -/
theorem forall₂_map_add (reserves : List Int) {less more : Int} (h : less ≤ more) :
    List.Forall₂ (· ≤ ·) (reserves.map (· + less)) (reserves.map (· + more)) := by
  rw [List.forall₂_map_left_iff, List.forall₂_map_right_iff, List.forall₂_same]
  intro r _
  omega

/-- Reserves that all move by the same amount have the larger product where they move up. -/
theorem prod_map_add_le {reserves : List Int} {less more : Int} (h : less ≤ more)
    (hpos : ∀ r ∈ reserves, 0 < r + less) :
    (reserves.map (· + less)).prod ≤ (reserves.map (· + more)).prod :=
  prod_le_prod_of_forall₂ (List.forall_mem_map.2 hpos) (forall₂_map_add reserves h)

/-- The reserve that must remain of the traded outcome keeps the product from falling. -/
theorem prod_le_targetAfter_mul {target change : Int} {others : List Int}
    (h : ∀ r ∈ others, 0 < r + change) :
    target * others.prod ≤ targetAfter target others change * (others.map (· + change)).prod :=
  le_ceilDiv_mul _ <| List.prod_pos fun r hr => by
    obtain ⟨other, hother, rfl⟩ := List.mem_map.1 hr
    exact h other hother

/-- No reserve is empty exactly when all are positive. -/
theorem anyEmpty_eq_false {reserves : List Int} :
    anyEmpty reserves = false ↔ ∀ r ∈ reserves, 0 < r := by
  simp [anyEmpty]

/-! ## Trades -/

/-- The outcome of a pool with liquidity is one of its positions, and all reserves are positive. -/
theorem checkReserves_eq_ok {reserves : List Int} {outcome t : Nat} :
    checkReserves reserves outcome = .ok t ↔
      t = outcome ∧ outcome < reserves.length ∧ ∀ r ∈ reserves, 0 < r := by
  unfold checkReserves checkOutcome
  by_cases hout : outcome < reserves.length
  · cases hempty : anyEmpty reserves with
    | true =>
      have hnot : ¬∀ r ∈ reserves, 0 < r := by
        rw [← anyEmpty_eq_false, hempty]
        decide
      simp [hout, ok_bind, hnot]
    | false =>
      have hpos := anyEmpty_eq_false.1 hempty
      simp only [hout, Int.natCast_nonneg, Int.ofNat_lt, decide_true, Bool.and_self, if_true,
        ok_bind, Bool.false_eq_true, if_false, Int.toNat_natCast, Except.ok.injEq, true_and]
      exact ⟨fun h => ⟨h.symm, hpos⟩, fun h => h.1.symm⟩
  · simp [hout, error_bind]

/-- What a purchase is quoted: the fee on the payment, and the shares that the curve releases for
the rest. -/
theorem quoteBuy_ok {reserves : List Int} {collateralIn swapFee : Int} {t : Nat} {q : BuyQuote}
    (h : quoteBuy reserves collateralIn t swapFee = .ok q) :
    t < reserves.length ∧ (∀ r ∈ reserves, 0 < r) ∧ 0 < collateralIn ∧
      fee collateralIn swapFee = .ok q.fee ∧ 0 ≤ q.sharesOut ∧
      q.sharesOut = reserves.getD t 0 + (collateralIn - q.fee) -
        targetAfter (reserves.getD t 0) (reserves.eraseIdx t) (collateralIn - q.fee) := by
  simp only [quoteBuy, bind_eq_ok (checkReserves _ _), bind_eq_ok (fee _ _), refuseIf_bind_eq_ok,
    checkReserves_eq_ok, pure, Except.pure, Except.ok.injEq, not_lt, not_le] at h
  obtain ⟨_, ⟨rfl, ht, hpos⟩, hin, f, hfee, hshares, rfl⟩ := h
  exact ⟨ht, hpos, hin, hfee, hshares, rfl⟩

/-- What a sale is quoted: the shares that restore the product once the collateral has left. -/
theorem quoteSell_ok {reserves : List Int} {collateralOut sharesIn : Int} {t : Nat}
    (h : quoteSell reserves collateralOut t = .ok sharesIn) :
    t < reserves.length ∧ (∀ r ∈ reserves, 0 < r) ∧ 0 < collateralOut ∧
      (∀ r ∈ reserves.eraseIdx t, collateralOut < r) ∧
      sharesIn = collateralOut +
        targetAfter (reserves.getD t 0) (reserves.eraseIdx t) (-collateralOut) -
          reserves.getD t 0 := by
  simp only [quoteSell, bind_eq_ok (checkReserves _ _), refuseIf_bind_eq_ok,
    checkReserves_eq_ok, pure, Except.pure, Except.ok.injEq, not_le, List.any_eq_true,
    decide_eq_true_eq, not_exists, not_and] at h
  obtain ⟨_, ⟨rfl, ht, hpos⟩, hout, hothers, rfl⟩ := h
  exact ⟨ht, hpos, hout, hothers, rfl⟩

/-- A position that is counted from the front names itself. -/
theorem position?_natCast {length t : Nat} (ht : t < length) : position? length t = some t := by
  simp [position?, ht]

/-- After a purchase the complete sets have joined, the bought shares have left, and something
remains. -/
theorem applyBuy_ok {reserves after : List Int} {net sharesOut : Int} {t : Nat}
    (ht : t < reserves.length) (h : applyBuy reserves net t sharesOut = .ok after) :
    after = (reserves.map (· + net)).modify t (· - sharesOut) ∧ 0 < after.getD t 0 := by
  simp only [applyBuy, position?_natCast ht] at h
  split at h
  · cases h
  · cases h
    exact ⟨rfl, by omega⟩

/-- After a sale the sold shares have joined, the complete sets have left, and something remains of
every reserve. -/
theorem applySell_ok {reserves after : List Int} {collateralOut sharesIn : Int} {t : Nat}
    (ht : t < reserves.length) (h : applySell reserves collateralOut t sharesIn = .ok after) :
    after = (reserves.modify t (· + sharesIn)).map (· - collateralOut) ∧ ∀ r ∈ after, 0 < r := by
  simp only [applySell, position?_natCast ht] at h
  split at h
  · cases h
  · next hempty =>
    cases h
    exact ⟨rfl, anyEmpty_eq_false.1 (by simpa using hempty)⟩

/-- After a purchase something remains of every reserve. -/
theorem applyBuy_pos {reserves after : List Int} {collateralIn swapFee : Int} {t : Nat}
    {q : BuyQuote} (hquote : quoteBuy reserves collateralIn t swapFee = .ok q)
    (happly : applyBuy reserves (collateralIn - q.fee) t q.sharesOut = .ok after) :
    ∀ r ∈ after, 0 < r := by
  obtain ⟨ht, hpos, -, hfee, -, -⟩ := quoteBuy_ok hquote
  obtain ⟨rfl, htarget⟩ := applyBuy_ok ht happly
  have hnet := fee_le hfee
  intro r hr
  obtain ⟨i, hi, rfl⟩ := List.mem_iff_getElem.1 hr
  simp only [List.length_modify, List.length_map] at hi
  have hreserve := hpos _ (List.getElem_mem hi)
  by_cases hsame : t = i
  · subst hsame
    rwa [List.getD_eq_getElem _ _ (by simpa using hi)] at htarget
  · rw [List.getElem_modify, if_neg hsame, List.getElem_map]
    omega

/-- A purchase does not lower the product of the reserves. -/
theorem applyBuy_prod_le {reserves after : List Int} {collateralIn swapFee : Int} {t : Nat}
    {q : BuyQuote} (hquote : quoteBuy reserves collateralIn t swapFee = .ok q)
    (happly : applyBuy reserves (collateralIn - q.fee) t q.sharesOut = .ok after) :
    reserves.prod ≤ after.prod := by
  obtain ⟨ht, hpos, -, hfee, -, hshares⟩ := quoteBuy_ok hquote
  obtain ⟨rfl, -⟩ := applyBuy_ok ht happly
  have hnet := fee_le hfee
  have htarget : (reserves.map (· + (collateralIn - q.fee))).getD t 0 - q.sharesOut =
      targetAfter (reserves.getD t 0) (reserves.eraseIdx t) (collateralIn - q.fee) := by
    rw [List.getD_eq_getElem _ _ (by simpa using ht), List.getElem_map,
      ← List.getD_eq_getElem _ 0 ht]
    omega
  rw [prod_eq_mul_others ht, prod_modify (by simpa using ht), List.eraseIdx_map, htarget]
  have hothers : ∀ r ∈ reserves.eraseIdx t, 0 < r :=
    fun r hr => hpos r (List.mem_of_mem_eraseIdx hr)
  exact prod_le_targetAfter_mul (pos_of_grown hothers (sub_nonneg.2 hnet))

/-- A sale does not lower the product of the reserves. -/
theorem applySell_prod_le {reserves after : List Int} {collateralOut sharesIn : Int} {t : Nat}
    (hquote : quoteSell reserves collateralOut t = .ok sharesIn)
    (happly : applySell reserves collateralOut t sharesIn = .ok after) :
    reserves.prod ≤ after.prod := by
  obtain ⟨ht, -, -, hothers, hshares⟩ := quoteSell_ok hquote
  obtain ⟨rfl, -⟩ := applySell_ok ht happly
  have hlength : t < ((reserves.modify t (· + sharesIn)).map (· - collateralOut)).length := by
    simpa using ht
  have htarget : ((reserves.modify t (· + sharesIn)).map (· - collateralOut)).getD t 0 =
      targetAfter (reserves.getD t 0) (reserves.eraseIdx t) (-collateralOut) := by
    rw [List.getD_eq_getElem _ _ hlength, List.getElem_map, List.getElem_modify, if_pos rfl,
      ← List.getD_eq_getElem _ 0 ht]
    omega
  rw [prod_eq_mul_others ht, prod_eq_mul_others hlength, htarget, List.eraseIdx_map,
    List.eraseIdx_modify_of_eq]
  exact prod_le_targetAfter_mul (pos_of_shrunk hothers)

/-! ## Liquidity -/

/-- What the split of a deposit into reserves and returned shares obeys. -/
structure Funding.Splits (f : Funding) (total : Int) (outcomes : Nat) : Prop where
  /-- Something joins each reserve, or nothing. -/
  length_added : f.added.length = outcomes
  /-- Nothing is taken from a reserve. -/
  added_nonneg : ∀ a ∈ f.added, 0 ≤ a
  /-- What does not join a reserve returns to the depositor. -/
  returned_eq : f.returned = f.added.map (total - ·)
  /-- A stake is issued. -/
  minted_pos : 0 < f.minted

/-- A list of equal items has as many as it was asked for. -/
theorem repeated_eq_ok {α : Type} {count : Int} {item : α} {items : List α}
    (h : repeated count item = .ok items) : items = List.replicate count.toNat item := by
  simp only [repeated, refuseIf_bind_eq_ok, pure, Except.pure, Except.ok.injEq] at h
  exact h.2.2.symm

/-- The first deposit is split, and something joins every reserve. -/
theorem initialFunding_ok {total : Int} {outcomes : Nat} {weights : Option (List Int)}
    {f : Funding} (h : initialFunding total outcomes weights = .ok f) :
    f.Splits total outcomes ∧ ∀ a ∈ f.added, 0 < a := by
  simp only [initialFunding, refuseIf_bind_eq_ok, not_le] at h
  obtain ⟨htotal, h⟩ := h
  cases weights with
  | none =>
    simp only [bind_eq_ok, mapError_eq_ok, pure, Except.pure, Except.ok.injEq] at h
    obtain ⟨added, hadded, rfl⟩ := h
    obtain rfl := repeated_eq_ok hadded
    have hpos : ∀ a ∈ List.replicate (outcomes : Int).toNat total, 0 < a := by simp [htotal]
    refine ⟨⟨by simp, fun a ha => (hpos a ha).le, ?_, htotal⟩, hpos⟩
    simp
  | some ws =>
    simp only [refuseIf_bind_eq_ok] at h
    obtain ⟨hlength, -, h⟩ := h
    cases hmax : ws.max? with
    | none => simp [hmax] at h
    | some heaviest =>
      simp only [hmax, refuseIf_bind_eq_ok, pure, Except.pure, Except.ok.injEq,
        Bool.not_eq_true, anyEmpty_eq_false] at h
      obtain ⟨hpos, rfl⟩ := h
      refine ⟨⟨?_, fun a ha => (hpos a ha).le, rfl, htotal⟩, hpos⟩
      simpa using hlength

/-- The largest reserve, which a later deposit is measured by. -/
def largest (reserves : List Int) : Int :=
  reserves.max?.getD 0

/-- A later deposit is split in the proportions of the reserves, each part rounded down, and so is
the stake. -/
theorem proportionalFunding_ok {reserves : List Int} {total supply : Int} {f : Funding}
    (h : proportionalFunding reserves total supply = .ok f) :
    f.Splits total reserves.length ∧ 0 < total ∧ 0 < supply ∧ 0 < largest reserves ∧
      f.added = reserves.map (fun r => floorDiv (total * r) (largest reserves)) ∧
      f.minted = floorDiv (total * supply) (largest reserves) := by
  simp only [proportionalFunding, refuseIf_bind_eq_ok, not_le, Bool.not_eq_true,
    anyEmpty_eq_false] at h
  obtain ⟨htotal, hsupply, hpos, h⟩ := h
  cases hmax : reserves.max? with
  | none => simp [hmax] at h
  | some top =>
    simp only [hmax, refuseIf_bind_eq_ok, pure, Except.pure, Except.ok.injEq, not_le] at h
    obtain ⟨hminted, rfl⟩ := h
    have htop : 0 < top := hpos top (List.max?_mem hmax)
    have hlargest : largest reserves = top := by simp [largest, hmax]
    rw [hlargest]
    refine ⟨⟨by simp, ?_, rfl, hminted⟩, htotal, hsupply, htop, rfl, rfl⟩
    intro a ha
    obtain ⟨r, hr, rfl⟩ := List.mem_map.1 ha
    exact floorDiv_nonneg (mul_nonneg htotal.le (hpos r hr).le) htop.le

/-- A stake is given back for its part of each reserve. -/
theorem release_eq_ok {stake supply : Int} {reserves out : List Int} :
    release stake reserves supply = .ok out ↔
      0 < stake ∧ stake ≤ supply ∧ out = reserves.map (shareOfReserve stake supply) := by
  simp only [release, refuseIf_bind_eq_ok, pure, Except.pure, Except.ok.injEq, not_le, not_lt]
  constructor
  · rintro ⟨hstake, -, hle, rfl⟩
    exact ⟨hstake, hle, rfl⟩
  · rintro ⟨hstake, hle, rfl⟩
    exact ⟨hstake, hstake.trans_le hle, hle, rfl⟩

/-- The part of a reserve that belongs to a stake, over the whole supply, is at most the stake's
part of it. -/
theorem shareOfReserve_mul_le (stake reserve : Int) {supply : Int} (h : 0 < supply) :
    shareOfReserve stake supply reserve * supply ≤ stake * reserve :=
  floorDiv_mul_le _ h

/-- What the rounding leaves of a reserve is less than one unit. -/
theorem le_shareOfReserve_mul (stake reserve : Int) {supply : Int} (h : 0 < supply) :
    stake * reserve - supply ≤ shareOfReserve stake supply reserve * supply := by
  have hrest := lt_floorDiv_mul (stake * reserve) h
  rw [shareOfReserve]
  omega

/-- To no stake nothing of a reserve belongs. -/
theorem shareOfReserve_zero (supply reserve : Int) : shareOfReserve 0 supply reserve = 0 := by
  rw [shareOfReserve, zero_mul, floorDiv, Int.zero_fdiv]

/-- The part of a reserve that belongs to a stake is not negative. -/
theorem shareOfReserve_nonneg {stake supply reserve : Int} (hstake : 0 ≤ stake)
    (hsupply : 0 < supply) (hreserve : 0 ≤ reserve) : 0 ≤ shareOfReserve stake supply reserve :=
  floorDiv_nonneg (mul_nonneg hstake hreserve) hsupply.le

/-- A stake that is not all there is leaves something of each reserve. -/
theorem shareOfReserve_lt {stake supply reserve : Int} (hsupply : 0 < supply)
    (hstake : stake < supply) (hreserve : 0 < reserve) :
    shareOfReserve stake supply reserve < reserve := by
  have hpart := shareOfReserve_mul_le stake reserve hsupply
  have hwhole : stake * reserve < reserve * supply := by
    rw [mul_comm reserve supply]
    exact mul_lt_mul_of_pos_right hstake hreserve
  exact lt_of_mul_lt_mul_right (hpart.trans_lt hwhole) hsupply.le

/-- All pool tokens together take all of each reserve. -/
theorem shareOfReserve_self {supply : Int} (hsupply : 0 < supply) (reserve : Int) :
    shareOfReserve supply supply reserve = reserve := by
  unfold shareOfReserve floorDiv
  exact Int.mul_fdiv_cancel_left reserve hsupply.ne'

end Curve

end PredictionMarket
