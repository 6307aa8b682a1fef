import PredictionMarket.Proofs.Curve.Tight
import PredictionMarket.Proofs.Guard
import PredictionMarket.Proofs.Json.Numeral
import PredictionMarket.Proofs.Pool.Claims
import PredictionMarket.Proofs.Pool.Exchange
import PredictionMarket.Proofs.Pool.Writes

/-!
# Calls are refused before they write

The parts of a pool check their arguments, and a call of a pool checks its own before it passes them
on. In a pool that can be reached, the checks of the parts are never what fails: either a call is
refused before its first write, or all of its writes are carried out.
-/

namespace PredictionMarket

/-! ## What the parts accept -/

/-- There is room for a list of no more than the most items. -/
theorem exists_repeated {α : Type} {count : Int} (hcount : 0 ≤ count) (hmost : count ≤ mostItems)
    (item : α) : repeated count item = .ok (List.replicate count.toNat item) := by
  unfold mostItems at hmost
  rw [repeated, refuseIf_bind, if_neg (by unfold countBound; omega), refuseIf_bind,
    if_neg (by unfold mostItems; omega)]
  rfl

/-- A fee that is not negative can be credited. -/
theorem FeeState.exists_accrue {s : FeeState} (hweight : 0 ≤ s.weight)
    (hwithdrawn : 0 ≤ s.withdrawn) {fee : Int} (hfee : 0 ≤ fee) :
    s.accrue fee = .ok ⟨s.weight + fee, s.withdrawn⟩ := by
  rw [accrue, refuseIf_bind, if_neg (not_lt.2 hfee)]
  exact make_eq_ok.2 ⟨add_nonneg hweight hfee, hwithdrawn, rfl⟩

/-- A new stake that has nothing negative to be booked can be accounted for. -/
theorem FeeState.exists_onMint {s : FeeState} {supply minted : Int} (hminted : 0 < minted)
    (hweight : 0 ≤ s.weight + s.ineligible supply minted)
    (hwithdrawn : 0 ≤ s.withdrawn + s.ineligible supply minted) :
    ∃ answer, s.onMint supply minted = .ok answer := by
  have hmake := make_eq_ok.2 ⟨hweight, hwithdrawn, rfl⟩
  simp only [onMint, refuseIf_bind, if_neg (not_le.2 hminted), hmake, ok_bind]
  exact ⟨_, rfl⟩

/-- Pool tokens can be issued. -/
theorem Stakes.exists_mint (s : Stakes) (account : Text) {amount : Int} (hamount : 0 < amount) :
    ∃ after, s.mint account amount = .ok after := by
  rw [mint, refuseIf_bind, if_neg (not_le.2 hamount)]
  exact ⟨_, rfl⟩

namespace Shares

/-- Shares can be given for an outcome of the table. -/
theorem WellFormed.exists_add {s : Shares} (hs : s.WellFormed) (account : Text) {o : Nat}
    (ho : o < s.outcomes) {amount : Int} (hamount : 0 ≤ amount) :
    ∃ after, s.add account o amount = .ok after :=
  ⟨_, add_eq_ok.2 ⟨ho, add_nonneg (hs.balance_nonneg account o) hamount, rfl⟩⟩

/-- Shares that an account has can be taken off it. -/
theorem exists_subtract {s : Shares} {account : Text} {o : Nat} (ho : o < s.outcomes)
    {amount : Int} (hamount : 0 ≤ amount) (hheld : amount ≤ s.balance account o) :
    ∃ after, s.subtract account o amount = .ok after := by
  rw [subtract, refuseIf_bind, if_neg (not_lt.2 hamount)]
  exact ⟨_, add_eq_ok.2 ⟨ho, by omega, rfl⟩⟩

/-- As many shares of each of some outcomes can be taken off an account that has them. -/
theorem exists_subtractEach {account : Text} {amount : Int} (hamount : 0 ≤ amount)
    {outcomes : List Nat} (hnodup : outcomes.Nodup) {s : Shares}
    (hheld : ∀ o ∈ outcomes, o < s.outcomes ∧ amount ≤ s.balance account o) :
    ∃ after, outcomes.foldlM (fun (s : Shares) (o : Nat) => s.subtract account o amount) s =
      .ok after := by
  induction outcomes generalizing s with
  | nil => exact ⟨s, rfl⟩
  | cons o outcomes ih =>
    obtain ⟨hfresh, hrest⟩ := List.nodup_cons.1 hnodup
    obtain ⟨hknown, henough⟩ := hheld o List.mem_cons_self
    obtain ⟨next, hnext⟩ := exists_subtract hknown hamount henough
    have htaken := credited_subtract hnext
    rw [List.foldlM_cons, hnext, ok_bind]
    refine ih hrest fun other hother => ?_
    have hne : other ≠ o := fun hsame => hfresh (hsame ▸ hother)
    rw [htaken.outcomes, htaken.balance, if_pos rfl, if_neg hne, add_zero]
    exact hheld other (List.mem_cons_of_mem _ hother)

end Shares

namespace Curve

/-- A fee is not negative. -/
theorem fee_nonneg {amount swapFee f : Int} (h : fee amount swapFee = .ok f) : 0 ≤ f := by
  obtain ⟨hamount, hrate, -, rfl⟩ := fee_eq_ok.1 h
  have hexact : 0 ≤ amount * swapFee := mul_nonneg hamount hrate
  have hbound : 0 ≤ feeOf amount swapFee * feeUnit :=
    hexact.trans (isLeast_feeOf amount swapFee).1
  exact nonneg_of_mul_nonneg_left hbound (by decide)

/-- At a rate that leaves something, each amount has a fee. -/
theorem exists_fee {amount swapFee : Int} (hamount : 0 ≤ amount) (hrate : 0 ≤ swapFee)
    (hunit : swapFee < feeUnit) : ∃ f, fee amount swapFee = .ok f :=
  ⟨_, fee_eq_ok.2 ⟨hamount, hrate, hunit, rfl⟩⟩

/-- Parts in proportion to the largest item are at most the whole. -/
theorem floorDiv_mul_le_whole {total top : Int} (htotal : 0 ≤ total) (htop : 0 < top)
    {items : List Int} (hmost : ∀ item ∈ items, item ≤ top) :
    ∀ part ∈ items.map (fun item => floorDiv (total * item) top), part ≤ total := by
  intro part hpart
  obtain ⟨item, hitem, rfl⟩ := List.mem_map.1 hpart
  exact floorDiv_le htop (mul_le_mul_of_nonneg_left (hmost item hitem) htotal)

/-- No part of the first deposit is more than the whole. -/
theorem initialFunding_added_le {total : Int} {outcomes : Nat} {weights : Option (List Int)}
    {f : Funding} (h : initialFunding total outcomes weights = .ok f) :
    ∀ part ∈ f.added, part ≤ total := by
  simp only [initialFunding, refuseIf_bind_eq_ok, not_le] at h
  obtain ⟨htotal, h⟩ := h
  cases weights with
  | none =>
    simp only [bind_eq_ok, mapError_eq_ok, pure, Except.pure, Except.ok.injEq] at h
    obtain ⟨added, hadded, rfl⟩ := h
    obtain rfl := repeated_eq_ok hadded
    exact fun part hpart => (List.eq_of_mem_replicate hpart).le
  | some ws =>
    simp only [refuseIf_bind_eq_ok, Bool.not_eq_true, anyEmpty_eq_false] at h
    obtain ⟨-, hpos, h⟩ := h
    cases hmax : ws.max? with
    | none => simp [hmax] at h
    | some heaviest =>
      simp only [hmax, refuseIf_bind_eq_ok, pure, Except.pure, Except.ok.injEq] at h
      obtain ⟨-, rfl⟩ := h
      exact floorDiv_mul_le_whole htotal.le (hpos heaviest (List.max?_mem hmax))
        (List.max?_eq_some_iff.1 hmax).2

/-- No reserve is larger than the largest. -/
theorem le_largest {reserves : List Int} : ∀ r ∈ reserves, r ≤ largest reserves := by
  intro r hr
  have hsome := List.isSome_max?_of_mem hr
  obtain ⟨top, htop⟩ := Option.isSome_iff_exists.1 hsome
  rw [largest, htop, Option.getD_some]
  exact (List.max?_eq_some_iff.1 htop).2 r hr

/-- No part of a later deposit is more than the whole. -/
theorem proportionalFunding_added_le {reserves : List Int} {total supply : Int} {f : Funding}
    (h : proportionalFunding reserves total supply = .ok f) : ∀ part ∈ f.added, part ≤ total := by
  obtain ⟨-, htotal, -, hlargest, hadded, -⟩ := proportionalFunding_ok h
  rw [hadded]
  exact floorDiv_mul_le_whole htotal.le hlargest le_largest

end Curve

/-! ## What the curve refuses -/

/-- Whether an error of the curve is about the amounts of a call, and not about the pool. -/
def CurveError.blamesCall : CurveError → Bool
  | .collateralInNotPositive _ => true
  | .collateralOutNotPositive _ => true
  | .drainsReserve _ _ => true
  | .weightCount _ _ => true
  | .weightNotPositive _ => true
  | .emptyReserve => true
  | .nothingMinted _ => true
  | _ => false

namespace Curve

/-- A purchase at positive reserves is refused for its amount alone. -/
theorem quoteBuy_failsIn {reserves : List Int} (hpos : ∀ r ∈ reserves, 0 < r) {t : Nat}
    (ht : t < reserves.length) (collateralIn : Int) {swapFee : Int} (hrate : 0 ≤ swapFee)
    (hunit : swapFee < feeUnit) :
    FailsIn (fun e => e.blamesCall = true) (quoteBuy reserves collateralIn t swapFee) := by
  by_cases hin : 0 < collateralIn
  · obtain ⟨_, hquote⟩ := exists_quoteBuy hpos ht hin hrate hunit
    exact .of_ok hquote
  · have hchecked := checkReserves_eq_ok.2 ⟨rfl, ht, hpos⟩
    have hrefused : quoteBuy reserves collateralIn t swapFee =
        .error (.collateralInNotPositive collateralIn) := by
      rw [quoteBuy, hchecked, ok_bind, refuseIf_bind, if_pos (not_lt.1 hin)]
    exact .of_error hrefused rfl

/-- A sale at positive reserves is refused for its amount alone. -/
theorem quoteSell_failsIn {reserves : List Int} (hpos : ∀ r ∈ reserves, 0 < r) {t : Nat}
    (ht : t < reserves.length) (collateralOut : Int) :
    FailsIn (fun e => e.blamesCall = true) (quoteSell reserves collateralOut t) := by
  have hchecked := checkReserves_eq_ok.2 ⟨rfl, ht, hpos⟩
  refine .bind (.of_ok hchecked) fun _ _ => ?_
  exact .bind (.refuse fun _ => rfl) fun _ _ => .bind (.refuse fun _ => rfl) fun _ _ => .of_ok rfl

/-- The first deposit among outcomes that there is room for is refused for its weights alone. -/
theorem initialFunding_failsIn {total : Int} (htotal : 0 < total) {outcomes : Nat}
    (hsome : 0 < outcomes) (hroom : (outcomes : Int) ≤ mostItems) (weights : Option (List Int)) :
    FailsIn (fun e => e.blamesCall = true) (initialFunding total outcomes weights) := by
  refine .bind (.refuse fun h => absurd htotal (not_lt.2 h)) fun _ _ => ?_
  cases weights with
  | none =>
    have hadded := exists_repeated (Int.natCast_nonneg outcomes) hroom total
    exact .bind (.of_ok ((mapError_eq_ok _ _ _).2 hadded)) fun _ _ => .of_ok rfl
  | some ws =>
    refine .bind (.refuse fun _ => rfl) fun _ hlength => .bind (.refuse fun _ => rfl) fun _ _ => ?_
    rw [refuseIf_eq_ok, not_not] at hlength
    cases hmax : ws.max? with
    | none =>
      obtain rfl := List.max?_eq_none_iff.1 hmax
      rw [List.length_nil] at hlength
      omega
    | some heaviest => exact .bind (.refuse fun _ => rfl) fun _ _ => .of_ok rfl

/-- A later deposit at positive reserves is refused only if it is too small for a stake. -/
theorem proportionalFunding_failsIn {reserves : List Int} (hpos : ∀ r ∈ reserves, 0 < r)
    (hsome : 0 < reserves.length) {total supply : Int} (htotal : 0 < total)
    (hsupply : 0 < supply) :
    FailsIn (fun e => e.blamesCall = true) (proportionalFunding reserves total supply) := by
  have hfull := anyEmpty_eq_false.2 hpos
  refine .bind (.refuse fun h => absurd htotal (not_lt.2 h)) fun _ _ =>
    .bind (.refuse fun h => absurd hsupply (not_lt.2 h)) fun _ _ =>
      .bind (.refuse fun h => absurd h (by simp [hfull])) fun _ _ => ?_
  cases hmax : reserves.max? with
  | none =>
    obtain rfl := List.max?_eq_none_iff.1 hmax
    cases hsome
  | some largest => exact .bind (.refuse fun _ => rfl) fun _ _ => .of_ok rfl

end Curve

/-! ## What a pool refuses -/

/-- An error that is meant as an answer: the call is refused, and if the curve is asked, it is the
amounts of the call that it refuses. -/
def PoolError.IsAnswer (e : PoolError) : Prop :=
  (∃ r, e.notice.meant = .refusal r) ∧ ∀ cause, e = .quote cause → cause.blamesCall = true

/-- What the curve refuses about the amounts of a call, if this is what an error says. -/
def PoolError.quote? : PoolError → Option CurveError
  | .quote e => some e
  | _ => none

/-- A refusal that does not come from the curve is an answer. -/
theorem PoolError.IsAnswer.of_refusal {e : PoolError} {r : Refusal}
    (hmeant : e.notice.meant = .refusal r) (hquote : e.quote? = none) : e.IsAnswer := by
  refine ⟨⟨r, hmeant⟩, fun cause hsame => ?_⟩
  rw [hsame] at hquote
  cases hquote

/-- What the curve refuses for the amounts of a call is an answer. -/
theorem PoolError.isAnswer_quote {cause : CurveError} (h : cause.blamesCall = true) :
    (PoolError.quote cause).IsAnswer :=
  ⟨⟨_, rfl⟩, fun _ hsame => PoolError.quote.inj hsame ▸ h⟩

namespace Pool

/-- A pool that has room for its outcomes and a fee rate that leaves something. -/
structure Sized (p : Pool) : Prop where
  /-- There is room for the outcomes. -/
  outcomes_le : (p.outcomes : Int) ≤ mostItems
  /-- The fee rate is not negative. -/
  swapFee_nonneg : 0 ≤ p.swapFee
  /-- The fee rate does not take everything. -/
  swapFee_lt : p.swapFee < Curve.feeUnit

/-- A new pool has room for its outcomes, and its fee rate is checked. -/
theorem sized_make {marketId outcomes decimals swapFee : Int} {token : Text} {p : Pool}
    (h : Pool.make marketId outcomes token decimals swapFee = .ok p) : p.Sized := by
  have houtcomes := outcomes_eq_of_make h
  obtain ⟨-, hroom, rfl⟩ := make_ok h
  simp only [make, refuseIf_bind_eq_ok, Bool.not_eq_true', Bool.not_eq_false, Curve.isFeeRate,
    Bool.and_eq_true, decide_eq_true_eq] at h
  obtain ⟨-, ⟨hrate, hunit⟩, -⟩ := h
  exact ⟨houtcomes.le.trans hroom, hrate, hunit⟩

/-- All pools that can be reached have room for their outcomes, and a fee rate that leaves
something. -/
theorem Reachable.sized {p : Pool} (h : p.Reachable) : p.Sized := by
  obtain ⟨_, _, _, _, _, new, calls, hnew, rfl⟩ := h
  have hterms := sameTerms_run new calls
  obtain ⟨hroom, hrate, hunit⟩ := sized_make hnew
  exact ⟨hterms.outcomes ▸ hroom, hterms.swapFee ▸ hrate, hterms.swapFee ▸ hunit⟩

section Prepared

variable {p : Pool}

/-- In a pool with liquidity, no reserve is empty. -/
theorem WellFormed.reserves_pos (hp : p.WellFormed) (hfunded : p.stakes.supply ≠ 0) :
    ∀ r ∈ p.reserves, 0 < r :=
  hp.funded (lt_of_le_of_ne hp.supply_nonneg hfunded.symm)

/-- A number of an outcome is a position of the reserves. -/
theorem WellFormed.lt_length (hp : p.WellFormed) {o : Nat} (ho : o < p.outcomes) :
    o < p.reserves.length :=
  hp.reserves_length.symm ▸ ho

/-- An outcome that is not one of a pool with liquidity is refused. -/
theorem checkFunded_failsIn (p : Pool) (outcome : Value) :
    FailsIn PoolError.IsAnswer (p.checkFunded outcome) := by
  refine .bind ?_ fun _ _ => .bind (.refuse fun _ => .of_refusal rfl rfl) fun _ _ => .of_ok rfl
  unfold checkOutcome
  split
  · split
    · exact .of_ok rfl
    · exact .of_error rfl (PoolError.IsAnswer.of_refusal rfl rfl)
  · exact .of_error rfl (PoolError.IsAnswer.of_refusal rfl rfl)

/-- A deposit of something is refused for its amount or its weights. -/
theorem WellFormed.splitDeposit_failsIn (hp : p.WellFormed) (hsized : p.Sized) {total : Int}
    (htotal : 0 < total) (weights : Option (List Int)) :
    FailsIn PoolError.IsAnswer (p.splitDeposit total weights) := by
  have htwo := hp.two_le_outcomes
  unfold splitDeposit
  split
  · have hfails := Curve.initialFunding_failsIn htotal (by omega) hsized.outcomes_le weights
    exact .mapError fun e he => PoolError.isAnswer_quote (hfails e he)
  · next hfunded =>
    have hsupply : 0 < p.stakes.supply := lt_of_le_of_ne hp.supply_nonneg (Ne.symm hfunded)
    have hlength := hp.reserves_length
    have hfails := Curve.proportionalFunding_failsIn (hp.reserves_pos hfunded) (by omega) htotal
      hsupply
    exact .bind (.refuse fun _ => .of_refusal rfl rfl) fun _ _ =>
      .mapError fun e he => PoolError.isAnswer_quote (hfails e he)

/-- No part of a deposit is more than the whole. -/
theorem splitDeposit_added_le {total : Int} {weights : Option (List Int)} {f : Curve.Funding}
    (h : p.splitDeposit total weights = .ok f) : ∀ part ∈ f.added, part ≤ total := by
  rcases splitDeposit_ok h with ⟨-, hfunding⟩ | ⟨-, hfunding⟩
  · exact Curve.initialFunding_added_le hfunding
  · exact Curve.proportionalFunding_added_le hfunding

/-- A stake that is not given back is not positive, or more than the account has. -/
theorem Ledgered.planExit_failsIn (h : p.Ledgered) (account : Text) (stake : Int) :
    FailsIn PoolError.IsAnswer (p.planExit account stake) := by
  by_cases hstake : stake ≤ 0
  · have hrefused : p.planExit account stake = .error (.stakeNotPositive stake) := by
      rw [planExit, refuseIf_bind, if_pos hstake]
    exact .of_error hrefused (PoolError.IsAnswer.of_refusal rfl rfl)
  · by_cases hle : stake ≤ p.stakes.balance account
    · obtain ⟨_, hplan⟩ := h.exists_planExit (not_le.1 hstake) hle
      exact .of_ok hplan
    · have hrefused : p.planExit account stake =
          .error (.stakeShort (p.stakes.balance account) stake) := by
        rw [planExit, refuseIf_bind, if_neg hstake, refuseIf_bind, if_pos (not_le.1 hle)]
      exact .of_error hrefused (PoolError.IsAnswer.of_refusal rfl rfl)

/-- The vector of a resolution is refused if it does not fit the market. -/
theorem WellFormed.vector_failsIn (hp : p.WellFormed) (hsized : p.Sized) {numerator : Numerator}
    (hresolved : numerator.isResolved = true) :
    FailsIn PoolError.IsAnswer
      ((numerator.vector p.outcomes p.denomination).mapError .payout) := by
  have htwo := hp.two_le_outcomes
  refine .mapError ?_
  cases numerator with
  | unresolved => cases hresolved
  | invalid =>
    have hroom := exists_repeated (Int.natCast_nonneg p.outcomes) hsized.outcomes_le
      (Curve.floorDiv p.denomination p.outcomes)
    have hparts := (mapError_eq_ok _ PayoutError.room _).2 hroom
    refine .bind (.refuse fun h => by omega) fun _ _ =>
      .bind (.of_ok hparts) fun parts hsame => ?_
    cases parts with
    | nil =>
      have hempty := congrArg List.length (Except.ok.inj (hparts.symm.trans hsame))
      rw [List.length_replicate, List.length_nil] at hempty
      omega
    | cons first others => exact .of_ok rfl
  | valid values =>
    exact .bind (.refuse fun _ => .of_refusal rfl rfl) fun _ _ =>
      .bind (.mapError fun _ _ => .of_refusal rfl rfl) fun _ _ =>
        .bind (.refuse fun _ => .of_refusal rfl rfl) fun _ _ => .of_ok rfl

/-! ## Drafts -/

/-- Whether all writes of a draft can be carried out. -/
def CanWrite (p : Pool) (d : Draft) : Prop :=
  ∃ after, p.putAll d.writes = .ok after

/-- Amounts of all outcomes that are not negative can be given to an account. -/
theorem exists_gifts (account : Text) {amounts : List Int}
    (hshares : p.shares.WellFormed) (hlength : amounts.length = p.outcomes)
    (hamounts : ∀ amount ∈ amounts, 0 ≤ amount) :
    ∃ after, p.putAll (gifts account 0 amounts) = .ok after := by
  obtain ⟨shares, hgiven⟩ := Shares.exists_addFrom account 0 hshares
    (by rw [hlength, Nat.zero_add, Pool.outcomes]) hamounts
  rw [putAll_gifts, hgiven]
  exact ⟨_, rfl⟩

/-- A deposit is refused, or it can be written. -/
theorem prepareDeposit_ends (hp : p.WellFormed) (hledgered : p.Ledgered) (hsized : p.Sized)
    (sender : Text) (total : Int) (weights : Option (List Int)) :
    Ends PoolError.IsAnswer p.CanWrite (p.prepareDeposit sender total weights) := by
  refine .bind (.refuse fun _ => .of_refusal rfl rfl) fun _ htotal => ?_
  rw [refuseIf_eq_ok, not_le] at htotal
  refine .bind (hp.splitDeposit_failsIn hsized htotal weights) fun f hsplit => ?_
  have hsplits := hp.splits hsplit
  have hineligible := hledgered.ineligible_nonneg hsplits.minted_pos
  obtain ⟨⟨ineligible, fees⟩, hminted⟩ := FeeState.exists_onMint hsplits.minted_pos
    (add_nonneg hledgered.weight_nonneg hineligible)
    (add_nonneg hledgered.withdrawn_nonneg hineligible)
  refine .bind (.of_ok ((mapError_eq_ok _ _ _).2 hminted)) fun (ineligible, fees) _ =>
    .of_ok rfl ?_
  obtain ⟨stakes, hissued⟩ := p.stakes.exists_mint sender hsplits.minted_pos
  have hreturned : ∀ amount ∈ f.returned, 0 ≤ amount := by
    rw [hsplits.returned_eq]
    intro amount hamount
    obtain ⟨part, hpart, rfl⟩ := List.mem_map.1 hamount
    exact sub_nonneg.2 (splitDeposit_added_le hsplit part hpart)
  have hlength : f.returned.length = p.outcomes := by
    rw [hsplits.returned_eq, List.length_map, hsplits.length_added]
  simp only [CanWrite, putAll_append, putAll_cons, putAll_nil, put, pure_bind, ok_bind,
    putAll_bookings, hissued, Except.mapError]
  exact exists_gifts sender hp.shares hlength hreturned

/-- Giving a stake back is refused, or it can be written. -/
theorem prepareExit_ends (hp : p.WellFormed) (hledgered : p.Ledgered) (sender : Text)
    (stake : Int) : Ends PoolError.IsAnswer p.CanWrite (p.prepareExit sender stake) := by
  refine .bind (hledgered.planExit_failsIn sender stake) fun plan hplan => .of_ok rfl ?_
  obtain ⟨after, hcommit⟩ := hp.exists_commitExit (planExit_ok hplan)
  exact ⟨after, (p.putAll_exitWrites sender plan).trans hcommit⟩

/-- A purchase is refused, or it can be written. -/
theorem prepareBuy_ends (hp : p.WellFormed) (hledgered : p.Ledgered) (hsized : p.Sized)
    (sender : Text) (collateralIn : Int) (outcome : Value) (minShares : Int) :
    Ends PoolError.IsAnswer p.CanWrite (p.prepareBuy sender collateralIn outcome minShares) := by
  refine .bind (p.checkFunded_failsIn outcome) fun o hfunded => ?_
  obtain ⟨rfl, ho, hsupply⟩ := checkFunded_ok hfunded
  have hquotes := Curve.quoteBuy_failsIn (hp.reserves_pos hsupply) (hp.lt_length ho) collateralIn
    hsized.swapFee_nonneg hsized.swapFee_lt
  refine .bind (.mapError fun e he => PoolError.isAnswer_quote (hquotes e he)) fun q hquote => ?_
  refine .bind (.refuse fun _ => .of_refusal rfl rfl) fun _ _ =>
    .bind (.refuse fun _ => .of_refusal rfl rfl) fun _ _ => ?_
  have hquoted : Curve.quoteBuy p.reserves collateralIn o p.swapFee = .ok q :=
    (mapError_eq_ok _ _ _).1 hquote
  have happlied := (Curve.tightPurchase_of_quoteBuy hquoted).applied
  obtain ⟨-, -, -, hfee, hshares, -⟩ := Curve.quoteBuy_ok hquoted
  refine .bind (.of_ok ((mapError_eq_ok _ _ _).2 happlied)) fun reserves _ => .of_ok rfl ?_
  have haccrued := FeeState.exists_accrue hledgered.weight_nonneg hledgered.withdrawn_nonneg
    (Curve.fee_nonneg hfee)
  obtain ⟨shares, hgiven⟩ := hp.shares.exists_add sender ho hshares
  simp only [CanWrite, putAll_cons, putAll_nil, put, haccrued, hgiven, Except.mapError, ok_bind,
    pure_bind]
  exact ⟨_, rfl⟩

/-- A sale is refused, or it can be written. -/
theorem prepareSell_ends (hp : p.WellFormed) (hledgered : p.Ledgered) (hsized : p.Sized)
    (sender : Text) (collateralOut : Int) (outcome : Value) (maxShares : Int) :
    Ends PoolError.IsAnswer p.CanWrite
      (p.prepareSell sender collateralOut outcome maxShares) := by
  refine .bind (p.checkFunded_failsIn outcome) fun o hfunded => ?_
  obtain ⟨rfl, ho, hsupply⟩ := checkFunded_ok hfunded
  have hquotes := Curve.quoteSell_failsIn (hp.reserves_pos hsupply) (hp.lt_length ho)
    collateralOut
  refine .bind (.mapError fun e he => PoolError.isAnswer_quote (hquotes e he))
    fun sharesIn hquote => .bind (.refuse fun _ => .of_refusal rfl rfl) fun _ _ =>
      .bind (.refuse fun _ => .of_refusal rfl rfl) fun _ hheld => ?_
  rw [refuseIf_eq_ok, not_lt] at hheld
  have hquoted : Curve.quoteSell p.reserves collateralOut o = .ok sharesIn :=
    (mapError_eq_ok _ _ _).1 hquote
  have htight := Curve.tightSale_of_quoteSell hquoted
  have hmore := htight.collateral_le_shares
  obtain ⟨-, -, hout, -, -⟩ := Curve.quoteSell_ok hquoted
  obtain ⟨f, hfee⟩ := Curve.exists_fee hout.le hsized.swapFee_nonneg hsized.swapFee_lt
  refine .bind (.of_ok ((mapError_eq_ok _ _ _).2 hfee)) fun fee hcharged =>
    .bind (.of_ok ((mapError_eq_ok _ _ _).2 htight.applied)) fun reserves _ => .of_ok rfl ?_
  have haccrued := FeeState.exists_accrue hledgered.weight_nonneg hledgered.withdrawn_nonneg
    (Curve.fee_nonneg ((mapError_eq_ok _ _ _).1 hcharged))
  obtain ⟨shares, htaken⟩ := Shares.exists_subtract ho (by omega) hheld
  simp only [CanWrite, putAll_cons, putAll_nil, put, haccrued, htaken, Except.mapError, ok_bind,
    pure_bind]
  exact ⟨_, rfl⟩

/-- If no balance is short, the account has the sets. -/
theorem le_balance_of_firstShort {account : Text} {sets : Int}
    (h : firstShort sets (p.shares.allOf account) = none) {o : Nat} (ho : o < p.outcomes) :
    sets ≤ p.shares.balance account o := by
  have hnone := List.find?_eq_none.1 (Option.map_eq_none_iff.1 h)
  have hlength : o < (p.shares.allOf account).length := by rwa [Shares.length_allOf]
  have hplace : ((p.shares.allOf account)[o], o) ∈ (p.shares.allOf account).zipIdx :=
    List.mem_zipIdx_iff_getElem?.2 (List.getElem?_eq_getElem hlength)
  have henough := hnone _ hplace
  rwa [decide_eq_true_eq, not_lt, ← List.getD_eq_getElem _ 0 hlength,
    Shares.getD_allOf _ _ ho] at henough

/-- There is a fee for each number of complete sets. -/
theorem exists_redeemFee (hsized : p.Sized) {sets : Int} (hsets : 0 < sets) :
    ∃ fee, p.redeemFee sets = .ok fee ∧ 0 ≤ fee := by
  unfold redeemFee
  split
  · obtain ⟨fee, hfee⟩ := Curve.exists_fee hsets.le hsized.swapFee_nonneg hsized.swapFee_lt
    exact ⟨fee, (mapError_eq_ok _ _ _).2 hfee, Curve.fee_nonneg hfee⟩
  · exact ⟨0, rfl, le_rfl⟩

/-- Redeeming complete sets is refused, or it can be written. -/
theorem prepareRedeem_ends (hledgered : p.Ledgered) (hsized : p.Sized) (sender : Text)
    (sets : Int) :
    Ends PoolError.IsAnswer p.CanWrite (p.prepareRedeem sender sets) := by
  refine .bind (.refuse fun _ => .of_refusal rfl rfl) fun _ hsets => ?_
  rw [refuseIf_eq_ok, not_le] at hsets
  cases hshort : firstShort sets (p.shares.allOf sender) with
  | some short => exact .of_error rfl (PoolError.IsAnswer.of_refusal rfl rfl)
  | none =>
    obtain ⟨fee, hcharged, hfee⟩ := exists_redeemFee hsized hsets
    refine .bind (.of_ok hcharged) fun other hother => .of_ok rfl ?_
    obtain rfl : fee = other := Except.ok.inj (hcharged.symm.trans hother)
    obtain ⟨shares, htaken⟩ := Shares.exists_subtractEach hsets.le List.nodup_range
      fun o ho => ⟨List.mem_range.1 ho, le_balance_of_firstShort hshort (List.mem_range.1 ho)⟩
    have haccrued := FeeState.exists_accrue hledgered.weight_nonneg hledgered.withdrawn_nonneg hfee
    rw [CanWrite, putAll_append, putAll_takings]
    simp only [Pool.outcomes, htaken, putAll_cons, putAll_nil, put, haccrued, Except.mapError,
      ok_bind, pure_bind]
    exact ⟨_, rfl⟩

/-- A payout is refused, or it can be written. -/
theorem preparePayout_ends (hp : p.WellFormed) (hledgered : p.Ledgered) (hsized : p.Sized)
    (account : Text) (numerator : Numerator) :
    Ends PoolError.IsAnswer p.CanWrite (p.preparePayout account numerator) := by
  refine .bind (.refuse fun _ => .of_refusal rfl rfl) fun _ hresolved => ?_
  rw [refuseIf_eq_ok, Bool.not_eq_true', Bool.not_eq_false] at hresolved
  refine .bind (hp.vector_failsIn hsized hresolved) fun vector _ => ?_
  by_cases hstake : 0 < p.stakes.balance account
  · simp only [if_pos hstake]
    refine .bind (hledgered.planExit_failsIn account _) fun plan hplan =>
      .bind (.refuse fun _ => .of_refusal rfl rfl) fun _ _ => .of_ok rfl ?_
    obtain ⟨left, hcommit⟩ := hp.exists_commitExit (planExit_ok hplan)
    rw [CanWrite, putAll_append, putAll_exitWrites, hcommit]
    exact ⟨_, rfl⟩
  · simp only [if_neg hstake]
    exact .bind (.refuse fun _ => .of_refusal rfl rfl) fun _ _ => .of_ok rfl ⟨_, rfl⟩

/-- A call is refused, or it can be written. -/
theorem prepare_ends (hp : p.WellFormed) (hledgered : p.Ledgered) (hsized : p.Sized)
    (c : PoolCall) : Ends PoolError.IsAnswer p.CanWrite (p.prepare c) := by
  cases c with
  | trade sender t =>
    cases t with
    | addLiquidity => exact prepareDeposit_ends hp hledgered hsized _ _ _
    | exitPool => exact prepareExit_ends hp hledgered _ _
    | buy => exact prepareBuy_ends hp hledgered hsized _ _ _ _
    | sell => exact prepareSell_ends hp hledgered hsized _ _ _ _
    | redeem => exact prepareRedeem_ends hledgered hsized _ _
  | payout => exact preparePayout_ends hp hledgered hsized _ _

end Prepared

/-- In a pool that can be reached, a call that can be prepared succeeds. -/
theorem Reachable.exists_call {p : Pool} (hp : p.Reachable) {c : PoolCall} {d : Draft}
    (h : p.prepare c = .ok d) :
    ∃ after, p.putAll d.writes = .ok after ∧ p.call c = .ok (after, d.receipt) := by
  obtain ⟨after, hwritten⟩ := (prepare_ends hp.wellFormed hp.ledgered hp.sized c).ok d h
  refine ⟨after, hwritten, ?_⟩
  rw [call_eq, h, ok_bind, complete, hwritten]
  rfl

/-- **Calls fail early**: in a pool that can be reached, each call either fails before its first
write, or all of its writes are carried out, and the call succeeds. A call that fails is meant to be
refused, and if the curve refuses it then for the amounts of the call. It is refused if the error
can be put into words; if the error would have to show a number of too many digits, it is a bad
value. -/
theorem calls_fail_before_writing {p : Pool} (hp : p.Reachable) (c : PoolCall) :
    (∃ e r, p.prepare c = .error e ∧ p.call c = .error e ∧
      (∀ cause, e = .quote cause → cause.blamesCall = true) ∧ e.notice.meant = .refusal r ∧
      e.kind = if Value.areWritable e.notice.shown then .refusal r else .badValue) ∨
    ∃ d after, p.prepare c = .ok d ∧ p.write d.writes = (after, none) ∧
      p.call c = .ok (after, d.receipt) := by
  cases hprepare : p.prepare c with
  | error e =>
    have hends := prepare_ends hp.wellFormed hp.ledgered hp.sized c
    obtain ⟨⟨r, hmeant⟩, hcause⟩ := hends.error e hprepare
    refine .inl ⟨e, r, rfl, ?_, hcause, hmeant, ?_⟩
    · rw [call_eq, hprepare, error_bind]
    · rw [PoolError.kind, Notice.kind, hmeant, Notice.isWorded]
  | ok d =>
    obtain ⟨after, hwritten, hcall⟩ := hp.exists_call hprepare
    exact .inr ⟨d, after, rfl, write_eq_of_putAll hwritten, hcall⟩

/-- Half of the stake is given back in six writes; a sale of shares that the account does not have
is refused. -/
theorem provided_fails_before_writing :
    provided.Reachable ∧
      (∃ d after, provided.prepare (.trade "c" (.exitPool 50)) = .ok d ∧ d.writes.length = 6 ∧
        provided.write d.writes = (after, none) ∧
        provided.call (.trade "c" (.exitPool 50)) = .ok (after, d.receipt)) ∧
      ∃ e, provided.prepare (.trade "a" (.sell 10 (.int 0) 50)) = .error e ∧
        provided.call (.trade "a" (.sell 10 (.int 0) 50)) = .error e ∧
        e.kind = .refusal .insufficientBalance := by
  have hexit : provided.prepare (.trade "c" (.exitPool 50)) = .ok _ := rfl
  have hsale : provided.prepare (.trade "a" (.sell 10 (.int 0) 50)) = .error _ := rfl
  refine ⟨reachable_provided, ?_, ?_⟩
  · rcases calls_fail_before_writing reachable_provided (.trade "c" (.exitPool 50)) with
      ⟨_, _, hrefused, -⟩ | ⟨d, after, hprepare, hwritten, hcall⟩
    · cases hrefused.symm.trans hexit
    · obtain rfl := Except.ok.inj (hprepare.symm.trans hexit)
      exact ⟨_, after, hexit, by decide, hwritten, hcall⟩
  · rcases calls_fail_before_writing reachable_provided (.trade "a" (.sell 10 (.int 0) 50)) with
      ⟨e, r, hprepare, hcall, -, -, hkind⟩ | ⟨_, _, hprepared, -⟩
    · obtain rfl := Except.error.inj (hprepare.symm.trans hsale)
      exact ⟨_, hsale, hcall, rfl⟩
    · cases hprepared.symm.trans hsale

/-! ## A refusal that cannot be put into words -/

/-- A new pool of two outcomes. -/
def fresh : Pool where
  marketId := 0
  token := "T"
  denomination := 1
  swapFee := 0
  reserves := [0, 0]
  shares := ⟨2, .empty⟩

/-- The pool after a first deposit. -/
def deep (r : Int) : Pool :=
  { fresh with reserves := [r, r], stakes := ⟨.ofList [("a", r)], r⟩ }

/-- The first deposit can be of any size. -/
theorem addLiquidity_fresh {r : Int} (hr : 0 < r) :
    fresh.addLiquidity "a" r none = .ok (deep r, ⟨r, [0, 0]⟩) := by
  have hfunding : Curve.initialFunding r 2 none = .ok ⟨[r, r], [0, 0], r⟩ := by
    rw [Curve.initialFunding, refuseIf_bind, if_neg (not_le.2 hr)]
    rfl
  have hsplit : fresh.splitDeposit r none = .ok ⟨[r, r], [0, 0], r⟩ :=
    (mapError_eq_ok _ _ _).2 hfunding
  have hminted : FeeState.onMint ⟨0, 0⟩ 0 r = .ok (0, ⟨0, 0⟩) := by
    rw [FeeState.onMint, refuseIf_bind, if_neg (not_le.2 hr)]
    rfl
  have hissued : Stakes.mint {} "a" r = .ok ⟨.ofList [("a", 0 + r)], 0 + r⟩ := by
    rw [Stakes.mint, refuseIf_bind, if_neg (not_le.2 hr)]
    rfl
  rw [zero_add] at hissued
  rw [addLiquidity, refuseIf_bind, if_neg (not_le.2 hr), hsplit, ok_bind]
  simp only [fresh, hminted, hissued, Except.mapError, ok_bind, deep, List.zipWith, zero_add]
  rfl

/-- A sale of all but one of a deep pool takes almost the square of its depth in shares. -/
theorem sell_deep {r : Int} (hr : 1 < r) :
    (deep r).sell "a" (r - 1) (.int 0) 0 = .error (.tooManyShares 0 (r * r - 1)) := by
  have hfunded : (deep r).checkFunded (.int 0) = .ok 0 := by
    have hknown : (deep r).checkOutcome (.int 0) = .ok 0 := rfl
    have hsupply : (deep r).stakes.supply = r := rfl
    rw [checkFunded, hknown, ok_bind, refuseIf_bind, if_neg (by omega)]
    rfl
  have hquote : Curve.quoteSell [r, r] (r - 1) (0 : Nat) = .ok (r * r - 1) := by
    have hpos : ∀ reserve ∈ [r, r], 0 < reserve := by
      intro reserve hreserve
      obtain rfl := List.eq_of_mem_replicate (n := 2) hreserve
      omega
    have hbelow : ∀ reserve ∈ [r, r].eraseIdx 0, r - 1 < reserve := by simp
    obtain ⟨q, hq⟩ := Curve.exists_quoteSell hpos Nat.two_pos (sub_pos.2 hr) hbelow
    obtain ⟨-, -, -, -, hshares⟩ := Curve.quoteSell_ok hq
    have htarget : Curve.targetAfter r [r] (-(r - 1)) = r * r := by
      simp [Curve.targetAfter, Curve.ceilDiv, Amounts.product]
    refine hq.trans (congrArg _ (hshares.trans ?_))
    show r - 1 + Curve.targetAfter r [r] (-(r - 1)) - r = r * r - 1
    rw [htarget]
    omega
  have hquoted : (deep r).quoteSell (r - 1) 0 = .ok (r * r - 1) := (mapError_eq_ok _ _ _).2 hquote
  have hmany : 0 < r * r - 1 := sub_pos.2 (one_lt_mul_of_lt_of_le hr hr.le)
  rw [sell, hfunded, ok_bind, hquoted, ok_bind, refuseIf_bind, if_pos hmany]

/-- If a sale misses its limit by a quote of too many digits, this cannot be put into words. -/
theorem kind_tooManyShares {bound actual : Int} (h : Text.canWrite actual = false) :
    (PoolError.tooManyShares bound actual).kind = .badValue := by
  have hworded : (PoolError.tooManyShares bound actual).notice.isWorded = false := by
    show Value.areWritable [.int bound, .int actual] = false
    simp [Value.areWritable, Value.isWritable, h]
  rw [PoolError.kind, Notice.kind, hworded]
  rfl

/-- After a first deposit with three thousand zeros, the refusal of a sale of all but one would have
to show a number of six thousand digits. It is met as a bad value. -/
theorem deep_sale_is_bad_value :
    ∃ p r e, Pool.make 0 2 "T" 0 0 = .ok fresh ∧
      fresh.call (.trade "a" (.addLiquidity (10 ^ 3000) none)) = .ok (p, r) ∧
      p.call (.trade "a" (.sell (10 ^ 3000 - 1) (.int 0) 0)) = .error e ∧
      e.notice.meant = .refusal .slippageExceeded ∧ e.kind = .badValue := by
  have hlong : (10 : Int) ^ Text.digitLimit ≤ 10 ^ 3000 * 10 ^ 3000 - 1 := by
    rw [← pow_add]
    exact Int.le_sub_one_of_lt (pow_lt_pow_right₀ (by decide) (by decide))
  have hdeep : (1 : Int) < 10 ^ 3000 := one_lt_pow₀ (by decide) (by decide)
  generalize (10 : Int) ^ 3000 = r at *
  have hdeposit : fresh.call (.trade "a" (.addLiquidity r none)) =
      .ok (deep r, .traded (.addLiquidity r ⟨r, [0, 0]⟩)) := by
    rw [call, trade, addLiquidity_fresh (by omega)]
    rfl
  have hsale : (deep r).call (.trade "a" (.sell (r - 1) (.int 0) 0)) =
      .error (.tooManyShares 0 (r * r - 1)) := by
    rw [call, trade, sell_deep hdeep]
    rfl
  exact ⟨deep r, _, _, rfl, hdeposit, hsale, rfl, kind_tooManyShares (Text.canWrite_of_le hlong)⟩

end Pool

end PredictionMarket
