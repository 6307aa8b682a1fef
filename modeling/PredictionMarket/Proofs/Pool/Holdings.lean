import PredictionMarket.Proofs.Pool.Leaving

/-!
# The holdings of other accounts

A call of a pool writes under the account that makes it and under no other. Whatever others call,
the shares of an account, its stake and what it is remembered to have withdrawn stay. What a claim
without a stake is paid depends on the shares alone, so it does not matter when it is made.
-/

namespace PredictionMarket

/-- The account that a call is for. -/
def PoolCall.account : PoolCall → Text
  | .trade sender _ => sender
  | .payout account _ => account

namespace Pool

/-- What an account has in a pool is what it had in another. -/
structure SameHoldings (p : Pool) (account : Text) (after : Pool) : Prop where
  /-- It has as many shares of each outcome. -/
  shares : ∀ o, after.shares.balance account o = p.shares.balance account o
  /-- It has the same stake. -/
  stake : after.stakes.balance account = p.stakes.balance account
  /-- The same is remembered of its withdrawals. -/
  withdrawn : after.withdrawn.get? account = p.withdrawn.get? account

variable {p q after : Pool} {account other : Text}

/-- A pool holds what it holds. -/
theorem SameHoldings.refl (p : Pool) (account : Text) : p.SameHoldings account p :=
  ⟨fun _ => rfl, rfl, rfl⟩

/-- Holdings that are kept twice are kept. -/
theorem SameHoldings.trans (h : p.SameHoldings account q) (h' : q.SameHoldings account after) :
    p.SameHoldings account after :=
  ⟨fun o => (h'.shares o).trans (h.shares o), h'.stake.trans h.stake,
    h'.withdrawn.trans h.withdrawn⟩

/-! ## One call -/

/-- What other accounts are remembered to have withdrawn stays. -/
theorem get?_storeWithdrawn_of_ne (p : Pool) (hne : account ≠ other) (amount : Int) :
    (p.storeWithdrawn other amount).get? account = p.withdrawn.get? account := by
  have hkey : compare other account ≠ .eq := fun h =>
    hne (Std.LawfulEqCmp.eq_of_compare h).symm
  unfold storeWithdrawn
  split
  · rw [Table.get?_erase, if_pos (bne_iff_ne.2 hkey)]
  · exact Table.get?_insert_of_ne _ hne _

/-- Giving a stake back touches no holdings of others. -/
theorem Committed.sameHoldings {plan : ExitPlan} (h : p.Committed other plan after)
    (hne : account ≠ other) : p.SameHoldings account after where
  shares := (Shares.credited_addAll h.shares).balance_of_ne hne
  stake := by rw [Stakes.balance_burn h.stakes, if_neg hne, sub_zero]
  withdrawn := by
    rw [h.after_eq]
    exact p.get?_storeWithdrawn_of_ne hne plan.withdrawn

/-- Clearing the shares of an account touches no holdings of others. -/
theorem sameHoldings_clear (p : Pool) (hne : account ≠ other) :
    p.SameHoldings account { p with shares := p.shares.clear other } where
  shares := (Shares.credited_clear p.shares other).balance_of_ne hne
  stake := rfl
  withdrawn := rfl

/-- A trade touches no holdings of others. -/
theorem Traded.sameHoldings {t : Trade Int} {r : Receipt} (h : p.Traded other t after r)
    (hne : account ≠ other) : p.SameHoldings account after := by
  cases h with
  | addLiquidity _ _ _ hissued hgiven =>
    refine ⟨(Shares.credited_addAll hgiven).balance_of_ne hne, ?_, ?_⟩
    · dsimp only
      rw [Stakes.balance_mint hissued, if_neg hne, add_zero]
    · dsimp only
      split
      · rfl
      · exact Table.get?_insert_of_ne _ hne _
  | exitPool _ hcommitted => exact hcommitted.sameHoldings hne
  | buy _ _ _ _ _ _ _ hgiven => exact ⟨(Shares.credited_add hgiven).balance_of_ne hne, rfl, rfl⟩
  | sell _ _ _ _ _ _ _ htaken =>
    exact ⟨(Shares.credited_subtract htaken).balance_of_ne hne, rfl, rfl⟩
  | redeem _ _ _ htaken => exact ⟨(credited_takeSets htaken).balance_of_ne hne, rfl, rfl⟩

/-- A settlement touches no holdings of others. -/
theorem Settled.sameHoldings {numerator : Numerator} {s : Settlement}
    (h : p.Settled other numerator after s) (hne : account ≠ other) :
    p.SameHoldings account after := by
  cases h with
  | @stake _ _ left _ _ hcommitted =>
    exact (hcommitted.sameHoldings hne).trans (left.sameHoldings_clear hne)
  | shares _ => exact p.sameHoldings_clear hne

/-- A call touches no holdings of others. -/
theorem sameHoldings_call {c : PoolCall} {r : PoolReceipt} (h : p.call c = .ok (after, r))
    (hother : c.account ≠ account) : p.SameHoldings account after := by
  rcases call_ok h with ⟨_, _, _, rfl, -, htraded⟩ | ⟨_, _, _, rfl, -, hsettled⟩
  · exact htraded.sameHoldings hother.symm
  · exact hsettled.sameHoldings hother.symm

/-! ## Any number of calls -/

/-- A run of calls touches no holdings of others. -/
theorem sameHoldings_run (p : Pool) {calls : List PoolCall}
    (hothers : ∀ c ∈ calls, c.account ≠ account) : p.SameHoldings account (p.run calls).1 :=
  run_invariant_of (P := fun after _ => p.SameHoldings account after)
    (fun hother hkept hcall => hkept.trans (sameHoldings_call hcall hother)) [] (.refl p account)
    calls hothers

/-- Without a vector, a claim is refused for the same reason in every pool. -/
theorem payout_of_no_vector {numerator : Numerator} {e : PayoutError}
    (h : numerator.vector p.outcomes p.denomination = .error e) :
    p.payout account numerator =
      .error (if numerator.isResolved then .payout e else .unresolved) := by
  unfold payout
  rw [refuseIf_bind, h]
  cases numerator.isResolved <;> rfl

/-- What a claim without a stake is paid depends on the terms and the shares only. -/
theorem SameHoldings.payout_eq (hterms : p.SameTerms q) (h : p.SameHoldings account q)
    (hnone : p.stakes.balance account = 0) (numerator : Numerator) :
    (q.payout account numerator).map Prod.snd = (p.payout account numerator).map Prod.snd := by
  have hvectors : numerator.vector q.outcomes q.denomination =
      numerator.vector p.outcomes p.denomination := by
    rw [hterms.outcomes, hterms.denomination]
  have houtcomes : q.shares.outcomes = p.shares.outcomes := hterms.outcomes
  have hshares : q.shares.allOf account = p.shares.allOf account := by
    rw [Shares.allOf, Shares.allOf, houtcomes, funext h.shares]
  cases hvector : numerator.vector p.outcomes p.denomination with
  | error e =>
    rw [payout_of_no_vector hvector, payout_of_no_vector (hvectors.trans hvector)]
  | ok vector =>
    rw [payout_of_no_stake hvector hnone.le,
      payout_of_no_stake (hvectors.trans hvector) (h.stake.trans hnone).le, hshares,
      hterms.denomination]
    split <;> rfl

/-- **Calls touch the holdings of their account only**: a call leaves the shares of all other
accounts, their stakes and what they are remembered to have withdrawn. So a claim without a stake is
paid the same, or refused for the same reason, after any calls of others. -/
theorem calls_touch_own_holdings_only (p : Pool) (account : Text) :
    (∀ c after r, p.call c = .ok (after, r) → c.account ≠ account →
      p.SameHoldings account after) ∧
    (p.stakes.balance account = 0 →
      ∀ numerator calls, (∀ c ∈ calls, PoolCall.account c ≠ account) →
        ((p.run calls).1.payout account numerator).map Prod.snd =
          (p.payout account numerator).map Prod.snd) := by
  constructor
  · intro c after r hcall hother
    exact sameHoldings_call hcall hother
  · intro hnone numerator calls hothers
    have hterms := p.sameTerms_run calls
    have hkept := p.sameHoldings_run hothers
    exact hkept.payout_eq hterms hnone numerator

/-- The claim of a shareholder is paid two, also after the provider has claimed and another account
has deposited and left. -/
theorem claim_of_two_touches_no_other :
    earning.stakes.balance "b" = 0 ∧
      ((earning.run [.payout "a" (.valid [1, 0]), .trade "c" (.addLiquidity 4 none),
        .trade "c" (.exitPool 2)]).1.payout "b" (.valid [1, 0])).map Prod.snd = .ok ⟨2, 0, none⟩ ∧
      ∃ after r, earning.call (.payout "b" (.valid [1, 0])) = .ok (after, r) ∧
        earning.SameHoldings "a" after := by
  obtain ⟨-, hclaims⟩ := calls_touch_own_holdings_only earning "b"
  have hnone : earning.stakes.balance "b" = 0 := by decide
  have hfirst : (earning.payout "b" (.valid [1, 0])).map Prod.snd = .ok ⟨2, 0, none⟩ := rfl
  have hclaim : earning.call (.payout "b" (.valid [1, 0])) = .ok (_, _) := rfl
  refine ⟨hnone, (hclaims hnone _ _ (by decide)).trans hfirst, _, _, hclaim, ?_⟩
  exact (calls_touch_own_holdings_only earning "a").1 _ _ _ hclaim (by decide)

end Pool

end PredictionMarket
