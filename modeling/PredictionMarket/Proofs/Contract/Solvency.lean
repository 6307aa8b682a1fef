import PredictionMarket.Proofs.Contract.Payments

/-!
# Solvency

Whatever the calls of a run, what the outbox holds for a market is at most the collateral that came
in for it, while trading goes on and through all claims. The outbox holds no more than the journal
tells of, and what comes in by the deeds of the run is what the journal tells of.
-/

namespace PredictionMarket

namespace Contract

/-- An action brings into a market what it brings in as a deed. -/
theorem Effect.paidIn_eq {c : Contract} {sender : Text} {action : Action} {plan : Plan}
    (h : c.Effect sender action plan) (hc : c.Accounted) (marketId : Int) :
    ((plan.after.receipts marketId).map Receipt.paidIn).sum =
      ((c.receipts marketId).map Receipt.paidIn).sum +
        ((tradesIn [⟨sender, action, plan.reply⟩] marketId).map Receipt.paidIn).sum := by
  rw [h.receipts_eq hc, List.map_append, List.sum_append]

/-- An action that is paid for brings nothing in. -/
theorem Effect.paidIn_of_payment {c : Contract} {sender : Text} {action : Action} {plan : Plan}
    (h : c.Effect sender action plan) {p : Payment} (hpayment : plan.payment = some p)
    (marketId : Int) :
    ((plan.after.receipts marketId).map Receipt.paidIn).sum =
      ((c.receipts marketId).map Receipt.paidIn).sum := by
  cases h with
  | none _ _ hhistory _ | created _ _ _ _ hhistory _ | revised _ _ _ _ _ _ _ hhistory _ =>
    rw [hhistory.receipts]
  | traded _ _ _ _ hreceipts _ howes =>
    rw [hreceipts, List.map_append, List.sum_append]
    rcases owed_of_receipt _ with ⟨howed, -⟩ | ⟨_, -, -, hzero⟩
    · rw [howes, howed] at hpayment
      cases hpayment
    · split <;> simp [hzero]
  | claimed _ _ _ hreceipts _ _ => rw [hreceipts]

/-- A state whose outbox is covered by the deeds that led to it: its markets are accounted for, what
it holds for trades and claims is at most what these owe, and the deeds brought in what the trades
did. -/
structure Covered (c : Contract) (deeds : List Deed) : Prop where
  /-- The markets are accounted for. -/
  accounted : c.Accounted
  /-- Each key is in the outbox once. -/
  outbox : c.outbox.WellFormed
  /-- Trades are paid no more than they owe. -/
  trades : ∀ marketId, c.paidOut marketId tradeKinds ≤
    ((c.receipts marketId).map Receipt.paidOut).sum
  /-- Claims are paid no more than they come to. -/
  claims : ∀ marketId, c.paidOut marketId [.claim] ≤
    ((c.settlements marketId).map Settlement.total).sum
  /-- What came in by deeds is what came in by the trades. -/
  paidIn : ∀ marketId, ((tradesIn deeds marketId).map Receipt.paidIn).sum =
    ((c.receipts marketId).map Receipt.paidIn).sum

/-- Nothing is due in a new contract. -/
theorem covered_make (config : Config) (gov oracleId : Text) :
    (make config gov oracleId).Covered [] where
  accounted := accounted_make config gov oracleId
  outbox := List.nodup_nil
  trades := fun _ => le_rfl
  claims := fun _ => le_rfl
  paidIn := fun _ => rfl

/-- A state with the same accounts is covered by the same deeds. -/
theorem Covered.same {c after : Contract} {deeds : List Deed} (h : c.Covered deeds)
    (hsame : c.SameAccounts after) : after.Covered deeds where
  accounted := h.accounted.same (congrArg Arena.markets hsame.arena) hsame.history
  outbox := hsame.wellFormed h.outbox
  trades := fun marketId => by
    rw [hsame.history.receipts, hsame.paidOut_eq]
    exact h.trades marketId
  claims := fun marketId => by
    rw [hsame.history.settlements, hsame.paidOut_eq]
    exact h.claims marketId
  paidIn := fun marketId => by
    rw [hsame.history.receipts]
    exact h.paidIn marketId

/-- What an action leads to, paid or not, is covered by the deeds so far together with what it
brings in. -/
theorem Covered.plan {c after : Contract} {deeds more : List Deed} {sender : Text}
    {action : Action} {plan : Plan} (h : c.Covered deeds) (hplanned : c.Planned sender action plan)
    (haccounted : after.Accounted) (hhistory : plan.after.SameHistory after)
    (houtbox : after.outbox.WellFormed)
    (hpaid : ∀ marketId kinds, after.paidOut marketId kinds ≤
      c.paidOut marketId kinds + Payment.due marketId kinds plan.payment)
    (hmore : ∀ marketId, ((plan.after.receipts marketId).map Receipt.paidIn).sum =
      ((c.receipts marketId).map Receipt.paidIn).sum +
        ((tradesIn more marketId).map Receipt.paidIn).sum) : after.Covered (deeds ++ more) where
  accounted := haccounted
  outbox := houtbox
  trades := fun marketId => by
    rw [hhistory.receipts, ← hplanned.effect.due_trades marketId]
    exact (hpaid marketId tradeKinds).trans (add_le_add_left (h.trades marketId) _)
  claims := fun marketId => by
    rw [hhistory.settlements, ← hplanned.effect.due_claims h.accounted marketId]
    exact (hpaid marketId [.claim]).trans (add_le_add_left (h.claims marketId) _)
  paidIn := fun marketId => by
    rw [hhistory.receipts, hmore marketId, tradesIn_append, List.map_append, List.sum_append,
      h.paidIn marketId]

/-- The state that an action leads to is covered by one more deed, if it succeeds. -/
theorem Covered.answered {c after : Contract} {deeds : List Deed} {sender : Text}
    {action : Action} {reply : Option Reply} (h : c.Covered deeds)
    (hanswered : c.Answered sender action after reply) :
    after.Covered (deeds ++ (reply.map fun r => (⟨sender, action, r⟩ : Deed)).toList) := by
  have haccounted := hanswered.accounted h.accounted
  have houtbox := hanswered.wellFormed h.outbox
  cases hanswered with
  | rejected _ => simpa using h
  | @free plan hplan hunpaid =>
    have hplanned := plan_ok hplan
    refine h.plan hplanned haccounted (.of_journal rfl) houtbox (fun marketId kinds => ?_)
      (hplanned.effect.paidIn_eq h.accounted)
    rw [hplanned.paidOut_eq, hunpaid]
    exact (add_zero _).ge
  | @halted plan _ hplan hunpaid hfailure =>
    have hplanned := plan_ok hplan
    have hhistory : c.SameHistory plan.after :=
      .of_journal ((granted_of_plan hplan).journal_of_failure hfailure)
    refine h.plan hplanned haccounted (.of_journal rfl) houtbox (fun marketId kinds => ?_)
      fun marketId => ?_
    · rw [hplanned.paidOut_eq, hunpaid]
      exact (add_zero _).ge
    · rw [hhistory.receipts]
      exact (add_zero _).symm
  | @paid plan p _ hplan hpayment hpays =>
    have hplanned := plan_ok hplan
    refine h.plan hplanned haccounted hpays.history houtbox (fun marketId kinds => ?_)
      (hplanned.effect.paidIn_eq h.accounted)
    rw [← hplanned.paidOut_eq, hpayment]
    exact hpays.paidOut_le marketId kinds
  | @failed plan p _ hplan hpayment hpays =>
    have hplanned := plan_ok hplan
    refine h.plan hplanned haccounted hpays.history houtbox (fun marketId kinds => ?_)
      fun marketId => ?_
    · rw [← hplanned.paidOut_eq, hpayment]
      exact hpays.paidOut_le marketId kinds
    · rw [hplanned.effect.paidIn_of_payment hpayment marketId]
      exact (add_zero _).symm

/-- The state after a call is covered by one more deed, if the call is one. -/
theorem Covered.step {c : Contract} {deeds : List Deed} (h : c.Covered deeds) (call : Call) :
    (c.step call).after.Covered (deeds ++ (c.deed? call).toList) := by
  cases hrequest : c.request? call with
  | none =>
    rw [deed?, hrequest]
    simpa using h.same (sameAccounts_step h.outbox hrequest)
  | some request =>
    obtain ⟨sender, action⟩ := request
    rw [deed?_of_request hrequest, after_step hrequest]
    exact h.answered (ask_cases c sender action)

/-- Every state of a run is covered by the deeds that led to it. -/
theorem Covered.run {c : Contract} (h : c.Covered []) (calls : List Call) :
    (c.run calls).Covered (c.deeds calls) := by
  refine run_invariant (P := fun c past => c.Covered (deedsOf past)) (fun {c past call} hc => ?_)
    [] h calls
  rw [deedsOf_append]
  exact hc.step call

/-- **Solvency**: in every state that a contract reaches, what the outbox holds for a market, paid
for stakes, sales, complete sets and claims, is at most the collateral that came in for it. -/
theorem paidOut_le_paidIn_after_run (config : Config) (gov oracleId : Text) (calls : List Call)
    (marketId : Int) :
    ((make config gov oracleId).run calls).paidOut marketId [.exitPool, .sell, .redeem, .claim] ≤
      ((tradesIn ((make config gov oracleId).deeds calls) marketId).map Receipt.paidIn).sum := by
  have hcovered := (covered_make config gov oracleId).run calls
  have hsplit := paidOut_trades_claims ((make config gov oracleId).run calls) marketId
  have htrades := hcovered.trades marketId
  have hclaims := hcovered.claims marketId
  have howed := hcovered.accounted.owed_le marketId
  rw [hcovered.paidIn]
  exact hsplit.le.trans (by omega)

end Contract

end PredictionMarket
