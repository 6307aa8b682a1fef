import PredictionMarket.Proofs.Contract.Numbering

/-!
# Conservation

As long as a market is open, there are as many units of each of its outcomes, and the collateral
that came in and went out accounts for them to the last unit. The outbox holds exactly what the
trades of a run owe, since no payment fails and none is taken for another.
-/

namespace PredictionMarket

/-- Whether the account that makes a call, if one does, has a name that can be encoded. -/
def Call.isNamed : Call → Bool
  | .ask sender _ => !sender.hasSurrogate
  | .transfer sender _ _ _ _ => !sender.hasSurrogate
  | .acknowledge _ => true
  | .reportFailure _ _ => true

namespace Contract

/-- An account asks for something by a call of its own. -/
theorem isNamed_of_request {c : Contract} {call : Call} {sender : Text} {action : Action}
    (hrequest : c.request? call = some (sender, action)) (hnamed : call.isNamed = true) :
    sender.hasSurrogate = false := by
  cases call with
  | ask _ _ =>
    cases hrequest
    simpa [Call.isNamed] using hnamed
  | transfer asker token amount message now =>
    rcases c.request?_transfer asker token amount message now with ⟨_, -, hask⟩ | ⟨_, -, hask⟩
    · rw [hask] at hrequest
      cases hrequest
    · rw [hask] at hrequest
      cases hrequest
      simpa [Call.isNamed] using hnamed
  | acknowledge _ | reportFailure _ _ => cases hrequest

/-- A state that is settled with the accounts: its markets are accounted for, its transfers are
numbered, and what it holds for trades is what the trades among the deeds owe. -/
structure Balanced (c : Contract) (ids : List TransferId) (deeds : List Deed) : Prop where
  /-- The markets are accounted for. -/
  accounted : c.Accounted
  /-- Each key is in the outbox once. -/
  outbox : c.outbox.WellFormed
  /-- The transfers are numbered. -/
  numbered : c.Numbered ids
  /-- Trades are paid what they owe. -/
  trades : ∀ marketId, c.paidOut marketId tradeKinds =
    ((c.receipts marketId).map Receipt.paidOut).sum
  /-- The trades are those among the deeds. -/
  deeds : ∀ marketId, tradesIn deeds marketId = c.receipts marketId

/-- A new contract is settled with everyone. -/
theorem balanced_make (config : Config) (gov oracleId : Text) :
    (make config gov oracleId).Balanced [] [] where
  accounted := accounted_make config gov oracleId
  outbox := List.nodup_nil
  numbered := numbered_make config gov oracleId
  trades := fun _ => rfl
  deeds := fun _ => rfl

/-- A state with the same accounts is settled in the same way. -/
theorem Balanced.same {c after : Contract} {ids : List TransferId} {deeds : List Deed}
    (h : c.Balanced ids deeds) (hsame : c.SameAccounts after) : after.Balanced ids deeds where
  accounted := h.accounted.same (congrArg Arena.markets hsame.arena) hsame.history
  outbox := hsame.wellFormed h.outbox
  numbered := h.numbered.congr hsame.nonces hsame.dues
  trades := fun marketId => by
    rw [hsame.history.receipts, hsame.paidOut_eq]
    exact h.trades marketId
  deeds := fun marketId => by
    rw [hsame.history.receipts]
    exact h.deeds marketId

/-- What is paid for a trade is paid to the account that trades. -/
theorem Effect.receiver_eq {c : Contract} {sender : Text} {action : Action} {plan : Plan}
    (h : c.Effect sender action plan) {p : Payment} (hpayment : plan.payment = some p)
    (hkind : p.kind ∈ tradeKinds) : p.receiver = sender := by
  cases h with
  | none _ _ _ hunpaid | created _ _ _ _ _ hunpaid =>
    rw [hunpaid] at hpayment
    cases hpayment
  | revised _ _ _ _ _ _ _ _ hbond =>
    rw [hbond p hpayment] at hkind
    exact absurd hkind (by decide)
  | traded _ _ _ _ _ _ howes =>
    rw [howes, Option.map_eq_some_iff] at hpayment
    obtain ⟨_, -, rfl⟩ := hpayment
    rfl
  | claimed _ _ _ _ _ howes =>
    rw [howes] at hpayment
    cases hpayment
    rfl

/-- An action that is paid for, but not as a trade, is none. -/
theorem Effect.receipts_of_other {c : Contract} {sender : Text} {action : Action} {plan : Plan}
    (h : c.Effect sender action plan) {p : Payment} (hpayment : plan.payment = some p)
    (hkind : p.kind ∉ tradeKinds) (marketId : Int) :
    plan.after.receipts marketId = c.receipts marketId := by
  cases h with
  | none _ _ hhistory _ | created _ _ _ _ hhistory _ | revised _ _ _ _ _ _ _ hhistory _ =>
    exact hhistory.receipts marketId
  | traded _ _ _ _ _ _ howes =>
    rcases owed_of_receipt _ with ⟨howed, -⟩ | ⟨kind, htrade, howed, -⟩
    · rw [howes, howed] at hpayment
      cases hpayment
    · rw [howes, howed] at hpayment
      cases hpayment
      exact absurd htrade hkind
  | claimed _ _ _ hreceipts _ _ => exact hreceipts marketId

/-- A payment for a trade goes to the account that trades, and cannot fail. -/
theorem Planned.kind_of_failed {c after : Contract} {ids : List TransferId} {sender : Text}
    {action : Action} {plan : Plan} {p : Payment} (hplanned : c.Planned sender action plan)
    (hpayment : plan.payment = some p) (hnumbered : plan.after.Numbered ids)
    (hsender : sender.hasSurrogate = false) (hpays : plan.after.Pays p after false) :
    p.kind ∉ tradeKinds := by
  intro hkind
  have hreceiver := hplanned.effect.receiver_eq hpayment hkind
  have hsuccess := hnumbered.success hpays (by rw [hreceiver]; exact hsender)
  cases hsuccess

/-- What an action leads to, paid or not, is settled with the deeds so far together with those that
it adds. -/
theorem Balanced.plan {c after : Contract} {ids ids' : List TransferId} {deeds more : List Deed}
    {sender : Text} {action : Action} {plan : Plan}
    (h : c.Balanced ids deeds) (hplanned : c.Planned sender action plan)
    (haccounted : after.Accounted) (hhistory : plan.after.SameHistory after)
    (houtbox : after.outbox.WellFormed) (hnumbered : after.Numbered ids')
    (hpaid : ∀ marketId, after.paidOut marketId tradeKinds =
      c.paidOut marketId tradeKinds + Payment.due marketId tradeKinds plan.payment)
    (hmore : ∀ marketId,
      plan.after.receipts marketId = c.receipts marketId ++ tradesIn more marketId) :
    after.Balanced ids' (deeds ++ more) where
  accounted := haccounted
  outbox := houtbox
  numbered := hnumbered
  trades := fun marketId => by
    rw [hhistory.receipts, ← hplanned.effect.due_trades marketId, hpaid marketId, h.trades marketId]
  deeds := fun marketId => by
    rw [hhistory.receipts, hmore marketId, tradesIn_append, h.deeds marketId]

/-- The state that an action of an account leads to is settled with one more deed, if it succeeds,
and with its transfer among the others. -/
theorem Balanced.answered {c after : Contract} {ids : List TransferId} {deeds : List Deed}
    {sender : Text} {action : Action} {reply : Option Reply} (h : c.Balanced ids deeds)
    (hsender : sender.hasSurrogate = false)
    (hfree : CollisionFree (ids ++ (c.transferOf? sender action).toList))
    (hanswered : c.Answered sender action after reply) :
    after.Balanced (ids ++ (c.transferOf? sender action).toList)
      (deeds ++ (reply.map fun r => (⟨sender, action, r⟩ : Deed)).toList) := by
  have haccounted := hanswered.accounted h.accounted
  have houtbox := hanswered.wellFormed h.outbox
  cases hanswered with
  | rejected hrefusal =>
    rw [transferOf?, hrefusal]
    simpa using h
  | @free plan hplan hunpaid _ =>
    have hplanned := plan_ok hplan
    have hnumbered : plan.after.Numbered ids := h.numbered.planned hplanned
    rw [transferOf?, hplan]
    simp only [hunpaid, Option.bind_none, Option.toList_none, List.append_nil]
    refine h.plan hplanned haccounted (.of_journal rfl) houtbox hnumbered (fun marketId => ?_)
      (hplanned.effect.receipts_eq h.accounted)
    rw [hplanned.paidOut_eq, hunpaid]
    exact (add_zero _).symm
  | @halted plan _ hplan hunpaid hfailure =>
    have hplanned := plan_ok hplan
    have hhistory : c.SameHistory plan.after :=
      .of_journal ((granted_of_plan hplan).journal_of_failure hfailure)
    rw [transferOf?, hplan]
    simp only [hunpaid, Option.bind_none, Option.toList_none, List.append_nil]
    refine h.plan hplanned haccounted (.of_journal rfl) houtbox (h.numbered.planned hplanned)
      (fun marketId => ?_) fun marketId => ?_
    · rw [hplanned.paidOut_eq, hunpaid]
      exact (add_zero _).symm
    · rw [hhistory.receipts]
      exact (List.append_nil _).symm
  | @paid plan p _ hplan hpayment hpays =>
    have hplanned := plan_ok hplan
    have hnumbered : plan.after.Numbered ids := h.numbered.planned hplanned
    rw [transferOf?, hplan] at hfree ⊢
    simp only [hpayment, Option.bind_some] at hfree ⊢
    refine h.plan hplanned haccounted hpays.history houtbox (hnumbered.pays hpays)
      (fun marketId => ?_) (hplanned.effect.receipts_eq h.accounted)
    rw [hnumbered.paidOut_eq hfree hpays, hplanned.paidOut_eq, hpayment]
  | @failed plan p _ hplan hpayment hpays =>
    have hplanned := plan_ok hplan
    have hnumbered : plan.after.Numbered ids := h.numbered.planned hplanned
    have hkind := hplanned.kind_of_failed hpayment hnumbered hsender hpays
    rw [transferOf?, hplan]
    simp only [hpayment, Option.bind_some]
    refine h.plan hplanned haccounted hpays.history houtbox (hnumbered.pays hpays)
      (fun marketId => ?_) fun marketId => ?_
    · rw [hpays.paidOut_of_failed, hplanned.paidOut_eq, hpayment, Payment.due,
        if_neg fun hboth => hkind hboth.2, add_zero]
    · rw [hplanned.effect.receipts_of_other hpayment hkind]
      exact (List.append_nil _).symm

/-- The state after a call is settled with one more deed, if the call is one, and with its transfer
among the others. -/
theorem Balanced.step {c : Contract} {past : List (Contract × Call)} {call : Call}
    (h : c.Balanced (transferIdsOf past) (deedsOf past)) (hnamed : call.isNamed = true)
    (hfree : CollisionFree (transferIdsOf (past ++ [(c, call)]))) :
    (c.step call).after.Balanced (transferIdsOf (past ++ [(c, call)]))
      (deedsOf (past ++ [(c, call)])) := by
  rw [transferIdsOf_append] at hfree ⊢
  rw [deedsOf_append]
  cases hrequest : c.request? call with
  | none =>
    rw [deed?, hrequest]
    simpa using h.same (sameAccounts_step h.outbox hrequest)
  | some request =>
    obtain ⟨sender, action⟩ := request
    rw [hrequest] at hfree
    rw [deed?_of_request hrequest, after_step hrequest]
    exact h.answered (isNamed_of_request hrequest hnamed) hfree (ask_cases c sender action)

/-- Every state of a run whose accounts have names that can be encoded is settled with the deeds
that led to it, if there is no collision. -/
theorem Balanced.run {c : Contract} (h : c.Balanced [] []) {calls : List Call}
    (hnamed : ∀ call ∈ calls, call.isNamed = true) (hfree : CollisionFree (c.transferIds calls)) :
    (c.run calls).Balanced (c.transferIds calls) (c.deeds calls) :=
  run_of_collisionFree (P := fun c past => c.Balanced (transferIdsOf past) (deedsOf past))
    Balanced.step h hnamed hfree

/-- The complete sets of a market are conserved by what the deeds say: what the reserve and all
accounts have of an outcome is the same for all outcomes, and what came in for the market and what
the outbox holds for its trades differ by these sets and by the fees that are left. -/
def SetsConserved (c : Contract) (deeds : List Deed) (m : Market) : Prop :=
  ∃ complete,
    (∀ o < m.pool.outcomes, ∃ reserve, m.pool.reserves[o]? = some reserve ∧
      reserve + ∑ᶠ account, m.pool.shares.balance account o = complete) ∧
    ((tradesIn deeds m.id).map Receipt.paidIn).sum -
        c.paidOut m.id [.exitPool, .sell, .redeem] =
      complete + ((tradesIn deeds m.id).map Receipt.collected).sum -
        ((tradesIn deeds m.id).map Receipt.feesPaid).sum

/-- **Conservation**: in every state that a contract reaches by calls of accounts whose names can be
encoded, if there is no collision, the complete sets of an open market are conserved. -/
theorem sets_conserved_after_run (config : Config) (gov oracleId : Text) {calls : List Call}
    (hnamed : ∀ call ∈ calls, call.isNamed = true)
    (hfree : CollisionFree ((make config gov oracleId).transferIds calls)) {m : Market}
    (hm : m ∈ ((make config gov oracleId).run calls).arena.markets) (hopen : m.finalized = false) :
    ((make config gov oracleId).run calls).SetsConserved
      ((make config gov oracleId).deeds calls) m := by
  have hbalanced := (balanced_make config gov oracleId).run hnamed hfree
  have hmarket := hbalanced.accounted.markets m hm
  have hpaidOut := hbalanced.trades m.id
  unfold SetsConserved
  rw [hbalanced.deeds]
  refine ⟨((((make config gov oracleId).run calls).receipts m.id).map Receipt.issued).sum,
    fun o ho => ?_, ?_⟩
  · have hlength : o < m.pool.reserves.length := by rwa [hmarket.wellFormed.reserves_length]
    have hunits := (hmarket.of_open hopen).2 o ho
    rw [Pool.units, List.getD_eq_getElem _ _ hlength, Shares.supply_eq_finsum] at hunits
    exact ⟨_, List.getElem?_eq_getElem hlength, hunits⟩
  · exact hpaidOut ▸ Market.sum_paidIn_sub_paidOut _

/-- Calls that create a market, bring liquidity in, and buy and sell in it. -/
def saleCalls : List Call :=
  [.ask "a" (.createMarket
      { outcomes := 2, tags := [.label "yes", .label "no"], endTime := 10, resolutionTime := 20,
        collateral := "T", swapFee := 100 } (.int 0) 0),
    .ask "a" (.trade (.int 0) (.addLiquidity (.int 100) none) 1),
    .ask "b" (.trade (.int 0) (.buy (.int 50) (.int 0) (.int 0)) 2),
    .ask "b" (.trade (.int 0) (.sell (.int 20) (.int 0) (.int 100)) 3)]

/-- After these calls, of which the sale is paid for, the complete sets are conserved. -/
theorem sets_conserved_after_sale :
    ∃ config, (∀ call ∈ saleCalls, call.isNamed = true) ∧
      CollisionFree ((make config "g" "o").transferIds saleCalls) ∧
      ((make config "g" "o").run saleCalls).paidOut 0 tradeKinds = 19 ∧
      ∃ m ∈ ((make config "g" "o").run saleCalls).arena.markets, m.finalized = false ∧
        ((make config "g" "o").run saleCalls).SetsConserved
          ((make config "g" "o").deeds saleCalls) m := by
  let config : Config :=
    { whitelist := Table.ofList [("T", 0)], validityBond := 0, maxSwapFee := 100 }
  have hnamed : ∀ call ∈ saleCalls, call.isNamed = true := by decide
  have hids : (make config "g" "o").transferIds saleCalls = [⟨some 0, "b", "sell", 1⟩] := by
    decide +kernel
  have hfree : CollisionFree ((make config "g" "o").transferIds saleCalls) :=
    hids ▸ collisionFree_singleton _
  have hfinal : ((make config "g" "o").run saleCalls).arena.markets.map Market.finalized =
      [false] := by
    decide +kernel
  obtain ⟨m, hm, hopen⟩ := List.mem_map.1 (hfinal ▸ List.mem_singleton_self false)
  exact ⟨config, hnamed, hfree, by decide +kernel, m, hm, hopen,
    sets_conserved_after_run config "g" "o" hnamed hfree hm hopen⟩

end Contract

end PredictionMarket
