import PredictionMarket.Proofs.Contract.Moves

/-!
# Failed calls

A call is planned in full on the state that it finds, and a call that cannot be planned changes
nothing. Once a plan is stored, it can fail in two ways only. Its payment fails, exactly if the name
of the receiver has no encoding; then what was stored stays, and the number of the payment is used
up, but nothing is due to the receiver. Or it resolves a market by an answer that cannot be shown;
then the market is final, but nothing tells of it, and the bond is not returned.
-/

namespace PredictionMarket

/-- The next number of an account is not in use before. -/
theorem Nonces.next_ne {t after : Nonces} {account : Text} {nonce : Int}
    (h : t.next account = .ok (nonce, after)) : after ≠ t := by
  obtain ⟨last, hlast, hsucc, hafter⟩ := next_ok h
  rintro rfl
  have hnonce := hafter account
  rw [if_pos rfl, hlast, Except.ok.injEq] at hnonce
  omega

namespace Contract

/-! ## Calls that fail -/

/-- The payment that a call leads to, if what it asks for can be planned. -/
def payment? (c : Contract) (call : Call) : Option Payment :=
  (c.request? call).bind fun (sender, action) => (c.plan sender action).toOption.bind Plan.payment

/-- The answer that a call resolves a market by, if it cannot be shown. -/
def mute? (c : Contract) (call : Call) : Option Answer :=
  (c.request? call).bind fun (sender, action) =>
    (c.plan sender action).toOption.bind fun _ => action.mute?

/-- The answer of a call is that of the action, if this can be planned. -/
theorem mute?_of_request {c : Contract} {call : Call} {sender : Text} {action : Action}
    (hrequest : c.request? call = some (sender, action)) :
    c.mute? call = (c.plan sender action).toOption.bind fun _ => action.mute? := by
  rw [mute?, hrequest]
  rfl

/-- A call whose action can be planned gives the answer that the action gives. -/
theorem mute?_of_planned {c : Contract} {call : Call} {sender : Text} {action : Action}
    {plan : Plan}
    (hrequest : c.request? call = some (sender, action))
    (hplan : c.plan sender action = .ok plan) : c.mute? call = action.mute? := by
  rw [mute?_of_request hrequest, hplan]
  rfl

/-- What is planned without a payment, and not to fail, if it is planned, changes nothing when it
fails. -/
theorem after_perform_of_failed {c : Contract} {planned : Except ContractError Plan}
    (hlasting : ∀ plan, planned = .ok plan → plan.payment = none ∧ plan.failure = none)
    {e : ContractError} (hfailed : (c.perform planned).result = .error e) :
    (c.perform planned).after = c := by
  cases planned with
  | error _ => rfl
  | ok plan =>
    obtain ⟨hunpaid, hlasts⟩ := hlasting plan rfl
    simp only [perform, carryOut, hunpaid, hlasts] at hfailed
    cases hfailed

/-- A call that asks for no action and fails changes nothing. -/
theorem after_step_of_failed {c : Contract} {call : Call} (hrequest : c.request? call = none)
    {e : ContractError} (hfailed : (c.step call).result = .error e) : (c.step call).after = c := by
  cases call with
  | ask _ _ => cases hrequest
  | transfer sender token amount message now =>
    rcases c.request?_transfer sender token amount message now with
      ⟨_, hroute, -⟩ | ⟨_, -, hask⟩
    · simp only [step, transfer, hroute, follow, Outcome.after_logRejection]
    · rw [hask] at hrequest
      cases hrequest
  | acknowledge key =>
    rw [step, Outcome.result_logRejection] at hfailed
    rw [step, Outcome.after_logRejection]
    refine after_perform_of_failed (fun plan hplan => ?_) hfailed
    simp only [Contract.acknowledge, bind_eq_ok, pure, Except.pure, Except.ok.injEq] at hplan
    obtain ⟨_, -, rfl⟩ := hplan
    exact ⟨rfl, rfl⟩
  | reportFailure key reason =>
    rw [step, Outcome.result_logRejection] at hfailed
    rw [step, Outcome.after_logRejection]
    refine after_perform_of_failed (fun plan hplan => ?_) hfailed
    simp only [Contract.reportFailure, bind_eq_ok, pure, Except.pure, Except.ok.injEq] at hplan
    obtain ⟨_, -, rfl⟩ := hplan
    exact ⟨rfl, rfl⟩

/-- A call fails if the action that it asks for fails. -/
theorem ask_failed_of_step {c : Contract} {call : Call} {sender : Text} {action : Action}
    (hrequest : c.request? call = some (sender, action)) {e : ContractError}
    (hfailed : (c.step call).result = .error e) : (c.ask sender action).result = .error e := by
  cases call with
  | ask _ _ =>
    cases hrequest
    exact hfailed
  | transfer asker token amount message now =>
    rcases c.request?_transfer asker token amount message now with
      ⟨_, -, hask⟩ | ⟨r, hroute, hask⟩
    · rw [hask] at hrequest
      cases hrequest
    · rw [hask] at hrequest
      cases hrequest
      simp only [step, transfer, hroute, follow, Outcome.result_logRejection] at hfailed
      cases hresult : (c.ask sender r.action).result with
      | error _ =>
        rw [hresult] at hfailed
        exact hfailed
      | ok _ =>
        rw [hresult] at hfailed
        cases hfailed
  | acknowledge _ | reportFailure _ _ => cases hrequest

/-- An answer that cannot be shown leaves the market final. -/
theorem Granted.after_ne_of_failure {c : Contract} {sender : Text} {action : Action} {plan : Plan}
    (h : c.Granted sender action plan) (hc : c.Accounted) {e : ContractError}
    (hfailure : plan.failure = some e) : plan.after ≠ c := by
  cases h with
  | @muteAnswer _ _ _ after _ _ _ _ _ _ _ hfound hrecord hfinalize =>
    obtain ⟨hopen, hfinal, -, hid⟩ := answered_market hrecord hfinalize
    intro hsame
    replace hsame : c.store after = c := hsame
    have hplace := getElem?_store (hid.trans (hc.numbered _ _ hfound)) hfound
    rw [if_pos rfl, hsame, hfound] at hplace
    cases hplace
    rw [hopen] at hfinal
    cases hfinal
  | _ => cases hfailure

/-- **Atomicity**: a call that fails leaves everything as it was, except for a call that leads to a
payment to an account whose name cannot be encoded, and for one that resolves a market by an answer
that cannot be shown. Both always leave a trace. -/
theorem failure_leaves_no_trace_iff {c : Contract} (hc : c.Reachable) {call : Call}
    {e : ContractError} (hfailed : (c.step call).result = .error e) :
    (c.step call).after = c ↔
      (∀ p, c.payment? call = some p → p.receiver.hasSurrogate = false) ∧ c.mute? call = none := by
  cases hrequest : c.request? call with
  | none =>
    refine iff_of_true (after_step_of_failed hrequest hfailed) ⟨fun p hp => ?_, ?_⟩
    · rw [payment?, hrequest] at hp
      cases hp
    · rw [mute?, hrequest, Option.bind_none]
  | some request =>
    obtain ⟨sender, action⟩ := request
    obtain ⟨ids, hnumbered⟩ := hc.numbered
    have hanswered := ask_cases c sender action
    rw [ask_failed_of_step hrequest hfailed] at hanswered
    have hpayment : c.payment? call = (c.plan sender action).toOption.bind Plan.payment := by
      rw [payment?, hrequest]
      rfl
    rw [after_step hrequest, hpayment]
    generalize (c.ask sender action).after = after at hanswered
    cases hanswered with
    | rejected hrefusal =>
      rw [mute?_of_request hrequest, hrefusal]
      refine iff_of_true rfl ⟨fun p hp => ?_, rfl⟩
      cases hp
    | halted hplan _ hfailure =>
      have hgranted := granted_of_plan hplan
      refine iff_of_false (hgranted.after_ne_of_failure hc.accounted hfailure) ?_
      rintro ⟨-, hshown⟩
      rw [hgranted.failure, ← mute?_of_planned hrequest hplan, hshown] at hfailure
      cases hfailure
    | failed hplan howes hpays =>
      have hplanned := plan_ok hplan
      obtain ⟨hreceiver, _, _, hnext, rfl⟩ := (hnumbered.planned hplanned).failed hpays
      rw [hplanned.nonces] at hnext
      rw [hplan]
      -- Whatever else was stored, the number of the payment is.
      refine iff_of_false (fun hsame => Nonces.next_ne hnext (congrArg Contract.nonces hsame)) ?_
      rintro ⟨hnamed, -⟩
      rw [hnamed _ howes] at hreceiver
      cases hreceiver

/-- An account whose name is a single surrogate, which has no encoding. -/
def unnamed : Text :=
  [0xD800]

/-- An account with a name creates a market and brings liquidity in, and one without buys. -/
def unnamedCalls : List Call :=
  [.ask "a" (.createMarket
      { outcomes := 2, tags := [.label "yes", .label "no"], endTime := 10, resolutionTime := 20,
        collateral := "T", swapFee := 100 } (.int 0) 0),
    .ask "a" (.trade (.int 0) (.addLiquidity (.int 100) none) 1),
    .ask unnamed (.trade (.int 0) (.buy (.int 50) (.int 0) (.int 0)) 2)]

/-- The state that these calls lead to. -/
def unnamedBuyer : Contract :=
  (make { whitelist := Table.ofList [("T", 0)], validityBond := 0, maxSwapFee := 100 } "g" "o").run
    unnamedCalls

/-- The sale of shares for twenty. -/
def saleBy (account : Text) : Call :=
  .ask account (.trade (.int 0) (.sell (.int 20) (.int 0) (.int 100)) 3)

/-- An account without shares cannot sell, and nothing changes. -/
theorem no_trace_of_short_sale :
    ∃ e, unnamedBuyer.Reachable ∧ (unnamedBuyer.step (saleBy "b")).result = .error e ∧
      ((unnamedBuyer.step (saleBy "b")).after = unnamedBuyer ↔
        (∀ p, unnamedBuyer.payment? (saleBy "b") = some p → p.receiver.hasSurrogate = false) ∧
          unnamedBuyer.mute? (saleBy "b") = none) := by
  have hreachable : unnamedBuyer.Reachable := ⟨_, "g", "o", unnamedCalls, rfl⟩
  obtain ⟨e, hfailed⟩ := exists_eq_error (x := (unnamedBuyer.step (saleBy "b")).result)
    (by decide +kernel)
  exact ⟨e, hreachable, hfailed, failure_leaves_no_trace_iff hreachable hfailed⟩

/-- The sale of the account without a name fails, but of its eighty-one shares only fifty are left,
and nothing is due to it. -/
theorem failed_sale_leaves_trace :
    ∃ e, unnamedBuyer.Reachable ∧ (unnamedBuyer.step (saleBy unnamed)).result = .error e ∧
      (unnamedBuyer.step (saleBy unnamed)).after.outbox.transfers.length = 0 ∧
      unnamedBuyer.arena.markets.map (fun m => m.pool.shares.balance unnamed 0) = [81] ∧
      (unnamedBuyer.step (saleBy unnamed)).after.arena.markets.map
        (fun m => m.pool.shares.balance unnamed 0) = [50] ∧
      (unnamedBuyer.step (saleBy unnamed)).after ≠ unnamedBuyer := by
  have hreachable : unnamedBuyer.Reachable := ⟨_, "g", "o", unnamedCalls, rfl⟩
  obtain ⟨e, hfailed⟩ := exists_eq_error (x := (unnamedBuyer.step (saleBy unnamed)).result)
    (by decide +kernel)
  refine ⟨e, hreachable, hfailed, by decide +kernel, by decide +kernel, by decide +kernel,
    fun hsame => ?_⟩
  have hjournal := congrArg (fun c => c.journal.length) hsame
  revert hjournal
  decide +kernel

end Contract

end PredictionMarket
