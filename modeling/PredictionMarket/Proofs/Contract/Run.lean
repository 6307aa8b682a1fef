import PredictionMarket.Proofs.Contract.Effect
import PredictionMarket.Proofs.Outbox

/-!
# Runs of a contract

A call of a contract asks for an action, by itself or by way of a transfer, or reports on a transfer
out of it. An action that is asked for is turned down, or planned; a plan is carried out in full, or
fails at its end, for its payment or for an answer that cannot be shown, and the rest stays. What
came of the successful ones are the deeds of a run, in order. A property of a contract and of what
happened so far holds after every run if it holds at first and survives one call.
-/

namespace PredictionMarket

/-- The identity of the transfer by which a payment is made, under a nonce. -/
def Payment.transferId (p : Payment) (nonce : Int) : TransferId :=
  ⟨some p.marketId, p.receiver, p.kind.operation, nonce⟩

/-- An action that an account asked for with success. -/
structure Deed where
  /-- The account. -/
  sender : Text
  /-- What it asked for. -/
  action : Action
  /-- What it was told. -/
  reply : Reply

/-- The receipt of a deed, if it is a trade in a market. -/
def Deed.receipt? (marketId : Int) : Deed → Option Receipt
  | ⟨_, .trade (.int n) _ _, .traded r⟩ => if n = marketId then some r else none
  | _ => none

namespace Outcome

/-- Logging a rejection changes no state. -/
@[simp] theorem after_logRejection (o : Outcome) (operation : String) :
    (o.logRejection operation).after = o.after := by
  unfold logRejection
  split <;> rfl

/-- Logging a rejection changes no result. -/
@[simp] theorem result_logRejection (o : Outcome) (operation : String) :
    (o.logRejection operation).result = o.result := by
  unfold logRejection
  split
  · rfl
  · next h => exact h.symm ▸ rfl

end Outcome

namespace Contract

/-! ## Payments -/

/-- A contract, a payment, and what comes of it: the state afterwards, and whether it succeeds. -/
inductive Pays (c : Contract) (p : Payment) : Contract → Bool → Prop
  /-- An amount that is not positive is not paid. -/
  | nothing (small : p.amount ≤ 0) : Pays c p c true
  /-- The receiver's transfers cannot be numbered on. -/
  | unnumbered {e : NonceError} (positive : 0 < p.amount)
      (stored : c.nonces.next p.receiver = .error e) : Pays c p c false
  /-- The outbox refuses the transfer, whose nonce is used up. -/
  | refused {nonce : Int} {nonces : Nonces} {e : OutboxError} (positive : 0 < p.amount)
      (next : c.nonces.next p.receiver = .ok (nonce, nonces))
      (refusal : c.outbox.enqueueCounted (p.transferId nonce) p.token (.int p.amount) = .error e) :
      Pays c p { c with nonces } false
  /-- The transfer is put into the outbox. -/
  | queued {nonce : Int} {nonces : Nonces} {t : Transfer} {outbox : Outbox}
      (positive : 0 < p.amount) (next : c.nonces.next p.receiver = .ok (nonce, nonces))
      (enqueued : c.outbox.enqueueCounted (p.transferId nonce) p.token (.int p.amount) =
        .ok (t, outbox)) :
      Pays c p
        ({ c with nonces, outbox }.record (some p.marketId)
          (.transferQueued t.key p.receiver p.token p.amount p.kind.operation)) true

/-- Whether a computation succeeded. -/
def succeeded {ε α : Type} : Except ε α → Bool
  | .ok _ => true
  | .error _ => false

/-- Putting a payment into the outbox and telling the journal of it. -/
theorem enqueue_eq (c : Contract) (p : Payment) (nonce : Int) :
    c.enqueue p nonce =
      ((c.outbox.enqueueCounted (p.transferId nonce) p.token (.int p.amount)).mapError .outbox >>=
        fun (t, outbox) => .ok ({ c with outbox }.record (some p.marketId)
          (.transferQueued t.key p.receiver p.token p.amount p.kind.operation))) :=
  rfl

/-- A payment is one of the four. -/
theorem pay_cases (c : Contract) (p : Payment) : c.Pays p (c.pay p).1 (succeeded (c.pay p).2) := by
  unfold pay
  by_cases hsmall : p.amount ≤ 0
  · rw [if_pos hsmall]
    exact .nothing hsmall
  · rw [if_neg hsmall]
    have hpositive : 0 < p.amount := not_le.1 hsmall
    cases hnext : c.nonces.next p.receiver with
    | error e => exact .unnumbered hpositive hnext
    | ok numbered =>
      obtain ⟨nonce, nonces⟩ := numbered
      dsimp only
      cases henqueue : c.outbox.enqueueCounted (p.transferId nonce) p.token (.int p.amount) with
      | error e =>
        simp only [enqueue_eq, henqueue]
        exact .refused hpositive hnext henqueue
      | ok queued =>
        obtain ⟨t, outbox⟩ := queued
        simp only [enqueue_eq, henqueue]
        exact .queued hpositive hnext henqueue

/-- A transfer that is not put into the outbox is refused by it. -/
theorem enqueue_error {c : Contract} {p : Payment} {nonce : Int} {e : ContractError}
    (h : c.enqueue p nonce = .error e) : ∃ cause, e = .outbox cause := by
  rw [enqueue_eq] at h
  cases hput : c.outbox.enqueueCounted (p.transferId nonce) p.token (.int p.amount) with
  | error cause =>
    rw [hput] at h
    cases h
    exact ⟨cause, rfl⟩
  | ok _ =>
    rw [hput] at h
    cases h

/-- A payment fails because it cannot be numbered, or because the outbox refuses it. -/
theorem pay_error {c : Contract} {p : Payment} {e : ContractError} (h : (c.pay p).2 = .error e) :
    (∃ cause, e = .nonce cause) ∨ ∃ cause, e = .outbox cause := by
  unfold pay at h
  by_cases hsmall : p.amount ≤ 0
  · rw [if_pos hsmall] at h
    cases h
  · rw [if_neg hsmall] at h
    cases hnext : c.nonces.next p.receiver with
    | error cause =>
      rw [hnext] at h
      cases h
      exact .inl ⟨cause, rfl⟩
    | ok numbered =>
      obtain ⟨nonce, nonces⟩ := numbered
      rw [hnext] at h
      dsimp only at h
      cases hput : Contract.enqueue { c with nonces } p nonce with
      | error _ =>
        rw [hput] at h
        cases h
        exact .inr (enqueue_error hput)
      | ok _ =>
        rw [hput] at h
        cases h

/-- A payment changes no market. -/
theorem Pays.arena {c after : Contract} {p : Payment} {success : Bool}
    (h : c.Pays p after success) : after.arena = c.arena := by
  cases h <;> rfl

/-- A payment is neither a trade nor a claim. -/
theorem Pays.history {c after : Contract} {p : Payment} {success : Bool}
    (h : c.Pays p after success) : c.SameHistory after := by
  cases h with
  | nothing | unnumbered | refused => exact .of_journal rfl
  | @queued nonce nonces t outbox =>
    have hsame : c.SameHistory { c with nonces, outbox } := .of_journal rfl
    exact hsame.record _ rfl

/-! ## Actions -/

/-- A contract, an action of an account, and what comes of it: the state afterwards, and what the
account is told if the action succeeds. -/
inductive Answered (c : Contract) (sender : Text) (action : Action) :
    Contract → Option Reply → Prop
  /-- The action is turned down, and nothing changes. -/
  | rejected {e : ContractError} (refusal : c.plan sender action = .error e) :
      Answered c sender action c none
  /-- The plan is carried out, and there is nothing to pay. -/
  | free {plan : Plan} (planned : c.plan sender action = .ok plan) (unpaid : plan.payment = none)
      (lasting : plan.failure = none) : Answered c sender action plan.after (some plan.reply)
  /-- The plan is carried out, and then it is to fail. -/
  | halted {plan : Plan} {e : ContractError} (planned : c.plan sender action = .ok plan)
      (unpaid : plan.payment = none) (failure : plan.failure = some e) :
      Answered c sender action plan.after none
  /-- The plan is carried out, and the payment is made. -/
  | paid {plan : Plan} {p : Payment} {after : Contract} (planned : c.plan sender action = .ok plan)
      (payment : plan.payment = some p) (pays : plan.after.Pays p after true) :
      Answered c sender action after (some plan.reply)
  /-- The payment fails, and what was stored before it stays. -/
  | failed {plan : Plan} {p : Payment} {after : Contract}
      (planned : c.plan sender action = .ok plan) (payment : plan.payment = some p)
      (pays : plan.after.Pays p after false) :
      Answered c sender action after none

/-- An action that cannot be planned fails, and leaves everything as it is. -/
theorem ask_of_refused {c : Contract} {sender : Text} {action : Action} {e : ContractError}
    (h : c.plan sender action = .error e) :
    (c.ask sender action).result = .error e ∧ (c.ask sender action).after = c := by
  rw [ask, h, Outcome.result_logRejection, Outcome.after_logRejection]
  exact ⟨rfl, rfl⟩

/-- An action that can be planned leads to the state of its plan, if it is to fail then or there is
nothing to pay; it succeeds in the second case only. Otherwise the payment decides where it leads
and whether it succeeds. -/
theorem ask_of_planned {c : Contract} {sender : Text} {action : Action} {plan : Plan}
    (h : c.plan sender action = .ok plan) :
    (∃ e, plan.failure = some e ∧ plan.payment = none ∧
      (c.ask sender action).after = plan.after ∧ (c.ask sender action).result = .error e) ∨
    (plan.failure = none ∧ plan.payment = none ∧ (c.ask sender action).after = plan.after ∧
      (c.ask sender action).result = .ok plan.reply) ∨
    ∃ p, plan.failure = none ∧ plan.payment = some p ∧
      (c.ask sender action).after = (plan.after.pay p).1 ∧
      (c.ask sender action).result = (plan.after.pay p).2.map fun _ => plan.reply := by
  have hunpaid := fun e => (granted_of_plan h).payment_of_failure (e := e)
  rw [ask, h, Outcome.after_logRejection, Outcome.result_logRejection]
  simp only [perform, carryOut]
  cases hfailure : plan.failure with
  | some e => exact .inl ⟨e, rfl, hunpaid e hfailure, rfl, rfl⟩
  | none =>
    cases plan.payment with
    | none => exact .inr (.inl ⟨rfl, rfl, rfl, rfl⟩)
    | some p =>
      refine .inr (.inr ⟨p, rfl, rfl, ?_⟩)
      dsimp only
      cases plan.after.pay p with
      | mk after result => cases result <;> exact ⟨rfl, rfl⟩

/-- What is asked for is answered in one of the five ways. -/
theorem ask_cases (c : Contract) (sender : Text) (action : Action) :
    c.Answered sender action (c.ask sender action).after
      (c.ask sender action).result.toOption := by
  cases hplan : c.plan sender action with
  | error e =>
    obtain ⟨hresult, hafter⟩ := ask_of_refused hplan
    rw [hresult, hafter]
    exact .rejected hplan
  | ok plan =>
    rcases ask_of_planned hplan with ⟨e, hfailure, hpayment, hafter, hresult⟩ |
      ⟨hlasting, hpayment, hafter, hresult⟩ | ⟨p, -, hpayment, hafter, hresult⟩
    · rw [hresult, hafter]
      exact .halted hplan hpayment hfailure
    · rw [hresult, hafter]
      exact .free hplan hpayment hlasting
    · have hpays := pay_cases plan.after p
      rw [hresult, hafter]
      cases hpay : (plan.after.pay p).2 with
      | ok _ =>
        rw [hpay] at hpays
        exact .paid hplan hpayment hpays
      | error _ =>
        rw [hpay] at hpays
        exact .failed hplan hpayment hpays

/-- An action that can be planned leads to the state of its plan, or to one with its payment. -/
theorem after_ask {c : Contract} {sender : Text} {action : Action} {plan : Plan}
    (h : c.plan sender action = .ok plan) : (c.ask sender action).after = plan.after ∨
      ∃ p success, plan.after.Pays p (c.ask sender action).after success := by
  rcases ask_of_planned h with ⟨_, -, -, hafter, -⟩ | ⟨-, -, hafter, -⟩ | ⟨p, -, -, hafter, -⟩
  · exact .inl hafter
  · exact .inl hafter
  · rw [hafter]
    exact .inr ⟨p, _, pay_cases plan.after p⟩

/-- An action that can be planned leads to the markets of its plan. -/
theorem arena_ask {c : Contract} {sender : Text} {action : Action} {plan : Plan}
    (h : c.plan sender action = .ok plan) : (c.ask sender action).after.arena = plan.after.arena := by
  rcases after_ask h with hafter | ⟨_, _, hpays⟩
  · rw [hafter]
  · exact hpays.arena

/-- An action that can be planned fails because its answer cannot be shown, or because of its
payment. -/
theorem ask_error {c : Contract} {sender : Text} {action : Action} {plan : Plan}
    (hplan : c.plan sender action = .ok plan) {e : ContractError}
    (hfailed : (c.ask sender action).result = .error e) :
    (∃ answer, action.mute? = some answer ∧ e = .badAnswer answer) ∨
      (∃ cause, e = .nonce cause) ∨ ∃ cause, e = .outbox cause := by
  rcases ask_of_planned hplan with ⟨_, hfailure, -, -, hresult⟩ | ⟨-, -, -, hresult⟩ |
    ⟨p, -, -, -, hresult⟩
  · rw [hresult] at hfailed
    cases hfailed
    rw [(granted_of_plan hplan).failure] at hfailure
    obtain ⟨answer, hmute, rfl⟩ := Option.map_eq_some_iff.1 hfailure
    exact .inl ⟨answer, hmute, rfl⟩
  · rw [hresult] at hfailed
    cases hfailed
  · rw [hresult] at hfailed
    cases hpay : (plan.after.pay p).2 with
    | ok _ =>
      rw [hpay] at hfailed
      cases hfailed
    | error _ =>
      rw [hpay] at hfailed
      cases hfailed
      exact .inr (pay_error hpay)

/-! ## Calls -/

/-- The action that a call asks for, with the account that asks. A transfer asks for what its
message states, if it is accepted. -/
def request? (c : Contract) : Call → Option (Text × Action)
  | .ask sender action => some (sender, action)
  | .transfer sender token amount message now =>
    match c.route token amount message now with
    | .ok r => some (sender, r.action)
    | .error _ => none
  | .acknowledge _ => none
  | .reportFailure _ _ => none

/-- A transfer is turned down, or it asks for the action that its message states. -/
theorem request?_transfer (c : Contract) (sender : Text) (token amount message : Value)
    (now : Int) :
    (∃ e, c.route token amount message now = .error e ∧
      c.request? (.transfer sender token amount message now) = none) ∨
    ∃ r, c.route token amount message now = .ok r ∧
      c.request? (.transfer sender token amount message now) = some (sender, r.action) := by
  cases hroute : c.route token amount message now with
  | error e => exact .inl ⟨e, rfl, by rw [request?, hroute]⟩
  | ok r => exact .inr ⟨r, rfl, by rw [request?, hroute]⟩

/-- The deed that a call is, if it asks for an action with success. -/
def deed? (c : Contract) (call : Call) : Option Deed :=
  match c.request? call with
  | some (sender, action) =>
    (c.ask sender action).result.toOption.map fun reply => ⟨sender, action, reply⟩
  | none => none

/-- The deed of a call, by what the action that it asks for comes to. -/
theorem deed?_of_request {c : Contract} {call : Call} {sender : Text} {action : Action}
    (h : c.request? call = some (sender, action)) :
    c.deed? call = (c.ask sender action).result.toOption.map fun reply =>
      ⟨sender, action, reply⟩ := by
  rw [deed?, h]

/-- A call that asks for an action leads to the state that the action leads to. -/
theorem after_step {c : Contract} {call : Call} {sender : Text} {action : Action}
    (h : c.request? call = some (sender, action)) :
    (c.step call).after = (c.ask sender action).after := by
  cases call with
  | ask _ _ =>
    cases h
    rfl
  | transfer asker token amount message now =>
    rcases c.request?_transfer asker token amount message now with
      ⟨_, -, hrequest⟩ | ⟨r, hroute, hrequest⟩
    · rw [hrequest] at h
      cases h
    · rw [hrequest] at h
      cases h
      simp only [step, transfer, hroute, follow, Outcome.after_logRejection]
  | acknowledge _ => cases h
  | reportFailure _ _ => cases h

/-- Two states that differ in nothing that trades, claims and payments depend on. -/
structure SameAccounts (c after : Contract) : Prop where
  /-- The markets are the same. -/
  arena : after.arena = c.arena
  /-- The trades and settlements are the same. -/
  history : c.SameHistory after
  /-- The same is due. -/
  dues : after.outbox.dues = c.outbox.dues
  /-- The transfers are numbered alike. -/
  nonces : after.nonces = c.nonces

/-- A state has its own accounts. -/
theorem SameAccounts.refl (c : Contract) : c.SameAccounts c :=
  ⟨rfl, .of_journal rfl, rfl, rfl⟩

/-- A contract, a call that asks for no action, and the state afterwards. -/
inductive Reports (c : Contract) : Call → Contract → Prop
  /-- The call is turned down. -/
  | ignored {call : Call} : Reports c call c
  /-- A transfer is reported as settled. -/
  | acknowledged {key : Text} {t : Transfer} {outbox : Outbox}
      (report : c.outbox.acknowledge key = .ok (t, outbox)) :
      Reports c (.acknowledge key)
        ({ c with outbox }.record t.id.marketId (.transferAcknowledged key))
  /-- A transfer is reported as failed. -/
  | failed {key : Text} {reason : Value} {t : Transfer} {outbox : Outbox}
      (report : c.outbox.fail key reason = .ok (t, outbox)) :
      Reports c (.reportFailure key reason)
        ({ c with outbox }.record t.id.marketId (.transferFailed key reason t.attempts))

/-- A call that asks for no action is a report, or is turned down. -/
theorem reports_step {c : Contract} {call : Call} (h : c.request? call = none) :
    c.Reports call (c.step call).after := by
  cases call with
  | ask _ _ => cases h
  | transfer sender token amount message now =>
    rcases c.request?_transfer sender token amount message now with
      ⟨_, hroute, -⟩ | ⟨_, -, hrequest⟩
    · simp only [step, transfer, hroute, follow, Outcome.after_logRejection]
      exact .ignored
    · rw [hrequest] at h
      cases h
  | acknowledge key =>
    simp only [step, Outcome.after_logRejection]
    cases hreport : c.acknowledge key with
    | error e => exact .ignored
    | ok plan =>
      simp only [acknowledge, bind_eq_ok, mapError_eq_ok, pure, Except.pure, Except.ok.injEq,
        Prod.exists] at hreport
      obtain ⟨t, outbox, hacknowledge, rfl⟩ := hreport
      exact .acknowledged hacknowledge
  | reportFailure key reason =>
    simp only [step, Outcome.after_logRejection]
    cases hreport : c.reportFailure key reason with
    | error e => exact .ignored
    | ok plan =>
      simp only [reportFailure, bind_eq_ok, mapError_eq_ok, pure, Except.pure, Except.ok.injEq,
        Prod.exists] at hreport
      obtain ⟨t, outbox, hfail, rfl⟩ := hreport
      exact .failed hfail

/-- A call that asks for no action leaves everything as it is, or is a report, of which the journal
tells. -/
theorem report_step {c : Contract} {call : Call} (h : c.request? call = none) :
    (c.step call).after = c ∨ ∃ outbox concerned event, c.outbox.Reported outbox ∧
      event.isAside = true ∧
      (c.step call).after = { c with outbox }.record concerned event := by
  have hreports := reports_step h
  generalize (c.step call).after = after at hreports ⊢
  cases hreports with
  | ignored => exact .inl rfl
  | acknowledged hacknowledge =>
    exact .inr ⟨_, _, _, .acknowledged hacknowledge, rfl, rfl⟩
  | failed hfail => exact .inr ⟨_, _, _, .failed hfail, rfl, rfl⟩

/-- A call that asks for no action leaves the accounts. -/
theorem sameAccounts_step {c : Contract} (houtbox : c.outbox.WellFormed) {call : Call}
    (h : c.request? call = none) : c.SameAccounts (c.step call).after := by
  rcases report_step h with hsame | ⟨outbox, concerned, event, hreported, haside, hafter⟩
  · rw [hsame]
    exact .refl c
  · have hsame : c.SameHistory { c with outbox } := .of_journal rfl
    rw [hafter]
    exact ⟨rfl, hsame.record _ haside, hreported.dues_eq houtbox, rfl⟩

/-! ## Runs -/

/-- The states that a run passes through, each with the call that it meets there. -/
def visits (c : Contract) : List Call → List (Contract × Call)
  | [] => []
  | call :: calls => (c, call) :: (c.step call).after.visits calls

/-- A call that is met is one of the calls. -/
theorem mem_of_mem_visits {c : Contract} {calls : List Call} {visit : Contract × Call}
    (h : visit ∈ c.visits calls) : visit.2 ∈ calls := by
  induction calls generalizing c with
  | nil => cases h
  | cons call calls ih =>
    rcases List.mem_cons.1 h with rfl | hrest
    · exact List.mem_cons_self
    · exact List.mem_cons_of_mem _ (ih hrest)

/-- A run goes on from where its first part leads. -/
theorem run_append (c : Contract) (first rest : List Call) :
    c.run (first ++ rest) = (c.run first).run rest :=
  List.foldl_append

/-- The states of a run are those of its first part, then those of the rest. -/
theorem visits_append (c : Contract) (first rest : List Call) :
    c.visits (first ++ rest) = c.visits first ++ (c.run first).visits rest := by
  induction first generalizing c with
  | nil => rfl
  | cons call first ih =>
    simp only [List.cons_append, visits, ih]
    rfl

/-- What holds of a contract and of what happened so far, and survives one call, holds after a
run. -/
theorem run_invariant {P : Contract → List (Contract × Call) → Prop}
    (hstep : ∀ {c past call}, P c past → P (c.step call).after (past ++ [(c, call)]))
    {c : Contract} (past : List (Contract × Call)) (hinit : P c past) (calls : List Call) :
    P (c.run calls) (past ++ c.visits calls) := by
  induction calls generalizing c past with
  | nil => simpa [run, visits] using hinit
  | cons call calls ih => simpa [run, visits] using ih (past ++ [(c, call)]) (hstep hinit)

/-- The deeds among what happened. -/
def deedsOf (past : List (Contract × Call)) : List Deed :=
  past.filterMap fun (c, call) => c.deed? call

/-- One more visit adds its deed. -/
theorem deedsOf_append (past : List (Contract × Call)) (c : Contract) (call : Call) :
    deedsOf (past ++ [(c, call)]) = deedsOf past ++ (c.deed? call).toList := by
  rw [deedsOf, deedsOf, List.filterMap_append]
  cases hdeed : c.deed? call <;> simp [hdeed]

/-- The deeds of a run, in order. -/
def deeds (c : Contract) (calls : List Call) : List Deed :=
  deedsOf (c.visits calls)

end Contract

end PredictionMarket
