import PredictionMarket.Proofs.Contract.Payments
import PredictionMarket.Proofs.TransferKey

/-!
# No payment is lost

The transfers to an account are numbered, and no number is used twice. So each payment that a
contract makes has a transfer of its own, and, unless two of the messages that are hashed collide, a
key of its own. A payment to an account whose name can be encoded is therefore always made, and in
full.
-/

namespace PredictionMarket

/-! ## Nonces -/

/-- The next number of an account is one more than its last, and then it is its last; all other
accounts keep theirs. -/
theorem Nonces.next_ok {t after : Nonces} {account : Text} {nonce : Int}
    (h : t.next account = .ok (nonce, after)) :
    ∃ last, t.last account = .ok last ∧ nonce = last + 1 ∧
      ∀ a, after.last a = if a = account then .ok nonce else t.last a := by
  simp only [next, bind_eq_ok, pure, Except.pure, Except.ok.injEq, Prod.mk.injEq] at h
  obtain ⟨last, hlast, rfl, rfl⟩ := h
  have hnonneg : 0 ≤ last := by
    unfold Nonces.last at hlast
    split at hlast
    · cases hlast
      exact le_rfl
    · split at hlast
      · cases hlast
      · cases hlast
        omega
    · cases hlast
  refine ⟨last, hlast, rfl, fun a => ?_⟩
  by_cases ha : a = account
  · rw [if_pos ha, ha, Nonces.last, Table.get?_insert_self]
    exact if_neg (by omega)
  · rw [if_neg ha, Nonces.last, Nonces.last, Table.get?_insert_of_ne _ ha]

/-- An account with a last number has a next one. -/
theorem Nonces.next_of_last {t : Nonces} {account : Text} {last : Int}
    (h : t.last account = .ok last) :
    t.next account = .ok (last + 1, t.insert account (.int (last + 1))) := by
  rw [next, h]
  rfl

/-- A transfer of a positive amount that has a key is not refused. -/
theorem Outbox.enqueueCounted_eq_ok (o : Outbox) {id : TransferId} {key : Text}
    (hkey : id.countedKey = .ok key) (token : Value) {amount : Int} (hamount : 0 < amount) :
    ∃ put, o.enqueueCounted id token (.int amount) = .ok put := by
  have hencoded : id.countedKey.mapError OutboxError.encoding = .ok key :=
    (mapError_eq_ok _ _ _).2 hkey
  simp only [enqueueCounted, enqueueUnder, refuseIf_bind, if_neg (not_le.2 hamount), hencoded,
    ok_bind]
  cases o.find? key <;> exact ⟨_, rfl⟩

/-! ## Verdicts -/

/-- What comes of a payment, by its amount and the name of its receiver. -/
def Payment.verdict (p : Payment) : Except ContractError (List LogLine) :=
  if p.amount ≤ 0 then .ok []
  else if p.receiver.hasSurrogate then .error (.outbox (.encoding .surrogate))
  else .ok [Contract.paymentLine p]

/-- What comes of a plan: its failure if it is to fail, otherwise what its payment makes of its
reply. -/
def Plan.verdict (plan : Plan) : Except ContractError Reply :=
  match plan.failure, plan.payment with
  | some e, _ => .error e
  | none, none => .ok plan.reply
  | none, some p => p.verdict.map fun _ => plan.reply

/-- What depends on a payment succeeds unless a positive amount goes to an account whose name cannot
be encoded. -/
theorem Payment.map_verdict_eq_ok {p : Payment} {told reply : Reply} :
    (p.verdict.map fun _ => told) = .ok reply ↔
      reply = told ∧ (0 < p.amount → p.receiver.hasSurrogate = false) := by
  unfold verdict
  by_cases hsmall : p.amount ≤ 0
  · rw [if_pos hsmall]
    constructor
    · intro h
      exact ⟨(Except.ok.inj h).symm, fun hpositive => absurd hpositive (not_lt.2 hsmall)⟩
    · rintro ⟨rfl, -⟩
      rfl
  · rw [if_neg hsmall]
    cases hname : p.receiver.hasSurrogate with
    | true =>
      constructor
      · intro h
        cases h
      · rintro ⟨-, hnamed⟩
        cases hnamed (not_le.1 hsmall)
    | false =>
      constructor
      · intro h
        exact ⟨(Except.ok.inj h).symm, fun _ => rfl⟩
      · rintro ⟨rfl, -⟩
        rfl

namespace Contract

/-! ## Transfers -/

/-- The transfer by which a payment is made, unless there is nothing to pay. -/
def transferFor? (c : Contract) (p : Payment) : Option TransferId :=
  if p.amount ≤ 0 then none
  else (c.nonces.next p.receiver).toOption.map fun (nonce, _) => p.transferId nonce

/-- The transfer by which an action of an account is paid for, if it is. -/
def transferOf? (c : Contract) (sender : Text) (action : Action) : Option TransferId :=
  match c.plan sender action with
  | .ok plan => plan.payment.bind plan.after.transferFor?
  | .error _ => none

/-- The transfers that the calls of a run lead to, each with the state that the call meets. -/
def transferIdsOf (past : List (Contract × Call)) : List TransferId :=
  past.filterMap fun (c, call) =>
    (c.request? call).bind fun (sender, action) => c.transferOf? sender action

/-- One more call adds its transfer. -/
theorem transferIdsOf_append (past : List (Contract × Call)) (c : Contract) (call : Call) :
    transferIdsOf (past ++ [(c, call)]) = transferIdsOf past ++
      ((c.request? call).bind fun (sender, action) => c.transferOf? sender action).toList := by
  rw [transferIdsOf, transferIdsOf, List.filterMap_append]
  cases htransfer : (c.request? call).bind fun (sender, action) => c.transferOf? sender action <;>
    simp [htransfer]

/-- The transfers that a run leads to, in order. -/
def transferIds (c : Contract) (calls : List Call) : List TransferId :=
  transferIdsOf (c.visits calls)

/-- What holds at first, and survives each call of some sort as long as there is no collision, holds
after every run of such calls whose transfers do not collide. -/
theorem run_of_collisionFree {P : Contract → List (Contract × Call) → Prop} {Q : Call → Prop}
    (hstep : ∀ {c past call}, P c past → Q call →
      CollisionFree (transferIdsOf (past ++ [(c, call)])) →
        P (c.step call).after (past ++ [(c, call)]))
    {c : Contract} (hinit : P c []) {calls : List Call} (hcalls : ∀ call ∈ calls, Q call)
    (hfree : CollisionFree (c.transferIds calls)) : P (c.run calls) (c.visits calls) := by
  refine run_invariant
    (P := fun c past => (∀ visit ∈ past, Q visit.2) → CollisionFree (transferIdsOf past) →
      P c past)
    (fun {c past call} hc hpast hfree => ?_) [] (fun _ _ => hinit) calls
    (fun visit hvisit => hcalls _ (mem_of_mem_visits hvisit)) hfree
  have hbefore : CollisionFree (transferIdsOf past) :=
    hfree.mono fun i hi => transferIdsOf_append past c call ▸ List.mem_append_left _ hi
  exact hstep (hc (fun visit hvisit => hpast visit (List.mem_append_left _ hvisit)) hbefore)
    (hpast (c, call) (List.mem_append_right _ (List.mem_singleton_self _))) hfree

/-! ## The invariant -/

/-- A contract whose transfers are numbered: each account has a last number, and what is due is
among some transfers, under its key and with a number that is not above the last one. -/
structure Numbered (c : Contract) (ids : List TransferId) : Prop where
  /-- Each account has a last number. -/
  stored : ∀ account, ∃ last, c.nonces.last account = .ok last
  /-- What is due is among the transfers. -/
  mem : ∀ d ∈ c.outbox.dues, d.id ∈ ids
  /-- What is due has its key. -/
  key : ∀ d ∈ c.outbox.dues, d.id.countedKey = .ok d.key
  /-- What is due is numbered. -/
  le_last : ∀ d ∈ c.outbox.dues, ∀ last, c.nonces.last d.id.receiver = .ok last → d.id.nonce ≤ last

/-- In a new contract nothing is numbered yet. -/
theorem numbered_make (config : Config) (gov oracleId : Text) :
    (make config gov oracleId).Numbered [] where
  stored := fun _ => ⟨0, rfl⟩
  mem := by simp [make, Outbox.dues]
  key := by simp [make, Outbox.dues]
  le_last := by simp [make, Outbox.dues]

/-- The numbering depends on the nonces and on what is due. -/
theorem Numbered.congr {c after : Contract} {ids : List TransferId} (h : c.Numbered ids)
    (hnonces : after.nonces = c.nonces) (hdues : after.outbox.dues = c.outbox.dues) :
    after.Numbered ids := by
  constructor
  · rw [hnonces]
    exact h.stored
  · rw [hdues]
    exact h.mem
  · rw [hdues]
    exact h.key
  · rw [hdues, hnonces]
    exact h.le_last

/-- A planned action numbers nothing yet. -/
theorem Numbered.planned {c : Contract} {ids : List TransferId} {sender : Text} {action : Action}
    {plan : Plan} (h : c.Numbered ids) (hplanned : c.Planned sender action plan) :
    plan.after.Numbered ids :=
  h.congr hplanned.nonces (congrArg Outbox.dues hplanned.outbox)

/-- The next number of an account is used, for the transfer itself or for none. -/
theorem Numbered.next {c after : Contract} {ids : List TransferId} (h : c.Numbered ids)
    {p : Payment} {nonce : Int} (hnext : c.nonces.next p.receiver = .ok (nonce, after.nonces))
    (hdues : ∀ d ∈ after.outbox.dues, d ∈ c.outbox.dues ∨
      d.id = p.transferId nonce ∧ d.id.countedKey = .ok d.key) :
    after.Numbered (ids ++ [p.transferId nonce]) := by
  obtain ⟨last, hlast, hsucc, hafter⟩ := Nonces.next_ok hnext
  constructor
  · intro account
    rw [hafter]
    split
    · exact ⟨nonce, rfl⟩
    · exact h.stored account
  · intro d hd
    rcases hdues d hd with hold | ⟨hnew, -⟩
    · exact List.mem_append_left _ (h.mem d hold)
    · exact List.mem_append_right _ (List.mem_singleton.2 hnew)
  · intro d hd
    rcases hdues d hd with hold | ⟨-, hkey⟩
    · exact h.key d hold
    · exact hkey
  · intro d hd n hn
    rw [hafter] at hn
    rcases hdues d hd with hold | ⟨hnew, -⟩
    · split at hn
      · next hsame =>
        have hle := h.le_last d hold last (hsame ▸ hlast)
        cases hn
        omega
      · exact h.le_last d hold n hn
    · have hreceiver : d.id.receiver = p.receiver := congrArg TransferId.receiver hnew
      rw [if_pos hreceiver] at hn
      cases hn
      exact (congrArg TransferId.nonce hnew).le

/-- The next transfer to an account has a key under which nothing is due. -/
theorem Numbered.fresh {c : Contract} {ids : List TransferId} (h : c.Numbered ids) {p : Payment}
    {nonce : Int} {nonces : Nonces} (hnext : c.nonces.next p.receiver = .ok (nonce, nonces))
    (hfree : CollisionFree (ids ++ [p.transferId nonce])) {key : Text}
    (hkey : (p.transferId nonce).countedKey = .ok key) : key ∉ c.outbox.dues.map Due.key := by
  intro hmem
  obtain ⟨d, hd, rfl⟩ := List.mem_map.1 hmem
  have hsame : d.id = p.transferId nonce :=
    hfree.eq_of_countedKey (List.mem_append_left _ (h.mem d hd))
      (List.mem_append_right _ (List.mem_singleton_self _)) (h.key d hd) hkey
  obtain ⟨last, hlast, hsucc, -⟩ := Nonces.next_ok hnext
  have hle := h.le_last d hd last (by rw [hsame]; exact hlast)
  rw [hsame] at hle
  have hnonce : (p.transferId nonce).nonce = nonce := rfl
  omega

/-! ## Payments -/

/-- The transfer for a payment that takes the next number. -/
theorem transferFor?_of_next {c : Contract} {p : Payment} {nonce : Int} {nonces : Nonces}
    (hpositive : 0 < p.amount) (hnext : c.nonces.next p.receiver = .ok (nonce, nonces)) :
    c.transferFor? p = some (p.transferId nonce) := by
  rw [transferFor?, if_neg (not_le.2 hpositive), hnext]
  rfl

/-- Where transfers are numbered, the next one can be. -/
theorem Numbered.next_ne_error {c : Contract} {ids : List TransferId} (h : c.Numbered ids)
    (account : Text) (e : NonceError) : c.nonces.next account ≠ .error e := by
  obtain ⟨last, hlast⟩ := h.stored account
  rw [Nonces.next_of_last hlast]
  exact nofun

/-- A payment keeps the transfers numbered, with its own among them. -/
theorem Numbered.pays {c after : Contract} {ids : List TransferId} {p : Payment} {success : Bool}
    (h : c.Numbered ids) (hpays : c.Pays p after success) :
    after.Numbered (ids ++ (c.transferFor? p).toList) := by
  cases hpays with
  | nothing hsmall =>
    rw [transferFor?, if_pos hsmall]
    simpa using h
  | unnumbered _ hstored => exact absurd hstored (h.next_ne_error _ _)
  | refused hpositive hnext _ =>
    rw [transferFor?_of_next hpositive hnext]
    exact h.next hnext fun d hd => .inl hd
  | queued hpositive hnext henqueued =>
    rw [transferFor?_of_next hpositive hnext]
    obtain ⟨-, key, hkey, ⟨-, hdues⟩ | ⟨-, hdues⟩⟩ := Outbox.dues_enqueueUnder henqueued
    · exact h.next hnext fun d hd => .inl (hdues ▸ hd)
    · refine h.next hnext fun d hd => ?_
      rcases List.mem_append.1 (hdues ▸ hd) with hold | hnew
      · exact .inl hold
      · rw [List.mem_singleton.1 hnew]
        exact .inr ⟨rfl, hkey⟩

/-- A payment to an account whose name can be encoded succeeds. -/
theorem Numbered.success {c after : Contract} {ids : List TransferId} {p : Payment} {success : Bool}
    (h : c.Numbered ids) (hpays : c.Pays p after success)
    (hreceiver : p.receiver.hasSurrogate = false) : success = true := by
  cases hpays with
  | nothing | queued => rfl
  | unnumbered _ hstored => exact absurd hstored (h.next_ne_error _ _)
  | @refused nonce _ _ hpositive _ hrefusal =>
    have hoperation : Text.hasSurrogate p.kind.operation = false := by
      cases p.kind <;> decide
    obtain ⟨key, hkey⟩ : ∃ key, (p.transferId nonce).countedKey = .ok key :=
      TransferId.exists_countedKey_iff.2 ⟨hreceiver, hoperation⟩
    obtain ⟨put, hput⟩ := c.outbox.enqueueCounted_eq_ok hkey p.token hpositive
    rw [hput] at hrefusal
    cases hrefusal

/-- The transfer to an account whose name has a surrogate is refused, whatever its number. -/
theorem enqueue_of_surrogate (c : Contract) {p : Payment} (hpositive : 0 < p.amount)
    (hreceiver : p.receiver.hasSurrogate = true) (nonce : Int) :
    c.enqueue p nonce = .error (.outbox (.encoding .surrogate)) := by
  have hcheck : (p.transferId nonce).toValue.checkCanonical = .error .surrogate := by
    have hname : (p.transferId nonce).receiver.hasSurrogate = true := hreceiver
    rw [TransferId.checkCanonical_toValue, Value.checkText, if_pos hname]
    rfl
  have hkey : (p.transferId nonce).countedKey = .error .surrogate := by
    rw [TransferId.countedKey, hcheck, error_bind]
  rw [enqueue_eq, Outbox.enqueueCounted, Outbox.enqueueUnder, hkey]
  simp only [refuseIf_bind, if_neg (not_le.2 hpositive)]
  rfl

/-- A payment whose transfer is refused uses a number up. -/
theorem pay_of_refused {c : Contract} {p : Payment} {nonce : Int} {nonces : Nonces} {e : ContractError}
    (hpositive : 0 < p.amount) (hnext : c.nonces.next p.receiver = .ok (nonce, nonces))
    (hrefused : { c with nonces }.enqueue p nonce = .error e) :
    c.pay p = ({ c with nonces }, .error e) := by
  simp only [pay, if_neg (not_le.2 hpositive), hnext, hrefused]

/-- A payment whose transfer is put into the outbox succeeds. -/
theorem pay_of_queued {c : Contract} {p : Payment} {nonce : Int} {nonces : Nonces} {paid : Contract}
    (hpositive : 0 < p.amount) (hnext : c.nonces.next p.receiver = .ok (nonce, nonces))
    (hqueued : { c with nonces }.enqueue p nonce = .ok paid) :
    c.pay p = (paid, .ok [paymentLine p]) := by
  simp only [pay, if_neg (not_le.2 hpositive), hnext, hqueued]

/-- Where transfers are numbered, nothing else matters to a payment. -/
theorem Numbered.result_pay {c : Contract} {ids : List TransferId} (h : c.Numbered ids)
    (p : Payment) : (c.pay p).2 = p.verdict := by
  unfold Payment.verdict
  by_cases hsmall : p.amount ≤ 0
  · rw [pay, if_pos hsmall, if_pos hsmall]
  · rw [if_neg hsmall]
    obtain ⟨last, hlast⟩ := h.stored p.receiver
    have hpositive : 0 < p.amount := not_le.1 hsmall
    have hnext := Nonces.next_of_last hlast
    cases hname : p.receiver.hasSurrogate with
    | true =>
      rw [pay_of_refused hpositive hnext (enqueue_of_surrogate _ hpositive hname _)]
      rfl
    | false =>
      have hpays := pay_cases c p
      have hsuccess := h.success hpays hname
      cases henqueue : { c with nonces := c.nonces.insert p.receiver (.int (last + 1)) }.enqueue p
          (last + 1) with
      | error e =>
        rw [pay_of_refused hpositive hnext henqueue] at hsuccess
        cases hsuccess
      | ok paid =>
        rw [pay_of_queued hpositive hnext henqueue]
        rfl

/-- Where transfers are numbered, what comes of an action is what comes of its plan. -/
theorem Numbered.result_ask {c : Contract} {ids : List TransferId} (h : c.Numbered ids)
    {sender : Text} {action : Action} {plan : Plan} (hplan : c.plan sender action = .ok plan) :
    (c.ask sender action).result = plan.verdict := by
  unfold Plan.verdict
  rcases ask_of_planned hplan with ⟨e, hfailure, hpayment, -, hresult⟩ |
    ⟨hlasting, hpayment, -, hresult⟩ | ⟨p, hlasting, hpayment, -, hresult⟩
  · rw [hresult, hfailure]
  · rw [hresult, hlasting, hpayment]
  · rw [hresult, hlasting, hpayment, (h.planned (plan_ok hplan)).result_pay p]

/-- An action that can be planned succeeds, as planned, unless it gives an answer that cannot be
shown or an account is to be paid a positive amount whose name cannot be encoded. -/
theorem Numbered.result_eq_ok_iff {c : Contract} {ids : List TransferId} (h : c.Numbered ids)
    {sender : Text} {action : Action} {plan : Plan} (hplan : c.plan sender action = .ok plan)
    {reply : Reply} :
    (c.ask sender action).result = .ok reply ↔ reply = plan.reply ∧ action.mute? = none ∧
      ∀ p, plan.payment = some p → 0 < p.amount → p.receiver.hasSurrogate = false := by
  rw [h.result_ask hplan, Plan.verdict, (granted_of_plan hplan).failure]
  cases action.mute? with
  | some answer => exact iff_of_false nofun fun hboth => nomatch hboth.2.1
  | none =>
    cases plan.payment with
    | none =>
      constructor
      · intro hreply
        refine ⟨(Except.ok.inj hreply).symm, rfl, fun p hp => ?_⟩
        cases hp
      · rintro ⟨rfl, -⟩
        rfl
    | some p =>
      rw [Option.map_none, p.map_verdict_eq_ok]
      refine and_congr_right fun _ => ⟨fun hnamed => ⟨rfl, ?_⟩, fun hall => hall.2 p rfl⟩
      rintro _ ⟨⟩
      exact hnamed

/-- A payment that succeeds adds its amount to the outbox. -/
theorem Numbered.paidOut_eq {c after : Contract} {ids : List TransferId} {p : Payment}
    (h : c.Numbered ids) (hfree : CollisionFree (ids ++ (c.transferFor? p).toList))
    (hpays : c.Pays p after true) (marketId : Int) (kinds : List PaymentKind) :
    after.paidOut marketId kinds =
      c.paidOut marketId kinds + Payment.due marketId kinds (some p) := by
  cases hpays with
  | nothing hsmall =>
    simp only [Payment.due, max_eq_left hsmall, ite_self, add_zero]
  | queued hpositive hnext henqueued =>
    rw [transferFor?_of_next hpositive hnext] at hfree
    obtain ⟨-, key, hkey, ⟨hmem, -⟩ | ⟨-, hdues⟩⟩ := Outbox.dues_enqueueUnder henqueued
    · exact absurd hmem (h.fresh hnext hfree hkey)
    · refine (Outbox.amountOf_append hdues _).trans ?_
      rw [Payment.isFor_transferId]
      simp only [Payment.due, decide_eq_true_eq, max_eq_right hpositive.le]
      rfl

/-- A payment that fails adds nothing to the outbox. -/
theorem Pays.paidOut_of_failed {c after : Contract} {p : Payment} (hpays : c.Pays p after false)
    (marketId : Int) (kinds : List PaymentKind) :
    after.paidOut marketId kinds = c.paidOut marketId kinds := by
  cases hpays <;> rfl

end Contract

end PredictionMarket
