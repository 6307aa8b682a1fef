import PredictionMarket.Proofs.Contract.Conservation
import PredictionMarket.Proofs.Contract.Lifecycle

/-!
# What is owed is queued once

A deed may oblige the contract to pay: for a trade or a claim to the account that asked for it, for
an answer to the creator of the market. Each amount that is owed is one new transfer at the end of
the outbox, nothing else puts a transfer in, and none is ever taken out, moved or altered. The
transfers to an account are numbered from one on without a gap.
-/

namespace PredictionMarket

/-! ## Debts -/

/-- What a reply promises to the account that asked, and why. -/
def Reply.due? : Reply → Option (PaymentKind × Int)
  | .traded (.exitPool e) => some (.exitPool, e.fees)
  | .traded (.sell collateralOut _ s) => some (.sell, collateralOut - s.fee)
  | .traded (.redeem r) => some (.redeem, r.payout)
  | .settled s => some (.claim, s.total)
  | _ => none

/-- What a deed obliges a contract to pay, in the state that the deed meets. -/
def Contract.debt (c : Contract) (d : Deed) : Option Payment :=
  match d.action with
  | .trade (.int n) _ _ | .claim (.int n) => do
    let m ← c.arena.markets[n.toNat]?
    let (kind, amount) ← d.reply.due?
    return ⟨m.id, d.sender, .text m.pool.token, amount, kind⟩
  | .answer (.int n) _ (.int bond) _ => do
    let m ← c.arena.markets[n.toNat]?
    return ⟨m.id, m.creator, c.config.bondToken, bond, .validityBond⟩
  | _ => none

/-- What a call obliges a contract to pay, if it succeeds. -/
def Contract.owed (c : Contract) (call : Call) : Option Payment :=
  (c.deed? call).bind c.debt

/-- A new transfer by which a payment is made. -/
structure Transfer.Settles (t : Transfer) (p : Payment) : Prop where
  /-- It is owed by the market. -/
  marketId : t.id.marketId = some p.marketId
  /-- It goes to the receiver. -/
  receiver : t.id.receiver = p.receiver
  /-- It is made in the token. -/
  token : t.token = p.token
  /-- It is over the amount. -/
  amount : t.amount = p.amount
  /-- It says why. -/
  operation : t.id.operation = p.kind.operation
  /-- It stands under its key. -/
  key : t.id.countedKey = .ok t.key
  /-- No report on it has come. -/
  pending : t.status = .pending ∧ t.attempts = 0 ∧ t.lastError = none

namespace Outbox

/-- An outbox, what is owed, and the outbox afterwards. -/
inductive Meets (o : Outbox) (owed : Option Payment) : Outbox → Prop
  /-- Nothing is owed, and at most a report comes in. -/
  | nothing {after : Outbox} (small : ∀ p, owed = some p → p.amount ≤ 0)
      (queued : after.queued = o.queued) : Meets o owed after
  /-- An amount is owed, and one transfer of it is put in at the end. -/
  | one {after : Outbox} {p : Payment} {t : Transfer} (owes : owed = some p)
      (positive : 0 < p.amount) (transfers : after.transfers = o.transfers ++ [t])
      (settles : t.Settles p) : Meets o owed after

/-- Whatever is owed, the transfers from before are still there, as they were put in. -/
theorem Meets.prefix_queued {o after : Outbox} {owed : Option Payment} (h : o.Meets owed after) :
    o.queued <+: after.queued := by
  cases h with
  | nothing _ hqueued => rw [hqueued]
  | one _ _ htransfers _ =>
    rw [queued, queued, htransfers, List.map_append]
    exact List.prefix_append _ _

/-- The numbers of the transfers to an account, in order. -/
def numbersOf (o : Outbox) (account : Text) : List Int :=
  (o.transfers.filter fun t => t.id.receiver = account).map fun t => t.id.nonce

/-- Reports change no numbers. -/
theorem numbersOf_congr {o after : Outbox} (h : after.queued = o.queued) (account : Text) :
    after.numbersOf account = o.numbersOf account := by
  have hqueued (o : Outbox) : o.numbersOf account =
      (o.queued.filter fun t => t.id.receiver = account).map fun t => t.id.nonce := by
    rw [queued, List.filter_map, List.map_map]
    rfl
  rw [hqueued, hqueued, h]

/-- A new transfer adds its number to those of its receiver. -/
theorem numbersOf_append {o after : Outbox} {t : Transfer}
    (h : after.transfers = o.transfers ++ [t]) (account : Text) :
    after.numbersOf account =
      o.numbersOf account ++ if t.id.receiver = account then [t.id.nonce] else [] := by
  rw [numbersOf, numbersOf, h, List.filter_append, List.map_append]
  by_cases hsame : t.id.receiver = account <;> simp [hsame]

end Outbox

namespace Contract

/-- What an action that is granted is to pay is what it owes as a deed, unless it is to fail. -/
theorem Granted.payment_eq_debt {c : Contract} {sender : Text} {action : Action} {plan : Plan}
    (h : c.Granted sender action plan) (hlasting : plan.failure = none) :
    plan.payment = c.debt ⟨sender, action, plan.reply⟩ := by
  cases h with
  | muteAnswer => cases hlasting
  | setGov | pause | unpause | setCollateral | removeCollateral | switchMarket | createMarket
  | rule => rfl
  | @trade n m _ _ _ _ r _ _ _ hfound =>
    simp only [debt, Int.toNat_natCast, hfound, Option.bind_eq_bind, Option.bind_some]
    cases r <;> rfl
  | answer _ _ hfound | claim _ hfound =>
    simp only [debt, Int.toNat_natCast, hfound, Option.bind_eq_bind, Option.bind_some]
    rfl

/-- What is owed goes to the account that asked or to the creator of a market. -/
theorem receiver_of_debt {c : Contract} {d : Deed} {p : Payment} (h : c.debt d = some p) :
    p.receiver = d.sender ∨ ∃ m ∈ c.arena.markets, p.receiver = m.creator := by
  unfold debt at h
  split at h
  · simp only [Option.bind_eq_bind, Option.bind_eq_some_iff, Option.pure_def, Option.some.injEq,
      Prod.exists] at h
    obtain ⟨_, -, _, _, -, rfl⟩ := h
    exact .inl rfl
  · simp only [Option.bind_eq_bind, Option.bind_eq_some_iff, Option.pure_def, Option.some.injEq,
      Prod.exists] at h
    obtain ⟨_, -, _, _, -, rfl⟩ := h
    exact .inl rfl
  · simp only [Option.bind_eq_bind, Option.bind_eq_some_iff, Option.pure_def,
      Option.some.injEq] at h
    obtain ⟨m, hfound, rfl⟩ := h
    exact .inr ⟨m, List.mem_of_getElem? hfound, rfl⟩
  · cases h

/-! ## The queue -/

/-- The transfers to an account are numbered from one on, without a gap, to its last number. -/
def Counts (c : Contract) (account : Text) : Prop :=
  ∃ k : Nat, c.nonces.last account = .ok k ∧
    c.outbox.numbersOf account = (List.range k).map fun (i : Nat) => (i : Int) + 1

/-- Whether no number is left out depends on the last numbers and on what was put in. -/
theorem Counts.congr {c after : Contract} {account : Text} (h : c.Counts account)
    (hnonces : after.nonces = c.nonces) (hqueued : after.outbox.queued = c.outbox.queued) :
    after.Counts account := by
  unfold Counts
  rw [hnonces, Outbox.numbersOf_congr hqueued]
  exact h

/-- A contract whose transfers are numbered without a gap: each key is in the outbox once, all
accounts have names that can be encoded, and the transfers to an account are numbered from one on to
its last number. -/
structure Queued (c : Contract) (ids : List TransferId) : Prop where
  /-- Each key is in the outbox once. -/
  outbox : c.outbox.WellFormed
  /-- The transfers are numbered. -/
  numbered : c.Numbered ids
  /-- The creators of the markets have names that can be encoded. -/
  creators : ∀ m ∈ c.arena.markets, m.creator.hasSurrogate = false
  /-- No number is left out. -/
  counted : ∀ account, c.Counts account

/-- A new contract has nothing in its outbox. -/
theorem queued_make (config : Config) (gov oracleId : Text) :
    (make config gov oracleId).Queued [] where
  outbox := List.nodup_nil
  numbered := numbered_make config gov oracleId
  creators := by simp [make]
  counted := fun _ => ⟨0, rfl, rfl⟩

/-- A payment that takes the next number of its receiver is put in as one new transfer. -/
theorem Numbered.transfer_of_next {c : Contract} {ids : List TransferId} {p : Payment}
    {nonce : Int} {nonces : Nonces} {t : Transfer} {outbox : Outbox} (h : c.Numbered ids)
    (hfree : CollisionFree (ids ++ [p.transferId nonce]))
    (hnext : c.nonces.next p.receiver = .ok (nonce, nonces))
    (henqueued : c.outbox.enqueueCounted (p.transferId nonce) p.token (.int p.amount) =
      .ok (t, outbox)) :
    outbox.transfers = c.outbox.transfers ++ [t] ∧ t.id = p.transferId nonce ∧ t.Settles p := by
  obtain ⟨-, key, hkey, ⟨hfind, -⟩ | ⟨-, rfl, rfl⟩⟩ := Outbox.enqueueUnder_ok henqueued
  · have hnew : c.outbox.find? key = none :=
      Outbox.find?_eq_none_iff.2 (h.fresh hnext hfree hkey)
    rw [hnew] at hfind
    cases hfind
  · exact ⟨rfl, rfl, rfl, rfl, rfl, rfl, rfl, hkey, rfl, rfl, rfl⟩

/-- With the next number of its receiver used by a new transfer, no number is left out. -/
theorem Counts.next {c after : Contract} {account : Text} {p : Payment} {nonce : Int} {t : Transfer}
    (hcounted : c.Counts account)
    (hnext : c.nonces.next p.receiver = .ok (nonce, after.nonces))
    (htransfers : after.outbox.transfers = c.outbox.transfers ++ [t])
    (hid : t.id = p.transferId nonce) : after.Counts account := by
  obtain ⟨last, hlast, hsucc, hafter⟩ := Nonces.next_ok hnext
  obtain ⟨k, hk, hnumbers⟩ := hcounted
  have hreceiver : t.id.receiver = p.receiver := by rw [hid]; rfl
  have hnonce : t.id.nonce = nonce := by rw [hid]; rfl
  unfold Counts
  rw [hafter, Outbox.numbersOf_append htransfers, hnumbers, hreceiver, hnonce]
  by_cases hsame : p.receiver = account
  · have hlastk : last = k := by
      rw [← hsame, hlast] at hk
      exact Except.ok.inj hk
    refine ⟨k + 1, ?_, ?_⟩
    · rw [if_pos hsame.symm, hsucc, hlastk]
      push_cast
      rfl
    · rw [if_pos hsame, List.range_succ, List.map_append, List.map_singleton, hsucc, hlastk]
  · refine ⟨k, ?_, ?_⟩
    · rw [if_neg (Ne.symm hsame), hk]
    · rw [if_neg hsame, List.append_nil]

/-- What a payment to a receiver with a name that can be encoded leads to: it does not fail, its
transfer is put in at the end unless there is nothing to pay, and no number is left out. -/
theorem Queued.pays {c after : Contract} {ids : List TransferId} {p : Payment} {success : Bool}
    (h : c.Queued ids) (hfree : CollisionFree (ids ++ (c.transferFor? p).toList))
    (hreceiver : p.receiver.hasSurrogate = false) (hpays : c.Pays p after success) :
    success = true ∧ c.outbox.Meets (some p) after.outbox ∧
      after.Queued (ids ++ (c.transferFor? p).toList) := by
  have hsuccess := h.numbered.success hpays hreceiver
  have hnumbered := h.numbered.pays hpays
  have houtbox := hpays.wellFormed h.outbox
  have hcreators : ∀ m ∈ after.arena.markets, m.creator.hasSurrogate = false := by
    rw [hpays.arena]
    exact h.creators
  cases hpays with
  | nothing hsmall =>
    refine ⟨rfl, .nothing (fun q hq => ?_) rfl, houtbox, hnumbered, hcreators, h.counted⟩
    cases hq
    exact hsmall
  | unnumbered _ _ | refused _ _ _ => cases hsuccess
  | queued hpositive hnext henqueued =>
    rw [transferFor?_of_next hpositive hnext] at hfree
    obtain ⟨htransfers, hid, hsettles⟩ := h.numbered.transfer_of_next hfree hnext henqueued
    exact ⟨rfl, .one rfl hpositive htransfers hsettles, houtbox, hnumbered, hcreators,
      fun account => (h.counted account).next hnext htransfers hid⟩

/-- What a planned action leads to before its payment has the same queue. -/
theorem Queued.planned {c : Contract} {ids : List TransferId} {sender : Text} {action : Action}
    {plan : Plan} (h : c.Queued ids) (hsender : sender.hasSurrogate = false)
    (hplan : c.plan sender action = .ok plan) : plan.after.Queued ids := by
  have hplanned := plan_ok hplan
  have hcreators : ∀ m ∈ plan.after.arena.markets, m.creator.hasSurrogate = false := by
    refine (granted_of_plan hplan).reshapes.markets (P := fun m => m.creator.hasSurrogate = false)
      (Q := fun asker _ => asker.hasSurrogate = false) (fun hasker _ hmade => ?_)
      (fun _ hm hevolves => ?_) h.creators hsender
    · obtain ⟨_, -, rfl⟩ := newMarket_ok hmade
      exact hasker
    · rw [hevolves.creator_eq]
      exact hm
  refine ⟨?_, h.numbered.planned hplanned, hcreators, fun account =>
    (h.counted account).congr hplanned.nonces (congrArg Outbox.queued hplanned.outbox)⟩
  rw [hplanned.outbox]
  exact h.outbox

/-- The payment of a planned action is made, and is what the action owes as a deed. -/
theorem Queued.paid {c after : Contract} {ids : List TransferId} {sender : Text} {action : Action}
    {plan : Plan} {p : Payment} {success : Bool} (h : c.Queued ids)
    (hsender : sender.hasSurrogate = false) (hplan : c.plan sender action = .ok plan)
    (howes : plan.payment = some p)
    (hfree : CollisionFree (ids ++ (plan.after.transferFor? p).toList))
    (hpays : plan.after.Pays p after success) :
    success = true ∧ c.outbox.Meets (c.debt ⟨sender, action, plan.reply⟩) after.outbox ∧
      after.Queued (ids ++ (plan.after.transferFor? p).toList) := by
  have hgranted := granted_of_plan hplan
  rw [hgranted.payment_eq_debt (hgranted.failure_of_payment howes)] at howes
  have hreceiver : p.receiver.hasSurrogate = false := by
    rcases receiver_of_debt howes with hown | ⟨m, hm, hcreator⟩
    · rw [hown]
      exact hsender
    · rw [hcreator]
      exact h.creators m hm
  have hqueued := (h.planned hsender hplan).pays hfree hreceiver hpays
  rwa [(plan_ok hplan).outbox, ← howes] at hqueued

/-- What an action of an account with a name that can be encoded leads to: what it owes is put in at
the end, and no number is left out. -/
theorem Queued.answered {c after : Contract} {ids : List TransferId} {sender : Text}
    {action : Action} {reply : Option Reply} (h : c.Queued ids)
    (hsender : sender.hasSurrogate = false)
    (hfree : CollisionFree (ids ++ (c.transferOf? sender action).toList))
    (hanswered : c.Answered sender action after reply) :
    c.outbox.Meets (reply.bind fun r => c.debt ⟨sender, action, r⟩) after.outbox ∧
      after.Queued (ids ++ (c.transferOf? sender action).toList) := by
  cases hanswered with
  | rejected hrefusal =>
    rw [transferOf?, hrefusal]
    refine ⟨.nothing (fun _ hp => ?_) rfl, by simpa using h⟩
    cases hp
  | @free plan hplan hunpaid hlasting =>
    have hafter := h.planned hsender hplan
    rw [transferOf?, hplan, Option.bind_some, ← (granted_of_plan hplan).payment_eq_debt hlasting,
      hunpaid, (plan_ok hplan).outbox]
    refine ⟨.nothing (fun _ hp => ?_) rfl, by simpa [hunpaid] using hafter⟩
    cases hp
  | @halted plan _ hplan hunpaid _ =>
    have hafter := h.planned hsender hplan
    rw [transferOf?, hplan, (plan_ok hplan).outbox]
    refine ⟨.nothing (fun _ hp => ?_) rfl, by simpa [hunpaid] using hafter⟩
    cases hp
  | @paid plan p _ hplan howes hpays =>
    rw [transferOf?, hplan] at hfree ⊢
    simp only [howes, Option.bind_some] at hfree ⊢
    exact (h.paid hsender hplan howes hfree hpays).2
  | @failed plan p _ hplan howes hpays =>
    rw [transferOf?, hplan] at hfree
    simp only [howes, Option.bind_some] at hfree
    obtain ⟨hsuccess, -⟩ := h.paid hsender hplan howes hfree hpays
    cases hsuccess

/-- A call that asks for no action puts no transfer in. -/
theorem queued_step {c : Contract} (houtbox : c.outbox.WellFormed) {call : Call}
    (h : c.request? call = none) : (c.step call).after.outbox.queued = c.outbox.queued := by
  rcases report_step h with hafter | ⟨outbox, _, _, hreported, -, hafter⟩
  · rw [hafter]
  · rw [hafter]
    exact hreported.queued_eq houtbox

/-- What a call by an account with a name that can be encoded leads to. -/
theorem Queued.step {c : Contract} {past : List (Contract × Call)} {call : Call}
    (h : c.Queued (transferIdsOf past)) (hnamed : call.isNamed = true)
    (hfree : CollisionFree (transferIdsOf (past ++ [(c, call)]))) :
    c.outbox.Meets (c.owed call) (c.step call).after.outbox ∧
      (c.step call).after.Queued (transferIdsOf (past ++ [(c, call)])) := by
  rw [transferIdsOf_append] at hfree ⊢
  cases hrequest : c.request? call with
  | none =>
    have hsame := sameAccounts_step h.outbox hrequest
    have hqueued := queued_step h.outbox hrequest
    refine ⟨.nothing (fun p hp => ?_) hqueued, hsame.wellFormed h.outbox, ?_, ?_,
      fun account => (h.counted account).congr hsame.nonces hqueued⟩
    · rw [owed, deed?, hrequest] at hp
      cases hp
    · simpa using h.numbered.congr hsame.nonces hsame.dues
    · rw [hsame.arena]
      exact h.creators
  | some request =>
    obtain ⟨sender, action⟩ := request
    have hsender := isNamed_of_request hrequest hnamed
    rw [hrequest] at hfree
    obtain ⟨hmeets, hafter⟩ := h.answered hsender hfree (ask_cases c sender action)
    rw [owed, deed?_of_request hrequest, after_step hrequest, Option.bind_map]
    exact ⟨hmeets, hafter⟩

/-- Every state of a run whose accounts have names that can be encoded has its queue in order, and
every call of it puts in what it owes, if there is no collision. -/
theorem Queued.run {c : Contract} (h : c.Queued []) {calls : List Call}
    (hnamed : ∀ call ∈ calls, call.isNamed = true) (hfree : CollisionFree (c.transferIds calls)) :
    (c.run calls).Queued (c.transferIds calls) ∧
      ∀ visit ∈ c.visits calls,
        visit.1.outbox.Meets (visit.1.owed visit.2) (visit.1.step visit.2).after.outbox := by
  refine run_of_collisionFree
    (P := fun c past => c.Queued (transferIdsOf past) ∧ ∀ visit ∈ past,
      visit.1.outbox.Meets (visit.1.owed visit.2) (visit.1.step visit.2).after.outbox)
    (fun {c past call} hc hcall hfree => ?_) ⟨h, by simp⟩ hnamed hfree
  obtain ⟨hqueued, hpast⟩ := hc
  obtain ⟨hmeets, hafter⟩ := hqueued.step hcall hfree
  refine ⟨hafter, fun visit hvisit => ?_⟩
  rcases List.mem_append.1 hvisit with hold | hnew
  · exact hpast visit hold
  · obtain rfl := List.mem_singleton.1 hnew
    exact hmeets

/-- If every call of a run puts in what it owes and no more, then the transfers from before are at
the front of the outbox, as they were put in. -/
theorem prefix_queued_of_meets {c : Contract} {calls : List Call}
    (h : ∀ visit ∈ c.visits calls,
      visit.1.outbox.Meets (visit.1.owed visit.2) (visit.1.step visit.2).after.outbox) :
    c.outbox.queued <+: (c.run calls).outbox.queued := by
  induction calls generalizing c with
  | nil => exact List.prefix_rfl
  | cons call calls ih =>
    have hfirst := (h (c, call) List.mem_cons_self).prefix_queued
    have hrest := ih fun visit hvisit => h visit (List.mem_cons_of_mem _ hvisit)
    exact hfirst.trans hrest

/-- **No payment is lost, merged or altered**: in a run of calls by accounts whose names can be
encoded, in any order with reports on transfers, if there is no collision, every call that owes an
amount puts one pending transfer of it in at the end of the outbox, and no other call puts one in;
no transfer is ever taken out, moved or changed but in its standing; and the transfers to every
account are numbered from one to its last number. -/
theorem payments_queued_once (config : Config) (gov oracleId : Text) {calls : List Call}
    (hnamed : ∀ call ∈ calls, call.isNamed = true)
    (hfree : CollisionFree ((make config gov oracleId).transferIds calls)) :
    (∀ visit ∈ (make config gov oracleId).visits calls,
      visit.1.outbox.Meets (visit.1.owed visit.2) (visit.1.step visit.2).after.outbox) ∧
    (∀ first rest, calls = first ++ rest →
      ((make config gov oracleId).run first).outbox.queued <+:
        ((make config gov oracleId).run calls).outbox.queued) ∧
    ∀ account, ∃ k : Nat,
      ((make config gov oracleId).run calls).nonces.last account = .ok k ∧
      ((make config gov oracleId).run calls).outbox.numbersOf account =
        (List.range k).map fun (i : Nat) => (i : Int) + 1 := by
  obtain ⟨hqueued, hmeets⟩ := (queued_make config gov oracleId).run hnamed hfree
  refine ⟨hmeets, ?_, hqueued.counted⟩
  rintro first rest rfl
  have hrest : ∀ visit ∈ ((make config gov oracleId).run first).visits rest,
      visit.1.outbox.Meets (visit.1.owed visit.2) (visit.1.step visit.2).after.outbox :=
    fun visit hvisit => hmeets visit (visits_append _ first rest ▸ List.mem_append_right _ hvisit)
  rw [run_append]
  exact prefix_queued_of_meets hrest

/-- Two sales that are paid for, and the report that the first payment failed. -/
def queueCalls : List Call :=
  saleCalls ++
    [.ask "b" (.trade (.int 0) (.sell (.int 10) (.int 0) (.int 100)) 4),
      .reportFailure ((TransferId.key ⟨some 0, "b", "sell", 1⟩).toOption.getD []) (.text "full")]

/-- After these calls, the two payments stand in the outbox in order, the first as failed. -/
theorem payments_queued_once_after_sales :
    ∃ config, (∀ call ∈ queueCalls, call.isNamed = true) ∧
      CollisionFree ((make config "g" "o").transferIds queueCalls) ∧
      (((make config "g" "o").run queueCalls).outbox.transfers.map fun t =>
        (t.amount, t.id.nonce, t.status)) = [(19, 1, .failed), (9, 2, .pending)] ∧
      (∀ visit ∈ (make config "g" "o").visits queueCalls,
        visit.1.outbox.Meets (visit.1.owed visit.2) (visit.1.step visit.2).after.outbox) ∧
      ∃ k : Nat, ((make config "g" "o").run queueCalls).nonces.last "b" = .ok k ∧
        ((make config "g" "o").run queueCalls).outbox.numbersOf "b" =
          (List.range k).map fun (i : Nat) => (i : Int) + 1 := by
  let config : Config :=
    { whitelist := Table.ofList [("T", 0)], validityBond := 0, maxSwapFee := 100 }
  have hnamed : ∀ call ∈ queueCalls, call.isNamed = true := by decide
  have hids : (make config "g" "o").transferIds queueCalls =
      [⟨some 0, "b", "sell", 1⟩, ⟨some 0, "b", "sell", 2⟩] := by
    decide +kernel
  have hfree : CollisionFree ((make config "g" "o").transferIds queueCalls) := by
    rw [hids]
    exact collisionFree_of_nodup (by decide +kernel)
  obtain ⟨hmeets, -, hnumbers⟩ := payments_queued_once config "g" "o" hnamed hfree
  exact ⟨config, hnamed, hfree, by decide +kernel, hmeets, hnumbers "b"⟩

end Contract

end PredictionMarket
