import PredictionMarket.Contract.Snapshot
import PredictionMarket.Proofs.Contract.Numbering
import PredictionMarket.Proofs.Guard

/-!
# Contracts that cannot be told apart

Two states of a contract are twins if they differ at most in what no call can bring to light: the
journal, the requests to the oracle, the answers that it gave, and the numbers of the transfers to
accounts that can never be paid. Every call is answered alike by twins, and leaves twins behind.
-/

namespace PredictionMarket

/-! ## Lists -/

section Lists

variable {α β : Type} {R : α → β → Prop} {xs : List α} {ys : List β}

/-- Related items in one place of related lists give related lists. -/
theorem forall₂_set (h : List.Forall₂ R xs ys) (n : Nat) {a : α} {b : β} (hab : R a b) :
    List.Forall₂ R (xs.set n a) (ys.set n b) := by
  induction h generalizing n with
  | nil => exact .nil
  | cons hhead htail ih =>
    cases n with
    | zero => exact .cons hab htail
    | succ n => exact .cons hhead (ih n)

/-- A place in related lists holds related items, or nothing in both. -/
theorem forall₂_getElem? (h : List.Forall₂ R xs ys) (n : Nat) : Option.Rel R xs[n]? ys[n]? := by
  induction h generalizing n with
  | nil => exact .none
  | cons hhead _ ih =>
    cases n with
    | zero => exact .some hhead
    | succ n => exact ih n

/-- Computations on the items of two lists are the same if they are item by item. -/
theorem mapM_congr_forall₂ {ε γ : Type} {f : α → Except ε γ} {g : β → Except ε γ}
    (h : List.Forall₂ (fun a b => f a = g b) xs ys) : xs.mapM f = ys.mapM g := by
  induction h with
  | nil => rfl
  | cons hhead _ ih => rw [List.mapM_cons, List.mapM_cons, hhead, ih]

end Lists

/-! ## Markets -/

namespace Market

/-- Two markets that differ at most in the answer that the oracle gave. -/
def Twin (m twin : Market) : Prop :=
  ∃ answer, twin = { m with oracleAnswer := answer }

/-- Two markets that are twins, with the same result of a call. -/
def TwinResults {α : Type} (r twin : Market × α) : Prop :=
  r.1.Twin twin.1 ∧ r.2 = twin.2

/-- A market is its own twin. -/
theorem Twin.refl (m : Market) : m.Twin m :=
  ⟨m.oracleAnswer, rfl⟩

variable {m twin : Market}

/-- Twins trade alike. -/
theorem Twin.trade (h : m.Twin twin) (sender : Text) (t : Trade Int) (now : Int) :
    Agree TwinResults (m.trade sender t now) (twin.trade sender t now) := by
  obtain ⟨answer, rfl⟩ := h
  unfold Market.trade
  exact .bind_same _ fun _ => .bind_same _ fun _ => .ok ⟨⟨answer, rfl⟩, rfl⟩

/-- Twins are resolved alike by a ruling. -/
theorem Twin.rule (h : m.Twin twin) (vector : Option (List Value)) (now : Int) :
    Agree TwinResults (m.rule vector now) (twin.rule vector now) := by
  obtain ⟨answer, rfl⟩ := h
  unfold Market.rule
  exact .bind_same _ fun _ => .bind_same _ fun _ => .ok ⟨⟨answer, rfl⟩, rfl⟩

/-- An answer takes the place of an earlier one, so twins are the same when it is stored. -/
theorem Twin.recordAnswer (h : m.Twin twin) (answer : Answer) (now : Int) :
    twin.recordAnswer answer now = m.recordAnswer answer now := by
  obtain ⟨_, rfl⟩ := h
  rfl

/-- Twins pay an account alike. -/
theorem Twin.claim (h : m.Twin twin) (account : Text) :
    Agree TwinResults (m.claim account) (twin.claim account) := by
  obtain ⟨answer, rfl⟩ := h
  unfold Market.claim
  exact .bind_same _ fun _ => .bind_same _ fun _ => .ok ⟨⟨answer, rfl⟩, rfl⟩

/-- Twins have the same plain form. -/
theorem Twin.toValue (h : m.Twin twin) (now : Option Int) : m.toValue now = twin.toValue now := by
  obtain ⟨_, rfl⟩ := h
  rfl

/-- The same numerals stand in it. -/
theorem Twin.numerals (h : m.Twin twin) : m.numerals = twin.numerals := by
  obtain ⟨_, rfl⟩ := h
  rfl

end Market

/-! ## States -/

namespace Contract

/-- Two states that differ at most in what no call can bring to light. -/
structure Twin (c twin : Contract) : Prop where
  /-- They differ in their markets, numbers, journals and requests at most. -/
  eq_with : ∃ markets nonces journal requests,
    twin = { c with arena := ⟨markets⟩, nonces, journal, oracle := { c.oracle with requests } }
  /-- The markets are twins. -/
  markets : List.Forall₂ Market.Twin c.arena.markets twin.arena.markets
  /-- Each account has a last number in both. -/
  stored : ∀ account, ∃ k l, c.nonces.last account = .ok k ∧ twin.nonces.last account = .ok l
  /-- It is the same for every account whose name can be encoded. -/
  last : ∀ account, account.hasSurrogate = false →
    twin.nonces.last account = c.nonces.last account

end Contract

/-- Two plans with the same reply, the same payment and the same failure, which lead to twins. -/
structure Plan.Twin (plan twin : Plan) : Prop where
  /-- The reply is the same. -/
  reply : plan.reply = twin.reply
  /-- The payment is the same. -/
  payment : plan.payment = twin.payment
  /-- The failure is the same. -/
  failure : plan.failure = twin.failure
  /-- The states are twins. -/
  after : plan.after.Twin twin.after

/-- Two outcomes of which the caller is told the same, and which leave twins behind. -/
structure Outcome.Twin (o twin : Outcome) : Prop where
  /-- The result is the same. -/
  result : o.result = twin.result
  /-- The states are twins. -/
  after : o.after.Twin twin.after

namespace Contract

variable {c twin : Contract}

/-- Twins stay twins when their settings and their outboxes become the same. -/
theorem Twin.settings (h : c.Twin twin) (gov : Text) (paused : Bool) (whitelist : Table Text Int)
    (outbox : Outbox) :
    Twin { c with gov, paused, whitelist, outbox } { twin with gov, paused, whitelist, outbox } := by
  obtain ⟨markets, nonces, journal, requests, rfl⟩ := h.eq_with
  exact ⟨⟨markets, nonces, journal, requests, rfl⟩, h.markets, h.stored, h.last⟩

/-- Nothing depends on what the journals say. -/
theorem Twin.record (h : c.Twin twin) (marketId twinId : Option Int) (event twinEvent : Event) :
    (c.record marketId event).Twin (twin.record twinId twinEvent) := by
  obtain ⟨markets, nonces, journal, requests, rfl⟩ := h.eq_with
  exact ⟨⟨markets, nonces, _, requests, rfl⟩, h.markets, h.stored, h.last⟩

/-- Twins stay twins when twins are stored in them. -/
theorem Twin.store (h : c.Twin twin) {m n : Market} (hm : m.Twin n) :
    (c.store m).Twin (twin.store n) := by
  obtain ⟨markets, nonces, journal, requests, rfl⟩ := h.eq_with
  obtain ⟨answer, rfl⟩ := hm
  exact ⟨⟨_, nonces, journal, requests, rfl⟩, forall₂_set h.markets _ ⟨answer, rfl⟩, h.stored,
    h.last⟩

/-- Twins have as many markets. -/
theorem Twin.nextId (h : c.Twin twin) : twin.arena.nextId = c.arena.nextId :=
  congrArg Nat.cast h.markets.length_eq.symm

/-- A number leads to twins in twins. -/
theorem Twin.market (h : c.Twin twin) (marketId : Value) :
    Agree Market.Twin (c.market marketId) (twin.market marketId) := by
  have hslot : twin.arena.slot marketId = c.arena.slot marketId := by
    simp only [Arena.slot, h.nextId]
  unfold Contract.market Arena.get
  rw [hslot]
  refine .mapError _ (.bind_same _ fun n => ?_)
  have hrel := forall₂_getElem? h.markets n
  generalize c.arena.markets[n]? = found, twin.arena.markets[n]? = other at hrel ⊢
  cases hrel with
  | none => exact .error _
  | some hm => exact .ok hm

/-- Twins have the same settings. -/
theorem Twin.sameSettings (h : c.Twin twin) : c.SameSettings twin := by
  obtain ⟨_, _, _, _, rfl⟩ := h.eq_with
  exact ⟨_, _, _, _, _, rfl⟩

/-- Whether an oracle accepts a request does not depend on those it accepted before. -/
theorem accept_congr {oracle : Oracle} (requests : List DataRequest) (request : DataRequest) :
    Agree (fun after other : Oracle => ∃ requests, other = { after with requests })
      (oracle.accept request) ({ oracle with requests }.accept request) := by
  unfold Oracle.accept
  exact .bind_same _ fun _ => .ok ⟨requests ++ [request], rfl⟩

/-- Twins take the same new market in. -/
theorem Twin.push (h : c.Twin twin) (m : Market) :
    Agree (fun arena other : Arena => List.Forall₂ Market.Twin arena.markets other.markets)
      (c.arena.push m) (twin.arena.push m) := by
  unfold Arena.push
  rw [h.nextId]
  exact .bind_same _ fun _ => .ok (List.rel_append h.markets (.cons (.refl m) .nil))

/-! ## Plans -/

/-- Twins plan what governance asks for alike. -/
theorem Twin.setGov (h : c.Twin twin) (sender : Text) (account : Option Text) :
    Agree Plan.Twin (c.setGov sender account) (twin.setGov sender account) := by
  unfold Contract.setGov
  rw [h.sameSettings.checkGovernance]
  refine .bind_same _ fun _ => ?_
  obtain ⟨_, _, _, _, rfl⟩ := h.eq_with
  cases account with
  | none => exact .error _
  | some account =>
    exact .bind_same _ fun _ => .ok ⟨rfl, rfl, rfl, (h.settings account _ _ _).record _ _ _ _⟩

/-- Twins are stopped alike. -/
theorem Twin.pause (h : c.Twin twin) (sender : Text) :
    Agree Plan.Twin (c.pause sender) (twin.pause sender) := by
  unfold Contract.pause
  rw [h.sameSettings.checkGovernance]
  obtain ⟨_, _, _, _, rfl⟩ := h.eq_with
  exact .bind_same _ fun _ => .ok ⟨rfl, rfl, rfl, h.settings _ true _ _⟩

/-- Twins are restarted alike. -/
theorem Twin.unpause (h : c.Twin twin) (sender : Text) :
    Agree Plan.Twin (c.unpause sender) (twin.unpause sender) := by
  unfold Contract.unpause
  rw [h.sameSettings.checkGovernance]
  obtain ⟨_, _, _, _, rfl⟩ := h.eq_with
  exact .bind_same _ fun _ => .ok ⟨rfl, rfl, rfl, h.settings _ false _ _⟩

/-- Twins accept a collateral token alike. -/
theorem Twin.setCollateral (h : c.Twin twin) (sender : Text) (token : Option Text)
    (decimals : Value) :
    Agree Plan.Twin (c.setCollateral sender token decimals)
      (twin.setCollateral sender token decimals) := by
  unfold Contract.setCollateral
  rw [h.sameSettings.checkGovernance]
  refine .bind_same _ fun _ => ?_
  obtain ⟨_, _, _, _, rfl⟩ := h.eq_with
  cases token with
  | none => exact .error _
  | some token =>
    exact .bind_same _ fun _ => .bind_same _ fun d =>
      .ok ⟨rfl, rfl, rfl, h.settings _ _ (c.whitelist.insert token d) _⟩

/-- Twins accept a collateral token no longer alike. -/
theorem Twin.removeCollateral (h : c.Twin twin) (sender token : Text) :
    Agree Plan.Twin (c.removeCollateral sender token) (twin.removeCollateral sender token) := by
  unfold Contract.removeCollateral
  rw [h.sameSettings.checkGovernance]
  obtain ⟨_, _, _, _, rfl⟩ := h.eq_with
  exact .bind_same _ fun _ => .bind_same _ fun _ =>
    .ok ⟨rfl, rfl, rfl, h.settings _ _ (c.whitelist.erase token) _⟩

/-- Twins switch a market alike. -/
theorem Twin.switchMarket (h : c.Twin twin) (sender : Text) (marketId : Value) (enabled : Bool) :
    Agree Plan.Twin (c.switchMarket sender marketId enabled)
      (twin.switchMarket sender marketId enabled) := by
  unfold Contract.switchMarket
  rw [h.sameSettings.checkGovernance]
  refine .bind_same _ fun _ => .bind (h.market marketId) fun {m other} hm => ?_
  obtain ⟨answer, rfl⟩ := hm
  exact .ok ⟨rfl, rfl, rfl, (h.store ⟨answer, rfl⟩).record _ _ _ _⟩

/-- Twins create a market alike. -/
theorem Twin.createMarket (h : c.Twin twin) (sender : Text) (terms : MarketTerms) (now : Int)
    (bond : Value) :
    Agree Plan.Twin (c.createMarket sender terms now bond)
      (twin.createMarket sender terms now bond) := by
  unfold Contract.createMarket
  simp only [h.sameSettings.newMarket h.nextId]
  obtain ⟨markets, nonces, journal, requests, rfl⟩ := h.eq_with
  refine .bind_same _ fun _ => .bind_same _ fun _ => .bind_same _ fun _ => .bind_same _ fun m =>
    .bind_same _ fun request => ?_
  refine .bind (.mapError _ (accept_congr requests request)) fun {oracle other} haccepted => ?_
  obtain ⟨requests, rfl⟩ := haccepted
  refine .bind (.mapError _ (h.push m)) fun {arena pushed} hmarkets => ?_
  have htwin : Twin { c with oracle, arena }
      { c with oracle := { oracle with requests }, arena := pushed, nonces, journal } :=
    ⟨⟨pushed.markets, nonces, journal, requests, rfl⟩, hmarkets, h.stored, h.last⟩
  exact .ok ⟨rfl, rfl, rfl, (htwin.record _ _ _ _).record _ _ _ _⟩

/-- Twins trade alike. -/
theorem Twin.trade (h : c.Twin twin) (sender : Text) (marketId : Value) (t : Trade Value)
    (now : Int) :
    Agree Plan.Twin (c.trade sender marketId t now) (twin.trade sender marketId t now) := by
  unfold Contract.trade
  rw [h.sameSettings.checkRunning]
  refine .bind_same _ fun _ => .bind_same _ fun checked => .bind (h.market marketId) fun {m n} hm =>
    ?_
  refine .bind (.mapError _ (hm.trade sender checked now)) fun {traded other} hresults => ?_
  obtain ⟨after, r⟩ := traded
  obtain ⟨hafter, rfl⟩ := hresults
  obtain ⟨_, rfl⟩ := hm
  exact .ok ⟨rfl, rfl, rfl, (h.store hafter).record _ _ _ _⟩

/-- Twins resolve a market alike by a ruling. -/
theorem Twin.rule (h : c.Twin twin) (sender : Text) (marketId : Value)
    (vector : Option (List Value)) (now : Int) :
    Agree Plan.Twin (c.rule sender marketId vector now)
      (twin.rule sender marketId vector now) := by
  unfold Contract.rule
  rw [h.sameSettings.checkGovernance]
  refine .bind_same _ fun _ => .bind (h.market marketId) fun {m n} hm => ?_
  refine .bind (.mapError _ (hm.rule vector now)) fun {ruled other} hresults => ?_
  obtain ⟨after, numerator⟩ := ruled
  obtain ⟨hafter, rfl⟩ := hresults
  exact .ok ⟨rfl, rfl, rfl, ((h.store hafter).record _ _ _ _).record _ _ _ _⟩

/-- Twins resolve a market alike by an answer. -/
theorem Twin.answer (h : c.Twin twin) (sender : Text) (marketId : Value) (given : GivenAnswer)
    (bondReturned : Value) (now : Int) :
    Agree Plan.Twin (c.answer sender marketId given bondReturned now)
      (twin.answer sender marketId given bondReturned now) := by
  unfold Contract.answer
  rw [h.sameSettings.checkOracle]
  refine .bind_same _ fun _ => .bind_same _ fun bond => .bind_same _ fun answer =>
    .bind (h.market marketId) fun {m n} hm => ?_
  rw [hm.recordAnswer]
  refine .bind_same _ fun stored => .bind_same _ fun (final, numerator) => ?_
  obtain ⟨_, rfl⟩ := hm
  have hstored := h.store (.refl final)
  have hrecorded := hstored.record (some m.id) (some m.id) (.answerRecorded answer)
    (.answerRecorded answer)
  rw [h.sameSettings.config]
  dsimp only
  split
  · exact .ok ⟨rfl, rfl, rfl, (hrecorded.record _ _ _ _).record _ _ _ _⟩
  · exact .ok ⟨rfl, rfl, rfl, hstored⟩

/-- Twins pay an account alike. -/
theorem Twin.claim (h : c.Twin twin) (sender : Text) (marketId : Value) :
    Agree Plan.Twin (c.claim sender marketId) (twin.claim sender marketId) := by
  unfold Contract.claim
  rw [h.sameSettings.checkRunning]
  refine .bind_same _ fun _ => .bind (h.market marketId) fun {m n} hm => ?_
  refine .bind (.mapError _ (hm.claim sender)) fun {claimed other} hresults => ?_
  obtain ⟨left, s⟩ := claimed
  obtain ⟨hleft, rfl⟩ := hresults
  obtain ⟨_, rfl⟩ := hm
  exact .ok ⟨rfl, rfl, rfl, (h.store hleft).record _ _ _ _⟩

/-- Twins plan every action alike. -/
theorem Twin.plan (h : c.Twin twin) (sender : Text) (action : Action) :
    Agree Plan.Twin (c.plan sender action) (twin.plan sender action) := by
  cases action with
  | setGov account => exact h.setGov sender account
  | pause => exact h.pause sender
  | unpause => exact h.unpause sender
  | setCollateral token decimals => exact h.setCollateral sender token decimals
  | removeCollateral token => exact h.removeCollateral sender token
  | switchMarket marketId enabled => exact h.switchMarket sender marketId enabled
  | createMarket terms bond now => exact h.createMarket sender terms now bond
  | trade marketId t now => exact h.trade sender marketId t now
  | rule marketId vector now => exact h.rule sender marketId vector now
  | answer marketId given bond now => exact h.answer sender marketId given bond now
  | claim marketId => exact h.claim sender marketId

/-! ## Payments -/

/-- Twins put a transfer into their outboxes alike. -/
theorem Twin.enqueue (h : c.Twin twin) (p : Payment) (nonce : Int) :
    Agree Twin (c.enqueue p nonce) (twin.enqueue p nonce) := by
  obtain ⟨_, _, _, _, rfl⟩ := h.eq_with
  rw [enqueue_eq, enqueue_eq]
  exact .bind_same _ fun (t, outbox) => .ok ((h.settings _ _ _ outbox).record _ _ _ _)

/-- Twins stay twins when the next number of an account is used in both, and is the same unless the
account can never be paid. -/
theorem Twin.next (h : c.Twin twin) {account : Text} {nonce twinNonce : Int}
    {nonces twinNonces : Nonces} (hnext : c.nonces.next account = .ok (nonce, nonces))
    (htwin : twin.nonces.next account = .ok (twinNonce, twinNonces)) :
    Twin { c with nonces } { twin with nonces := twinNonces } ∧
      (account.hasSurrogate = false → twinNonce = nonce) := by
  obtain ⟨last, hlast, hsucc, hafter⟩ := Nonces.next_ok hnext
  obtain ⟨twinLast, htwinLast, htwinSucc, htwinAfter⟩ := Nonces.next_ok htwin
  have hsame (hname : account.hasSurrogate = false) : twinNonce = nonce := by
    have hlasts := h.last account hname
    rw [hlast, htwinLast, Except.ok.injEq] at hlasts
    rw [hsucc, htwinSucc, hlasts]
  obtain ⟨markets, _, journal, requests, rfl⟩ := h.eq_with
  refine ⟨⟨⟨markets, twinNonces, journal, requests, rfl⟩, h.markets, fun other => ?_,
    fun other hname => ?_⟩, hsame⟩
  · rw [hafter, htwinAfter]
    split
    · exact ⟨nonce, twinNonce, rfl, rfl⟩
    · exact h.stored other
  · rw [hafter, htwinAfter]
    split
    · next hother => rw [hsame (hother ▸ hname)]
    · exact h.last other hname

/-- Twins pay alike, and with the same success. -/
theorem Twin.pay (h : c.Twin twin) (p : Payment) :
    (c.pay p).1.Twin (twin.pay p).1 ∧ (c.pay p).2 = (twin.pay p).2 := by
  by_cases hsmall : p.amount ≤ 0
  · rw [Contract.pay, Contract.pay, if_pos hsmall, if_pos hsmall]
    exact ⟨h, rfl⟩
  · have hpositive : 0 < p.amount := not_le.1 hsmall
    obtain ⟨k, l, hk, hl⟩ := h.stored p.receiver
    have hnext := Nonces.next_of_last hk
    have htwinNext := Nonces.next_of_last hl
    obtain ⟨hnumbered, hsame⟩ := h.next hnext htwinNext
    cases hname : p.receiver.hasSurrogate with
    | true =>
      rw [pay_of_refused hpositive hnext (enqueue_of_surrogate _ hpositive hname _),
        pay_of_refused hpositive htwinNext (enqueue_of_surrogate _ hpositive hname _)]
      exact ⟨hnumbered, rfl⟩
    | false =>
      obtain rfl : l = k := by linarith [hsame hname]
      have henqueue := hnumbered.enqueue p (l + 1)
      generalize hpaid : Contract.enqueue _ p (l + 1) = paid at henqueue
      generalize htwinPaid : Contract.enqueue _ p (l + 1) = twinPaid at henqueue
      cases henqueue with
      | error e =>
        rw [pay_of_refused hpositive hnext hpaid, pay_of_refused hpositive htwinNext htwinPaid]
        exact ⟨hnumbered, rfl⟩
      | ok htwins =>
        rw [pay_of_queued hpositive hnext hpaid, pay_of_queued hpositive htwinNext htwinPaid]
        exact ⟨htwins, rfl⟩

/-! ## Calls -/

/-- Plans that are twins are carried out alike. -/
theorem carryOut_twin {plan twin : Plan} (h : plan.Twin twin) :
    (carryOut plan).Twin (carryOut twin) := by
  unfold carryOut
  rw [← h.payment, ← h.failure]
  cases plan.failure with
  | some e => exact ⟨rfl, h.after⟩
  | none =>
    cases plan.payment with
    | none => exact ⟨congrArg Except.ok h.reply, h.after⟩
    | some p =>
      obtain ⟨hafter, hresult⟩ := h.after.pay p
      dsimp only
      generalize plan.after.pay p = paid at hafter hresult ⊢
      generalize twin.after.pay p = twinPaid at hafter hresult ⊢
      obtain ⟨after, result⟩ := paid
      obtain ⟨twinAfter, _⟩ := twinPaid
      obtain rfl := hresult
      cases result with
      | error e => exact ⟨rfl, hafter⟩
      | ok lines => exact ⟨congrArg Except.ok h.reply, hafter⟩

/-- What twins plan alike, they perform alike. -/
theorem Twin.perform (h : c.Twin twin) {planned twinPlanned : Except ContractError Plan}
    (hagree : Agree Plan.Twin planned twinPlanned) :
    (c.perform planned).Twin (twin.perform twinPlanned) := by
  cases hagree with
  | error e => exact ⟨rfl, h⟩
  | ok hplans => exact carryOut_twin hplans

/-- Logging a rejection changes neither. -/
theorem logRejection_twin {o twin : Outcome} (h : o.Twin twin) (operation : String) :
    (o.logRejection operation).Twin (twin.logRejection operation) := by
  constructor
  · rw [Outcome.result_logRejection, Outcome.result_logRejection]
    exact h.result
  · rw [Outcome.after_logRejection, Outcome.after_logRejection]
    exact h.after

/-- Twins do alike what an account asks for. -/
theorem Twin.ask (h : c.Twin twin) (sender : Text) (action : Action) :
    (c.ask sender action).Twin (twin.ask sender action) :=
  logRejection_twin (h.perform (h.plan sender action)) _

/-- A transfer leads to the same action in twins. -/
theorem Twin.route (h : c.Twin twin) (token amount message : Value) (now : Int) :
    twin.route token amount message now = c.route token amount message now := by
  have hcollateral (marketId : Int) :
      twin.checkCollateral marketId token = c.checkCollateral marketId token := by
    refine (Agree.eq ?_).symm
    unfold checkCollateral
    refine .bind (h.market _) fun {m n} hm => ?_
    obtain ⟨_, rfl⟩ := hm
    exact .refl _
  unfold Contract.route
  simp only [hcollateral]
  obtain ⟨_, _, _, _, rfl⟩ := h.eq_with
  rfl

/-- Twins take in a transfer alike. -/
theorem Twin.transfer (h : c.Twin twin) (sender : Text) (token amount message : Value)
    (now : Int) :
    (c.transfer sender token amount message now).Twin
      (twin.transfer sender token amount message now) := by
  unfold Contract.transfer
  rw [h.route]
  refine logRejection_twin ?_ _
  cases c.route token amount message now with
  | error e => exact ⟨rfl, h⟩
  | ok r =>
    have hask := h.ask sender r.action
    exact ⟨congrArg (Except.map fun _ => Reply.refund r.refund) hask.result, hask.after⟩

/-- Twins take a report of success alike. -/
theorem Twin.acknowledge (h : c.Twin twin) (key : Text) :
    Agree Plan.Twin (c.acknowledge key) (twin.acknowledge key) := by
  obtain ⟨_, _, _, _, rfl⟩ := h.eq_with
  unfold Contract.acknowledge
  refine .bind_same _ fun (t, outbox) => ?_
  exact .ok ⟨rfl, rfl, rfl, (h.settings _ _ _ outbox).record _ _ _ _⟩

/-- Twins take a report of failure alike. -/
theorem Twin.reportFailure (h : c.Twin twin) (key : Text) (reason : Value) :
    Agree Plan.Twin (c.reportFailure key reason) (twin.reportFailure key reason) := by
  obtain ⟨_, _, _, _, rfl⟩ := h.eq_with
  unfold Contract.reportFailure
  refine .bind_same _ fun (t, outbox) => ?_
  exact .ok ⟨rfl, rfl, rfl, (h.settings _ _ _ outbox).record _ _ _ _⟩

/-- **One call**: twins answer it alike, and stay twins. -/
theorem Twin.step (h : c.Twin twin) (call : Call) : (c.step call).Twin (twin.step call) := by
  cases call with
  | ask sender action => exact h.ask sender action
  | transfer sender token amount message now => exact h.transfer sender token amount message now
  | acknowledge key => exact logRejection_twin (h.perform (h.acknowledge key)) _
  | reportFailure key reason => exact logRejection_twin (h.perform (h.reportFailure key reason)) _

/-! ## Runs -/

/-- What a run tells: the result of each call, and the snapshot after it. -/
def responses (c : Contract) (calls : List Call) :
    List (Except ContractError Reply × Except SnapshotError Value) :=
  (c.visits calls).map fun (c, call) => ((c.step call).result, (c.step call).after.snapshot)

/-- Twins have the same snapshot. -/
theorem Twin.snapshot (h : c.Twin twin) : c.snapshot = twin.snapshot := by
  have hmarkets : c.arena.markets.mapM (fun m => m.toValue none) =
      twin.arena.markets.mapM fun m => m.toValue none :=
    mapM_congr_forall₂ (h.markets.imp fun _ _ hm => hm.toValue none)
  have hnumerals : c.arena.markets.map Market.numerals =
      twin.arena.markets.map Market.numerals := by
    rw [← List.forall₂_eq_eq_eq, List.forall₂_map_left_iff, List.forall₂_map_right_iff]
    exact h.markets.imp fun _ _ hm => hm.numerals
  rw [Contract.snapshot, Contract.snapshot, Contract.toValue, Contract.toValue, Contract.numerals,
    Contract.numerals, List.flatMap_def, List.flatMap_def, hmarkets, hnumerals]
  obtain ⟨_, _, _, _, rfl⟩ := h.eq_with
  rfl

/-- **All calls**: whatever calls follow, twins tell the same. -/
theorem Twin.responses (h : c.Twin twin) (calls : List Call) :
    c.responses calls = twin.responses calls := by
  induction calls generalizing c twin with
  | nil => rfl
  | cons call calls ih =>
    have hstep := h.step call
    have hrest := ih hstep.after
    simp only [Contract.responses, visits, List.map_cons, hstep.result, hstep.after.snapshot]
      at hrest ⊢
    rw [hrest]

end Contract

end PredictionMarket
