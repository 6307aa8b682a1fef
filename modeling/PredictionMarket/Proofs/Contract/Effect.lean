import PredictionMarket.Proofs.Contract.Granted
import PredictionMarket.Proofs.Market

/-!
# What an action does to the markets

Trades and settlements are read off the journal, market by market. An action that can be planned
has one of five effects on the markets and these histories: none, a new market, a change that leaves
the pool of one market alone, a trade, or a claim. Only the last two are told in the histories, and
they, with the return of a bond, are all that is paid for.
-/

namespace PredictionMarket

/-- The receipt in an entry of the journal, if it is about a trade in a market. -/
def JournalEntry.receipt? (marketId : Int) : JournalEntry → Option Receipt
  | ⟨some n, .traded _ r⟩ => if n = marketId then some r else none
  | _ => none

/-- The settlement in an entry of the journal, if it is about a claim on a market. -/
def JournalEntry.settlement? (marketId : Int) : JournalEntry → Option Settlement
  | ⟨some n, .earningsClaimed _ s⟩ => if n = marketId then some s else none
  | _ => none

/-- Whether an event is about something else than a trade or a claim. -/
def Event.isAside : Event → Bool
  | .traded _ _ => false
  | .earningsClaimed _ _ => false
  | _ => true

/-- An event about something else holds no receipt. -/
theorem JournalEntry.receipt?_eq_none {event : Event} (h : event.isAside = true)
    (concerned : Option Int) (marketId : Int) : receipt? marketId ⟨concerned, event⟩ = none := by
  cases concerned <;> cases event <;> first | rfl | cases h

/-- An event about something else holds no settlement. -/
theorem JournalEntry.settlement?_eq_none {event : Event} (h : event.isAside = true)
    (concerned : Option Int) (marketId : Int) :
    settlement? marketId ⟨concerned, event⟩ = none := by
  cases concerned <;> cases event <;> first | rfl | cases h

/-- Whether an action trades. -/
def Action.isTrade : Action → Bool
  | .trade _ _ _ => true
  | _ => false

namespace Contract

/-- The trades in a market so far. -/
def receipts (c : Contract) (marketId : Int) : List Receipt :=
  c.journal.filterMap (JournalEntry.receipt? marketId)

/-- The settlements of the accounts of a market so far. -/
def settlements (c : Contract) (marketId : Int) : List Settlement :=
  c.journal.filterMap (JournalEntry.settlement? marketId)

/-- An entry of the journal adds its receipt to the trades of its market. -/
theorem receipts_record (c : Contract) (concerned : Option Int) (event : Event) (marketId : Int) :
    (c.record concerned event).receipts marketId =
      c.receipts marketId ++ (JournalEntry.receipt? marketId ⟨concerned, event⟩).toList := by
  simp only [receipts, record, List.filterMap_append]
  cases h : JournalEntry.receipt? marketId ⟨concerned, event⟩ <;> simp [h]

/-- An entry of the journal adds its settlement to those of its market. -/
theorem settlements_record (c : Contract) (concerned : Option Int) (event : Event)
    (marketId : Int) :
    (c.record concerned event).settlements marketId =
      c.settlements marketId ++ (JournalEntry.settlement? marketId ⟨concerned, event⟩).toList := by
  simp only [settlements, record, List.filterMap_append]
  cases h : JournalEntry.settlement? marketId ⟨concerned, event⟩ <;> simp [h]

/-- Two states whose journals tell of the same trades and settlements. -/
structure SameHistory (c after : Contract) : Prop where
  /-- The trades are the same. -/
  receipts : ∀ marketId, after.receipts marketId = c.receipts marketId
  /-- The settlements are the same. -/
  settlements : ∀ marketId, after.settlements marketId = c.settlements marketId

/-- A state whose journal is the same has the same history. -/
theorem SameHistory.of_journal {c after : Contract} (h : after.journal = c.journal) :
    c.SameHistory after :=
  ⟨fun marketId => by unfold Contract.receipts; rw [h],
    fun marketId => by unfold Contract.settlements; rw [h]⟩

/-- An entry about something else leaves the history. -/
theorem SameHistory.record {c after : Contract} (h : c.SameHistory after)
    (concerned : Option Int) {event : Event} (haside : event.isAside = true) :
    c.SameHistory (after.record concerned event) := by
  constructor <;> intro marketId
  · rw [receipts_record, JournalEntry.receipt?_eq_none haside, h.receipts]
    exact List.append_nil _
  · rw [settlements_record, JournalEntry.settlement?_eq_none haside, h.settlements]
    exact List.append_nil _

/-- The effect of an action on the markets, with the payment that it leads to. -/
inductive Effect (c : Contract) (sender : Text) : Action → Plan → Prop
  /-- No market changes. -/
  | none {action : Action} {plan : Plan} (other : action.isTrade = false)
      (markets : plan.after.arena.markets = c.arena.markets) (history : c.SameHistory plan.after)
      (unpaid : plan.payment = .none) : Effect c sender action plan
  /-- A new market takes the next number. -/
  | created {action : Action} {plan : Plan} {m : Market} {outcomes decimals swapFee : Int}
      {token : Text} (other : action.isTrade = false)
      (made : Pool.make c.arena.nextId outcomes token decimals swapFee = .ok m.pool)
      (numbered : m.id = c.arena.nextId)
      (markets : plan.after.arena.markets = c.arena.markets ++ [m])
      (history : c.SameHistory plan.after) (unpaid : plan.payment = .none) :
      Effect c sender action plan
  /-- A market changes, but not in its pool nor in a resolution that is final. At most a bond is
  returned. -/
  | revised {action : Action} {plan : Plan} {n : Nat} {m : Market} (changed : Market)
      (other : action.isTrade = false) (found : c.arena.markets[n]? = some m)
      (pool : changed.pool = m.pool) (id : changed.id = m.id)
      (final : m.finalized = true → changed.finalized = true ∧ changed.numerator = m.numerator)
      (markets : plan.after.arena.markets = c.arena.markets.set m.id.toNat changed)
      (history : c.SameHistory plan.after)
      (bond : ∀ p, plan.payment = some p → p.kind = .validityBond) : Effect c sender action plan
  /-- An account trades in a market, and is paid what the trade owes. -/
  | traded {plan : Plan} {n : Nat} {m changed : Market} {t : Trade Value} {checked : Trade Int}
      {now : Int} {r : Receipt} (found : c.arena.markets[n]? = some m)
      (trade : m.trade sender checked now = .ok (changed, r)) (reply : plan.reply = .traded r)
      (markets : plan.after.arena.markets = c.arena.markets.set m.id.toNat changed)
      (receipts : ∀ marketId, plan.after.receipts marketId =
        c.receipts marketId ++ if m.id = marketId then [r] else [])
      (settlements : ∀ marketId, plan.after.settlements marketId = c.settlements marketId)
      (payment : plan.payment = r.owed.map fun (kind, amount) =>
        ⟨m.id, sender, .text m.pool.token, amount, kind⟩) :
      Effect c sender (.trade (.int n) t now) plan
  /-- An account is paid for what it holds in a market. -/
  | claimed {plan : Plan} {n : Nat} {m changed : Market} {s : Settlement}
      (found : c.arena.markets[n]? = some m) (claim : m.claim sender = .ok (changed, s))
      (markets : plan.after.arena.markets = c.arena.markets.set m.id.toNat changed)
      (receipts : ∀ marketId, plan.after.receipts marketId = c.receipts marketId)
      (settlements : ∀ marketId, plan.after.settlements marketId =
        c.settlements marketId ++ if m.id = marketId then [s] else [])
      (payment : plan.payment = some ⟨m.id, sender, .text m.pool.token, s.total, .claim⟩) :
      Effect c sender (.claim (.int n)) plan

/-- A plan for an action: its effect on the markets, while what is owed stays as it is until the
payment is made. -/
structure Planned (c : Contract) (sender : Text) (action : Action) (plan : Plan) : Prop where
  /-- The effect on the markets. -/
  effect : c.Effect sender action plan
  /-- Nothing is put into the outbox yet. -/
  outbox : plan.after.outbox = c.outbox
  /-- No transfer is numbered yet. -/
  nonces : plan.after.nonces = c.nonces

/-! ## Actions -/

/-- Recording a resolution leaves the history. -/
theorem SameHistory.recordFinal {c after : Contract} (h : c.SameHistory after) (m : Market)
    (source : RulingSource) : c.SameHistory (after.recordFinal m source) :=
  (h.record _ rfl).record _ rfl

/-- A market that is resolved by an answer was not final before and is final then, and keeps its
pool and its number. -/
theorem answered_market {m stored after : Market} {answer : Answer} {now : Int}
    {numerator : Numerator} (hrecord : m.recordAnswer answer now = .ok stored)
    (hfinalize : stored.finalizeFromOracle now = .ok (after, numerator)) :
    m.finalized = false ∧ after.finalized = true ∧ after.pool = m.pool ∧ after.id = m.id := by
  obtain ⟨hopen, -, -, rfl⟩ := Market.recordAnswer_ok hrecord
  obtain ⟨-, -, -, -, hfinal⟩ := Market.finalizeFromOracle_ok hfinalize
  rw [hfinal]
  exact ⟨hopen, rfl, rfl, rfl⟩

/-- Every action that is granted has one of the effects. -/
theorem Granted.planned {c : Contract} {sender : Text} {action : Action} {plan : Plan}
    (h : c.Granted sender action plan) : c.Planned sender action plan := by
  cases h with
  | @setGov account =>
    have hsame : c.SameHistory { c with gov := account } := .of_journal rfl
    exact ⟨.none rfl rfl (hsame.record _ rfl) rfl, rfl, rfl⟩
  | pause | unpause | setCollateral | removeCollateral =>
    exact ⟨.none rfl rfl (.of_journal rfl) rfl, rfl, rfl⟩
  | @switchMarket n m enabled _ _ hfound =>
    have hsame : c.SameHistory (c.store { m with enabled }) := .of_journal rfl
    refine ⟨.revised { m with enabled } rfl hfound rfl rfl (fun hfinal => ⟨hfinal, rfl⟩) rfl
      (hsame.record _ rfl) fun _ hp => ?_, rfl, rfl⟩
    cases hp
  | @createMarket _ _ _ _ m _ oracle _ _ _ _ hmade =>
    obtain ⟨_, hpool, rfl⟩ := newMarket_ok hmade
    have hsame (m : Market) : c.SameHistory { c with oracle, arena := ⟨c.arena.markets ++ [m]⟩ } :=
      .of_journal rfl
    exact ⟨.created rfl hpool rfl rfl (((hsame _).record _ rfl).record _ rfl) rfl, rfl, rfl⟩
  | @trade n m after _ _ _ r _ _ _ hfound htrade =>
    have hid : after.id = m.id := by
      obtain ⟨-, _, -, rfl⟩ := Market.trade_ok htrade
      rfl
    refine ⟨.traded hfound htrade rfl ?_ (fun marketId => ?_) (fun marketId => ?_) rfl, rfl, rfl⟩
    · rw [← hid]
      rfl
    · rw [receipts_record]
      by_cases hsame : m.id = marketId <;> simp [JournalEntry.receipt?, hsame] <;> rfl
    · rw [settlements_record]
      exact List.append_nil _
  | @rule n m _ _ _ numerator _ _ hfound hrule =>
    obtain ⟨hopen, -, -, rfl⟩ := Market.rule_ok hrule
    have hsame : c.SameHistory (c.store (m.finalize numerator)) := .of_journal rfl
    refine ⟨.revised (m.finalize numerator) rfl hfound rfl rfl (fun hfinal => ?_) rfl
      (hsame.recordFinal _ _) fun _ hp => ?_, rfl, rfl⟩
    · rw [hopen] at hfinal
      cases hfinal
    · cases hp
  | @answer n m _ after _ answer _ _ _ _ _ _ hfound hrecord hfinalize =>
    obtain ⟨hopen, -, hpool, hid⟩ := answered_market hrecord hfinalize
    have hsame : c.SameHistory (c.store after) := .of_journal rfl
    have hrecorded : c.SameHistory ((c.store after).record (some m.id) (.answerRecorded answer)) :=
      hsame.record _ rfl
    refine ⟨.revised after rfl hfound hpool hid (fun hwas => ?_) ?_ (hrecorded.recordFinal _ _)
      fun p hp => ?_, rfl, rfl⟩
    · rw [hopen] at hwas
      cases hwas
    · rw [← hid]
      rfl
    · cases hp
      rfl
  | @muteAnswer n m _ after _ _ _ _ _ _ _ hfound hrecord hfinalize =>
    obtain ⟨hopen, -, hpool, hid⟩ := answered_market hrecord hfinalize
    refine ⟨.revised after rfl hfound hpool hid (fun hwas => ?_) ?_ (.of_journal rfl)
      fun p hp => ?_, rfl, rfl⟩
    · rw [hopen] at hwas
      cases hwas
    · rw [← hid]
      rfl
    · cases hp
  | @claim n m after s _ _ hfound hclaim =>
    have hid : after.id = m.id := by
      obtain ⟨-, _, -, rfl⟩ := Market.claim_ok hclaim
      rfl
    refine ⟨.claimed hfound hclaim ?_ (fun marketId => ?_) (fun marketId => ?_) rfl, rfl, rfl⟩
    · rw [← hid]
      rfl
    · rw [receipts_record]
      exact List.append_nil _
    · rw [settlements_record]
      by_cases hsame : m.id = marketId <;> simp [JournalEntry.settlement?, hsame] <;> rfl

/-- Every action that can be planned has one of the effects. -/
theorem plan_ok {c : Contract} {sender : Text} {action : Action} {plan : Plan}
    (h : c.plan sender action = .ok plan) : c.Planned sender action plan :=
  (granted_of_plan h).planned

end Contract

end PredictionMarket
