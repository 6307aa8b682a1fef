import PredictionMarket.Proofs.Contract.Conservation
import PredictionMarket.Proofs.Contract.Lifecycle
import PredictionMarket.Proofs.Pool.Drain

/-!
# Claims drain a resolved market

A market whose resolution is final always pays: the resolution has a payout vector, no payment to an
account whose name can be encoded fails, and a claim is turned down only where there is nothing to
pay. So the claims on a market of a contract are those on its pool, one for one, and when all
accounts that hold something have claimed, the market has paid for all complete sets that were in
it, up to two units of collateral per account.
-/

namespace PredictionMarket

/-! ## What holds of all markets -/

/-- The pool of a market, and its resolution. -/
structure Market.Sound (m : Market) : Prop where
  /-- The pool is well formed. -/
  wellFormed : m.pool.WellFormed
  /-- The ledgers of the pool agree. -/
  ledgered : m.pool.Ledgered
  /-- There is one tag for each outcome. -/
  tags : m.tags.length = m.pool.outcomes
  /-- There is room for a vector. -/
  room : (m.pool.outcomes : Int) ≤ mostItems
  /-- A resolution that is final has a vector. -/
  pays : m.finalized = true → m.numerator.Pays m.pool.outcomes m.pool.denomination

namespace Contract

/-- A new market is sound. -/
theorem sound_newMarket {c : Contract} {sender : Text} {terms : MarketTerms} {now decimals : Int}
    {m : Market} (hterms : c.checkTerms terms now = .ok decimals)
    (hmade : c.newMarket sender terms decimals = .ok m) : m.Sound := by
  obtain ⟨pool, hpool, rfl⟩ := newMarket_ok hmade
  have houtcomes := Pool.outcomes_eq_of_make hpool
  obtain ⟨-, hroom, -⟩ := Pool.make_ok hpool
  obtain ⟨htags, -⟩ := checkTerms_ok hterms
  exact {
    wellFormed := Pool.wellFormed_make hpool
    ledgered := Pool.ledgered_make hpool
    tags := by
      dsimp only
      omega
    room := houtcomes ▸ hroom
    pays := nofun }

end Contract

namespace Market

/-- A sound market stays sound with another pool on the same terms. -/
theorem Sound.withPool {m : Market} (h : m.Sound) {pool : Pool} (hterms : m.pool.SameTerms pool)
    (hwellFormed : pool.WellFormed) (hledgered : pool.Ledgered) : { m with pool }.Sound where
  wellFormed := hwellFormed
  ledgered := hledgered
  tags := h.tags.trans hterms.outcomes.symm
  room := hterms.outcomes ▸ h.room
  pays := fun hfinal => by
    dsimp only
    rw [hterms.outcomes, hterms.denomination]
    exact h.pays hfinal

/-- A sound market stays sound when it is resolved by a numerator that has a vector. -/
theorem Sound.finalize {m : Market} (h : m.Sound) {numerator : Numerator}
    (hpays : numerator.Pays m.pool.outcomes m.pool.denomination) : (m.finalize numerator).Sound :=
  ⟨h.wellFormed, h.ledgered, h.tags, h.room, fun _ => hpays⟩

/-- A ruling has a vector. -/
theorem Sound.ruling {m : Market} (h : m.Sound) {vector : Option (List Value)}
    {numerator : Numerator} (hruling : m.ruling vector = .ok numerator) :
    numerator.Pays m.pool.outcomes m.pool.denomination := by
  cases vector with
  | none =>
    cases hruling
    have htwo := h.wellFormed.two_le_outcomes
    exact Numerator.pays_invalid (by omega) h.room _
  | some values =>
    simp only [Market.ruling, bind_eq_ok, mapError_eq_ok] at hruling
    obtain ⟨vector, hchecked, hvector⟩ := hruling
    obtain ⟨rfl, -⟩ := Numerator.ofVector_ok hvector
    exact ⟨vector, Numerator.vector_valid_eq_ok (Numerator.checkVector_ok hchecked)⟩

/-- What an answer leads to has a vector. -/
theorem Sound.resolve {m : Market} (h : m.Sound) {answer : Answer} {numerator : Numerator}
    (hresolve : m.resolve answer = .ok numerator) :
    numerator.Pays m.pool.outcomes m.pool.denomination := by
  have htwo := h.wellFormed.two_le_outcomes
  rw [Market.resolve, mapError_eq_ok] at hresolve
  rw [← h.tags]
  exact Resolution.resolve_ok (by rw [h.tags]; omega) (by rw [h.tags]; exact h.room) hresolve

/-- A sound market that moves on stays sound. -/
theorem Sound.evolves {m after : Market} {sender : Text} {action : Action} (h : m.Sound)
    (hevolves : m.Evolves sender action after) : after.Sound := by
  cases hevolves with
  | switched _ => exact ⟨h.wellFormed, h.ledgered, h.tags, h.room, h.pays⟩
  | traded _ htrade =>
    obtain ⟨-, pool, htraded, rfl⟩ := trade_ok htrade
    exact h.withPool htraded.sameTerms (htraded.wellFormed h.wellFormed)
      (htraded.ledgered h.ledgered)
  | ruled hrule =>
    obtain ⟨-, -, hruling, rfl⟩ := rule_ok hrule
    exact h.finalize (h.ruling hruling)
  | @answered _ _ _ answer _ stored _ _ _ hrecord hfinalize =>
    have hstored : stored.Sound := by
      obtain ⟨-, -, -, rfl⟩ := recordAnswer_ok hrecord
      exact ⟨h.wellFormed, h.ledgered, h.tags, h.room, h.pays⟩
    obtain ⟨-, -, -, ⟨_, -, hresolve⟩, rfl⟩ := finalizeFromOracle_ok hfinalize
    exact hstored.finalize (hstored.resolve hresolve)
  | claimed hclaim =>
    obtain ⟨-, pool, hsettled, rfl⟩ := claim_ok hclaim
    exact h.withPool hsettled.sameTerms (hsettled.wellFormed h.wellFormed)
      (hsettled.ledgered h.ledgered)

end Market

namespace Contract

/-! ## States without a claim -/

/-- A contract that holds complete sets of each market of which nothing was claimed: there are as
many units of each outcome. -/
def Whole (c : Contract) : Prop :=
  ∀ m ∈ c.arena.markets, c.settlements m.id = [] →
    ∃ sets, ∀ o < m.pool.outcomes, m.pool.units o = sets

/-- What an action does keeps the sets of markets complete, as long as nothing is claimed. -/
theorem Effect.whole {c : Contract} {sender : Text} {action : Action} {plan : Plan}
    (h : c.Effect sender action plan) (hc : c.Whole)
    (hwellFormed : ∀ m ∈ c.arena.markets, m.pool.WellFormed) : plan.after.Whole := by
  intro m hm hunclaimed
  cases h with
  | none _ hmarkets hhistory _ =>
    rw [hhistory.settlements] at hunclaimed
    exact hc m (hmarkets ▸ hm) hunclaimed
  | created _ hmade _ hmarkets hhistory _ =>
    rw [hhistory.settlements] at hunclaimed
    rcases List.mem_append.1 (hmarkets ▸ hm) with hold | hnew
    · exact hc m hold hunclaimed
    · rw [List.mem_singleton.1 hnew]
      exact ⟨0, fun o _ => Pool.units_make hmade o⟩
  | revised changed _ hfound hpool hid _ hmarkets hhistory _ =>
    rw [hhistory.settlements] at hunclaimed
    rcases List.mem_or_eq_of_mem_set (hmarkets ▸ hm) with hold | rfl
    · exact hc m hold hunclaimed
    · rw [hid] at hunclaimed
      rw [hpool]
      exact hc _ (List.mem_of_getElem? hfound) hunclaimed
  | @traded _ _ _ _ _ _ _ r hfound htrade _ hmarkets _ hsettlements _ =>
    rw [hsettlements] at hunclaimed
    rcases List.mem_or_eq_of_mem_set (hmarkets ▸ hm) with hold | rfl
    · exact hc m hold hunclaimed
    · have hbefore := List.mem_of_getElem? hfound
      obtain ⟨-, pool, htraded, rfl⟩ := Market.trade_ok htrade
      obtain ⟨sets, hsets⟩ := hc _ hbefore hunclaimed
      refine ⟨sets + r.issued, fun o ho => ?_⟩
      have ho := htraded.sameTerms.outcomes ▸ ho
      dsimp only
      rw [htraded.units_eq (hwellFormed _ hbefore) ho, hsets o ho]
  | claimed hfound hclaim hmarkets _ hsettlements _ =>
    rw [hsettlements] at hunclaimed
    obtain ⟨hunclaimed, hother⟩ := List.append_eq_nil_iff.1 hunclaimed
    rcases List.mem_or_eq_of_mem_set (hmarkets ▸ hm) with hold | rfl
    · exact hc m hold hunclaimed
    · obtain ⟨-, pool, -, rfl⟩ := Market.claim_ok hclaim
      rw [if_pos rfl] at hother
      cases hother

/-- States with the same markets and history are whole alike. -/
theorem Whole.same {c after : Contract} (h : c.Whole)
    (hmarkets : after.arena.markets = c.arena.markets) (hhistory : c.SameHistory after) :
    after.Whole := by
  intro m hm hunclaimed
  rw [hhistory.settlements] at hunclaimed
  exact h m (hmarkets ▸ hm) hunclaimed

/-- An action, paid or not, keeps the sets of markets complete. -/
theorem Answered.whole {c after : Contract} {sender : Text} {action : Action} {reply : Option Reply}
    (h : c.Answered sender action after reply) (hc : c.Whole)
    (hwellFormed : ∀ m ∈ c.arena.markets, m.pool.WellFormed) : after.Whole := by
  cases h with
  | rejected _ => exact hc
  | free hplan _ _ | halted hplan _ _ => exact (plan_ok hplan).effect.whole hc hwellFormed
  | paid hplan _ hpays | failed hplan _ hpays =>
    have hplanned := (plan_ok hplan).effect.whole hc hwellFormed
    exact hplanned.same (congrArg Arena.markets hpays.arena) hpays.history

/-- In every state that can be reached, all markets are sound. -/
theorem Reachable.sound {c : Contract} (hc : c.Reachable) : ∀ m ∈ c.arena.markets, m.Sound :=
  hc.markets sound_newMarket fun hm hevolves => hm.evolves hevolves

/-- In every state that can be reached, the journal accounts for the markets. -/
theorem Reachable.accounted {c : Contract} (hc : c.Reachable) : c.Accounted :=
  hc.induct_answered accounted_make
    (fun hbefore hsame => hbefore.same (congrArg Arena.markets hsame.arena) hsame.history)
    fun _ hbefore hanswered => hanswered.accounted hbefore

/-- In every state that can be reached, the sets of markets of which nothing was claimed are
complete. -/
theorem Reachable.whole {c : Contract} (hc : c.Reachable) : c.Whole :=
  hc.induct_answered (fun _ _ _ => by simp [make, Whole])
    (fun hbefore hsame => hbefore.same (congrArg Arena.markets hsame.arena) hsame.history)
    fun hc hbefore hanswered => hanswered.whole hbefore fun m hm => (hc.sound m hm).wellFormed

/-! ## Claims -/

/-- A contract that is not stopped, with a final market in its place, whose transfers are
numbered. -/
structure Claimable (c : Contract) (n : Nat) (m : Market) : Prop where
  /-- The contract is not stopped. -/
  running : c.paused = false
  /-- The market is there. -/
  found : c.arena.markets[n]? = some m
  /-- The market has the number of its place. -/
  numbered : m.id = n
  /-- The resolution is final. -/
  final : m.finalized = true
  /-- The transfers are numbered. -/
  transfers : ∃ ids, c.Numbered ids

/-- A market in a place is found by the number of the place. -/
theorem market_eq_ok {c : Contract} {n : Nat} {m : Market}
    (h : c.arena.markets[n]? = some m) : c.market (.int n) = .ok m := by
  obtain ⟨hn, -⟩ := List.getElem?_eq_some_iff.1 h
  have hslot : c.arena.slot (.int n) = .ok n := by
    have hrange : 0 ≤ (n : Int) ∧ (n : Int) < c.arena.nextId := by
      unfold Arena.nextId
      omega
    rw [Arena.slot, if_pos hrange, Int.toNat_natCast]
  rw [market, Arena.get, hslot, ok_bind, h]
  rfl

/-- In a state that can be reached, a final market can be claimed on unless the contract is stopped. -/
theorem Reachable.claimable {c : Contract} (hc : c.Reachable) (hrunning : c.paused = false)
    {n : Nat} {m : Market} (hfound : c.arena.markets[n]? = some m) (hfinal : m.finalized = true) :
    c.Claimable n m :=
  ⟨hrunning, hfound, hc.accounted.numbered n m hfound, hfinal, hc.numbered⟩

/-- A claim that the pool turns down is turned down. -/
theorem Claimable.plan_of_refused {c : Contract} {n : Nat} {m : Market} (h : c.Claimable n m)
    {account : Text} {e : PoolError} (hpayout : m.pool.payout account m.numerator = .error e) :
    c.plan account (.claim (.int n)) = .error (.market (.pool e)) := by
  simp only [plan, Contract.claim, checkRunning, h.running, market_eq_ok h.found, Market.claim,
    h.final, hpayout, refuseIf_bind, ok_bind]
  rfl

/-- A claim that the pool pays leads to a payment to the account. -/
theorem Claimable.plan_of_paid {c : Contract} {n : Nat} {m : Market} (h : c.Claimable n m)
    {account : Text} {pool : Pool} {s : Settlement}
    (hpayout : m.pool.payout account m.numerator = .ok (pool, s)) :
    ∃ plan p, c.plan account (.claim (.int n)) = .ok plan ∧ plan.payment = some p ∧
      p.receiver = account ∧ plan.reply = .settled s ∧ plan.after.paused = false ∧
      plan.after.arena.markets = c.arena.markets.set n { m with pool } := by
  simp only [plan, Contract.claim, checkRunning, h.running, market_eq_ok h.found, Market.claim,
    h.final, hpayout, refuseIf_bind, ok_bind]
  refine ⟨_, _, rfl, rfl, rfl, rfl, h.running, ?_⟩
  rw [← Int.toNat_natCast n, ← h.numbered]
  rfl

/-- A payment does not stop a contract. -/
theorem Pays.paused {c after : Contract} {p : Payment} {success : Bool}
    (h : c.Pays p after success) : after.paused = c.paused := by
  cases h <;> rfl

/-- An action that can be planned stops a contract if its plan does. -/
theorem paused_ask {c : Contract} {sender : Text} {action : Action} {plan : Plan}
    (h : c.plan sender action = .ok plan) :
    (c.ask sender action).after.paused = plan.after.paused := by
  rcases after_ask h with hafter | ⟨_, _, hpays⟩
  · rw [hafter]
  · exact hpays.paused

/-- A claim that the pool pays is paid by the contract. -/
theorem Claimable.paid {c : Contract} {n : Nat} {m : Market} (h : c.Claimable n m)
    {account : Text} (hnamed : account.hasSurrogate = false) {pool : Pool} {s : Settlement}
    (hpayout : m.pool.payout account m.numerator = .ok (pool, s)) :
    (c.ask account (.claim (.int n))).result = .ok (.settled s) ∧
      (c.ask account (.claim (.int n))).after.Claimable n { m with pool } := by
  obtain ⟨ids, hids⟩ := h.transfers
  obtain ⟨planned, p, hplan, hpayment, hreceiver, hreply, hrunning, hmarkets⟩ :=
    h.plan_of_paid hpayout
  have hlength : n < c.arena.markets.length := (List.getElem?_eq_some_iff.1 h.found).1
  refine ⟨(hids.result_eq_ok_iff hplan).2 ⟨hreply.symm, rfl, fun q hq _ => ?_⟩,
    (paused_ask hplan).trans hrunning, ?_, h.numbered, h.final,
    (ask_cases c account (.claim (.int n))).numbered hids⟩
  · obtain rfl := Option.some.inj (hpayment.symm.trans hq)
    rw [hreceiver]
    exact hnamed
  · rw [arena_ask hplan, hmarkets, List.getElem?_set_self hlength]

/-- A claim that the pool turns down leaves everything as it is. -/
theorem Claimable.refused {c : Contract} {n : Nat} {m : Market} (h : c.Claimable n m)
    {account : Text} {e : PoolError} (hpayout : m.pool.payout account m.numerator = .error e) :
    (c.ask account (.claim (.int n))).result = .error (.market (.pool e)) ∧
      (c.ask account (.claim (.int n))).after = c :=
  ask_of_refused (h.plan_of_refused hpayout)

/-- The claims of some accounts on a market, one after another. -/
def claimCalls (marketId : Int) (order : List Text) : List Call :=
  order.map fun account => .ask account (.claim (.int marketId))

/-- Whether a claim is paid, or refused because there is nothing to pay. -/
def ClaimAnswered (result : Except ContractError Reply) : Prop :=
  (∃ s, result = .ok (.settled s)) ∨ ∃ e, result = .error e ∧ e.kind = .refusal .noPayout

end Contract

/-- What a deed pays for shares, if it is a claim. -/
def Deed.sharePayout : Deed → Int
  | ⟨_, _, .settled s⟩ => s.sharePayout
  | _ => 0

namespace Contract

/-- The deeds of a run are that of the first call, and those of the others. -/
theorem deeds_cons (c : Contract) (call : Call) (calls : List Call) :
    c.deeds (call :: calls) = (c.deed? call).toList ++ (c.step call).after.deeds calls := by
  rw [deeds, visits, deedsOf, List.filterMap_cons]
  cases hdeed : c.deed? call <;> simp only [hdeed] <;> rfl

/-- The claims on a final market are those on its pool: each is paid, or refused because there is
nothing to pay, and they pay as much for shares. -/
theorem Claimable.claims {c : Contract} {n : Nat} {m : Market} (h : c.Claimable n m)
    (hwellFormed : m.pool.WellFormed) (hledgered : m.pool.Ledgered) {vector : List Int}
    (hvector : m.numerator.vector m.pool.outcomes m.pool.denomination = .ok vector)
    {order : List Text} (hnamed : ∀ account ∈ order, account.hasSurrogate = false) :
    (∀ visit ∈ c.visits (claimCalls n order), ClaimAnswered (visit.1.step visit.2).result) ∧
      ((c.deeds (claimCalls n order)).map Deed.sharePayout).sum =
        ((m.pool.run (Pool.claims m.numerator order)).2.map PoolReceipt.sharePayout).sum := by
  induction order generalizing c m with
  | nil => exact ⟨by simp [claimCalls, visits], rfl⟩
  | cons account order ih =>
    have hrest : ∀ a ∈ order, a.hasSurrogate = false :=
      fun a ha => hnamed a (List.mem_cons_of_mem _ ha)
    have hcalls : claimCalls n (account :: order) =
        .ask account (.claim (.int n)) :: claimCalls n order := rfl
    have hclaims : Pool.claims m.numerator (account :: order) =
        .payout account m.numerator :: Pool.claims m.numerator order := rfl
    rw [hcalls, hclaims, visits, deeds_cons, Pool.run]
    rcases Pool.payout_cases hwellFormed hledgered hvector account with
      ⟨pool, s, hpayout, -⟩ | ⟨hpayout, -⟩
    · obtain ⟨hresult, hafter⟩ := h.paid (hnamed account List.mem_cons_self) hpayout
      have hsettled := Pool.payout_ok hpayout
      have hterms := hsettled.sameTerms
      obtain ⟨hanswered, hsum⟩ := ih hafter (hsettled.wellFormed hwellFormed)
        (hsettled.ledgered hledgered)
        (by rw [hterms.outcomes, hterms.denomination]; exact hvector) hrest
      have hcall : m.pool.call (.payout account m.numerator) = .ok (pool, .settled s) := by
        rw [Pool.call, hpayout]
        rfl
      have hdeed : c.deed? (.ask account (.claim (.int n))) =
          some ⟨account, .claim (.int n), .settled s⟩ := by
        rw [deed?_of_request rfl, hresult]
        rfl
      rw [hcall, hdeed]
      refine ⟨fun visit hvisit => ?_, ?_⟩
      · rcases List.mem_cons.1 hvisit with rfl | hlater
        · exact .inl ⟨s, hresult⟩
        · exact hanswered visit hlater
      · rw [Option.toList_some, List.singleton_append, List.map_cons, List.sum_cons,
          List.map_cons, List.sum_cons]
        exact congrArg (s.sharePayout + ·) hsum
    · obtain ⟨hresult, hafter⟩ := h.refused hpayout
      obtain ⟨hanswered, hsum⟩ := ih h hwellFormed hledgered hvector hrest
      have hcall : m.pool.call (.payout account m.numerator) =
          .error (.nothingToClaim account) := by
        rw [Pool.call, hpayout]
        rfl
      have hdeed : c.deed? (.ask account (.claim (.int n))) = none := by
        rw [deed?_of_request rfl, hresult]
        rfl
      have hstep : (c.step (.ask account (.claim (.int n)))).after = c := hafter
      rw [hcall, hdeed, hstep]
      refine ⟨fun visit hvisit => ?_, hsum⟩
      rcases List.mem_cons.1 hvisit with rfl | hlater
      · exact .inr ⟨_, hresult, rfl⟩
      · exact hanswered visit hlater

/-- **Settlement drains the market**: once a market is final, and before the first claim, there are
as many units of each outcome in the reserve and with the accounts together. When all accounts that
hold pool tokens or shares have claimed once each, in any order, each claim is paid or refused
because there is nothing to pay, and all that is paid for shares is at most that number of units and
at least that number less two for each account. -/
theorem claims_drain_market {c : Contract} (hc : c.Reachable) (hrunning : c.paused = false)
    {m : Market} (hm : m ∈ c.arena.markets) (hfinal : m.finalized = true)
    (hunclaimed : c.settlements m.id = []) {order : List Text} (hnodup : order.Nodup)
    (hholders : ∀ account, account ∈ order ↔ m.pool.Holds account)
    (hnamed : ∀ account ∈ order, account.hasSurrogate = false) :
    ∃ complete,
      (∀ o < m.pool.outcomes, ∃ reserve, m.pool.reserves[o]? = some reserve ∧
        reserve + ∑ᶠ account, m.pool.shares.balance account o = complete) ∧
      (∀ visit ∈ c.visits (claimCalls m.id order), ClaimAnswered (visit.1.step visit.2).result) ∧
      ((c.deeds (claimCalls m.id order)).map Deed.sharePayout).sum ≤ complete ∧
      complete - 2 * order.length ≤
        ((c.deeds (claimCalls m.id order)).map Deed.sharePayout).sum := by
  have hsound := hc.sound m hm
  obtain ⟨vector, hvector⟩ := hsound.pays hfinal
  obtain ⟨complete, hunits⟩ := hc.whole m hm hunclaimed
  obtain ⟨n, hn, hget⟩ := List.mem_iff_getElem.1 hm
  have hfound : c.arena.markets[n]? = some m := by rw [List.getElem?_eq_getElem hn, hget]
  have hclaimable := hc.claimable hrunning hfound hfinal
  obtain ⟨hanswered, hsum⟩ :=
    hclaimable.claims hsound.wellFormed hsound.ledgered hvector hnamed
  obtain ⟨hmost, hleast⟩ := Pool.sharePayout_bounds hsound.wellFormed hsound.ledgered hvector
    hnodup (fun a ha => (hholders a).2 ha) hunits
  rw [hclaimable.numbered, hsum]
  refine ⟨complete, fun o ho => ?_, hanswered, hmost, hleast⟩
  have hlength : o < m.pool.reserves.length := by rwa [hsound.wellFormed.reserves_length]
  have hcomplete := hunits o ho
  rw [Pool.units, List.getD_eq_getElem _ _ hlength, Shares.supply_eq_finsum] at hcomplete
  exact ⟨_, List.getElem?_eq_getElem hlength, hcomplete⟩

/-- A market with a provider of liquidity and a buyer that is resolved in favour of the outcome that
was not bought. -/
def resolvedCalls : List Call :=
  saleCalls ++ [.ask "g" (.rule (.int 0) (some [.int 0, .int 1]) 10)]

/-- After these calls two accounts hold something. The buyer has nothing to claim, and the provider
is paid for all sets. -/
theorem claims_drain_market_of_two :
    ∃ c : Contract, c.Reachable ∧ c.paused = false ∧ ∃ m ∈ c.arena.markets,
      m.finalized = true ∧ c.settlements m.id = [] ∧
      (["b", "a"] : List Text).Nodup ∧
      (∀ account, account ∈ (["b", "a"] : List Text) ↔ m.pool.Holds account) ∧
      (∀ account ∈ (["b", "a"] : List Text), account.hasSurrogate = false) ∧
      (c.deeds (claimCalls 0 ["b", "a"])).map Deed.sharePayout = [129] ∧
      ∃ complete,
        (∀ o < m.pool.outcomes, ∃ reserve, m.pool.reserves[o]? = some reserve ∧
          reserve + ∑ᶠ account, m.pool.shares.balance account o = complete) ∧
        (∀ visit ∈ c.visits (claimCalls m.id ["b", "a"]),
          ClaimAnswered (visit.1.step visit.2).result) ∧
        ((c.deeds (claimCalls m.id ["b", "a"])).map Deed.sharePayout).sum ≤ complete ∧
        complete - 2 * (["b", "a"] : List Text).length ≤
          ((c.deeds (claimCalls m.id ["b", "a"])).map Deed.sharePayout).sum := by
  let config : Config :=
    { whitelist := Table.ofList [("T", 0)], validityBond := 0, maxSwapFee := 100 }
  have hreachable : ((make config "g" "o").run resolvedCalls).Reachable :=
    ⟨config, "g", "o", resolvedCalls, rfl⟩
  have hrunning : ((make config "g" "o").run resolvedCalls).paused = false := by decide +kernel
  have hmarkets : ((make config "g" "o").run resolvedCalls).arena.markets.map
      (fun m => (m.id, m.finalized, m.pool.holders)) = [(0, true, (["a", "b"] : List Text))] := by
    decide +kernel
  obtain ⟨m, hm, hmarket⟩ := List.mem_map.1 (hmarkets ▸ List.mem_singleton_self _)
  obtain ⟨hid, hfinal, hholders⟩ : m.id = 0 ∧ m.finalized = true ∧ m.pool.holders = ["a", "b"] := by
    simpa using hmarket
  have hunclaimed : (((make config "g" "o").run resolvedCalls).settlements m.id).length = 0 := by
    rw [hid]
    decide +kernel
  have hnodup : (["b", "a"] : List Text).Nodup := by decide
  have hholders : ∀ account, account ∈ (["b", "a"] : List Text) ↔ m.pool.Holds account := by
    intro account
    rw [← m.pool.mem_holders, hholders]
    exact (List.Perm.swap _ _ _).mem_iff
  have hnamed : ∀ account ∈ (["b", "a"] : List Text), account.hasSurrogate = false := by decide
  have hunclaimed := List.eq_nil_of_length_eq_zero hunclaimed
  exact ⟨_, hreachable, hrunning, m, hm, hfinal, hunclaimed, hnodup, hholders, hnamed,
    by decide +kernel,
    claims_drain_market hreachable hrunning hm hfinal hunclaimed hnodup hholders hnamed⟩

end Contract

end PredictionMarket
