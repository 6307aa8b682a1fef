import PredictionMarket.Proofs.Contract.Frame
import PredictionMarket.Proofs.Contract.Twin

/-!
# Calls that do not interfere

What comes of a call that names a market depends on the settings of the contract and on this market
only. Whether it is paid for depends on the name of the account alone. A call that names another
market changes none of these, so the two calls may be made in either order.
-/

namespace PredictionMarket

namespace Contract

/-! ## Markets by their numbers -/

/-- A market is found exactly by the number of its place. -/
theorem market_eq_ok_iff {c : Contract} {k : Nat} {m : Market} :
    c.market (.int k) = .ok m ↔ c.arena.markets[k]? = some m := by
  constructor
  · intro h
    obtain ⟨n, hn, hfound⟩ := market_ok h
    obtain rfl : k = n := by exact_mod_cast Value.int.inj hn
    exact hfound
  · exact market_eq_ok

/-- A market that is not found does not exist. -/
theorem market_error {c : Contract} {marketId : Value} {e : ContractError}
    (h : c.market marketId = .error e) : e = .arena (.notFound marketId) := by
  unfold market Arena.get at h
  cases hslot : c.arena.slot marketId with
  | error cause =>
    rw [hslot] at h
    cases h
    unfold Arena.slot at hslot
    split at hslot
    · split at hslot <;> cases hslot
      rfl
    · cases hslot
      rfl
  | ok n =>
    rw [hslot, ok_bind] at h
    split at h <;> cases h
    rfl

/-- States with the same markets have the same market under each number. -/
theorem market_of_arena {c other : Contract} (h : other.arena = c.arena) (marketId : Value) :
    other.market marketId = c.market marketId := by
  unfold market
  rw [h]

/-- A number leads to the same in two states if the place of this number holds the same. -/
theorem market_congr {c other : Contract} {n : Int}
    (h : ∀ k : Nat, n = k → other.arena.markets[k]? = c.arena.markets[k]?) :
    other.market (.int n) = c.market (.int n) := by
  cases hmarket : c.market (.int n) with
  | ok m =>
    obtain ⟨k, hk, hfound⟩ := market_ok hmarket
    obtain rfl := Value.int.inj hk
    rw [market_eq_ok_iff, h k rfl, hfound]
  | error e =>
    cases hother : other.market (.int n) with
    | ok m =>
      obtain ⟨k, hk, hfound⟩ := market_ok hother
      obtain rfl := Value.int.inj hk
      rw [h k rfl, ← market_eq_ok_iff, hmarket] at hfound
      cases hfound
    | error _ => rw [market_error hmarket, market_error hother]

/-- A place holds the same in two states if its number leads to the same. -/
theorem place_eq_of_market {c other : Contract} {k : Nat}
    (h : other.market (.int k) = c.market (.int k)) :
    other.arena.markets[k]? = c.arena.markets[k]? := by
  ext m
  rw [← market_eq_ok_iff, ← market_eq_ok_iff, h]

/-- A market that is stored in the place of another is found by its number. -/
theorem market_store {c : Contract} {n : Int} {m after : Market}
    (hfound : c.market (.int n) = .ok m) (hid : after.id = n) :
    (c.store after).market (.int n) = .ok after := by
  obtain ⟨k, hk, hplace⟩ := market_ok hfound
  obtain rfl := Value.int.inj hk
  rw [market_eq_ok_iff, getElem?_store hid hplace, if_pos rfl]

/-- A market that is taken in is found by the number of the next one. -/
theorem market_push {c : Contract} {n : Int} {m : Market} {markets : List Market}
    (hmarkets : c.arena.markets = markets ++ [m]) (hnext : (markets.length : Int) = n) :
    c.market (.int n) = .ok m := by
  obtain rfl := hnext
  rw [market_eq_ok_iff, hmarkets, List.getElem?_concat_length]

/-! ## Views -/

/-- Two states that are the same to a call that names one market. -/
structure SameView (c other : Contract) (n : Int) : Prop where
  /-- They have the same settings. -/
  settings : c.SameSettings other
  /-- They have the same market. -/
  market : other.market (.int n) = c.market (.int n)
  /-- It has the number that it is found by. -/
  numbered : ∀ m, c.market (.int n) = .ok m → m.id = n
  /-- If it is the next market, it is so in both. -/
  nextId : c.arena.nextId = n → other.arena.nextId = n

end Contract

/-- Two plans with the same reply, the same payment and the same failure, which lead to the same
market. -/
structure Plan.SameView (n : Int) (plan other : Plan) : Prop where
  /-- The reply is the same. -/
  reply : other.reply = plan.reply
  /-- The payment is the same. -/
  payment : other.payment = plan.payment
  /-- The failure is the same. -/
  failure : other.failure = plan.failure
  /-- The market is the same. -/
  market : other.after.market (.int n) = plan.after.market (.int n)

/-- Two outcomes of which the caller is told the same, and which leave the same market behind. -/
structure Outcome.SameView (n : Int) (o other : Outcome) : Prop where
  /-- The result is the same. -/
  result : other.result = o.result
  /-- The market is the same. -/
  market : other.after.market (.int n) = o.after.market (.int n)

namespace Contract

variable {c other : Contract} {n : Int}

/-- The same change of the market leads to the same market. -/
theorem SameView.store (h : c.SameView other n) {m after : Market}
    (hfound : c.market (.int n) = .ok m) (hid : after.id = m.id) :
    (other.store after).market (.int n) = (c.store after).market (.int n) := by
  have hnumber := hid.trans (h.numbered m hfound)
  rw [market_store (h.market.trans hfound) hnumber, market_store hfound hnumber]

/-! ## Actions -/

/-- The market is switched on or off alike. -/
theorem SameView.switchMarket (h : c.SameView other n) (sender : Text) (enabled : Bool) :
    Agree (Plan.SameView n) (c.switchMarket sender (.int n) enabled)
      (other.switchMarket sender (.int n) enabled) := by
  unfold Contract.switchMarket
  rw [h.settings.checkGovernance, h.market]
  exact .bind_same _ fun _ => .bind_of_ok _ fun m hm => .ok ⟨rfl, rfl, rfl, h.store hm rfl⟩

/-- A market with the next number is taken in. -/
theorem push_eq_ok {a : Arena} {m : Market} (h : m.id = a.nextId) :
    a.push m = .ok ⟨a.markets ++ [m]⟩ := by
  rw [Arena.push, refuseIf, if_neg (not_not.2 h)]
  rfl

/-- A new market has the next number. -/
theorem newMarket_id {c : Contract} {sender : Text} {terms : MarketTerms} {decimals : Int}
    {m : Market} (h : c.newMarket sender terms decimals = .ok m) : m.id = c.arena.nextId := by
  obtain ⟨_, -, rfl⟩ := newMarket_ok h
  rfl

/-- The next market is created alike. -/
theorem SameView.createMarket (h : c.SameView other c.arena.nextId) (sender : Text)
    (terms : MarketTerms) (now : Int) (bond : Value) :
    Agree (Plan.SameView c.arena.nextId) (c.createMarket sender terms now bond)
      (other.createMarket sender terms now bond) := by
  have hnext : other.arena.nextId = c.arena.nextId := h.nextId rfl
  unfold Contract.createMarket
  simp only [h.settings.newMarket hnext]
  obtain ⟨arena, outbox, nonces, journal, requests, rfl⟩ := h.settings
  refine .bind_same _ fun _ => .bind_same _ fun _ => .bind_same _ fun decimals =>
    .bind_of_ok _ fun m hm => .bind_same _ fun request => ?_
  refine .bind (.mapError _ (accept_congr requests request)) fun {oracle twin} haccepted => ?_
  have hid := newMarket_id hm
  rw [push_eq_ok hid, push_eq_ok (hid.trans hnext.symm)]
  exact .ok ⟨rfl, rfl, rfl, (market_push rfl hnext).trans (market_push rfl rfl).symm⟩

/-- The market is traded in alike. -/
theorem SameView.trade (h : c.SameView other n) (sender : Text) (t : Trade Value) (now : Int) :
    Agree (Plan.SameView n) (c.trade sender (.int n) t now)
      (other.trade sender (.int n) t now) := by
  unfold Contract.trade
  rw [h.settings.checkRunning, h.market]
  refine .bind_same _ fun _ => .bind_same _ fun checked => .bind_of_ok _ fun m hm =>
    .bind_of_ok _ fun (after, r) htrade => ?_
  rw [mapError_eq_ok] at htrade
  obtain ⟨-, _, -, rfl⟩ := Market.trade_ok htrade
  exact .ok ⟨rfl, rfl, rfl, h.store hm rfl⟩

/-- The market is resolved alike by a ruling. -/
theorem SameView.rule (h : c.SameView other n) (sender : Text) (vector : Option (List Value))
    (now : Int) :
    Agree (Plan.SameView n) (c.rule sender (.int n) vector now)
      (other.rule sender (.int n) vector now) := by
  unfold Contract.rule
  rw [h.settings.checkGovernance, h.market]
  refine .bind_same _ fun _ => .bind_of_ok _ fun m hm =>
    .bind_of_ok _ fun (final, numerator) hrule => ?_
  rw [mapError_eq_ok] at hrule
  obtain ⟨-, -, -, rfl⟩ := Market.rule_ok hrule
  exact .ok ⟨rfl, rfl, rfl, h.store hm rfl⟩

/-- The market is resolved alike by an answer. -/
theorem SameView.answer (h : c.SameView other n) (sender : Text) (given : GivenAnswer)
    (bondReturned : Value) (now : Int) :
    Agree (Plan.SameView n) (c.answer sender (.int n) given bondReturned now)
      (other.answer sender (.int n) given bondReturned now) := by
  unfold Contract.answer
  rw [h.settings.checkOracle, h.market, h.settings.config]
  refine .bind_same _ fun _ => .bind_same _ fun bond => .bind_same _ fun answer =>
    .bind_of_ok _ fun m hm => .bind_of_ok _ fun stored hrecord =>
    .bind_of_ok _ fun (final, numerator) hfinalize => ?_
  rw [mapError_eq_ok] at hrecord hfinalize
  obtain ⟨-, -, -, rfl⟩ := Market.recordAnswer_ok hrecord
  obtain ⟨-, -, -, -, rfl⟩ := Market.finalizeFromOracle_ok hfinalize
  dsimp only
  split
  · exact .ok ⟨rfl, rfl, rfl, h.store hm rfl⟩
  · exact .ok ⟨rfl, rfl, rfl, h.store hm rfl⟩

/-- The market is claimed on alike. -/
theorem SameView.claim (h : c.SameView other n) (sender : Text) :
    Agree (Plan.SameView n) (c.claim sender (.int n)) (other.claim sender (.int n)) := by
  unfold Contract.claim
  rw [h.settings.checkRunning, h.market]
  refine .bind_same _ fun _ => .bind_of_ok _ fun m hm => .bind_of_ok _ fun (left, s) hclaim => ?_
  rw [mapError_eq_ok] at hclaim
  obtain ⟨-, _, -, rfl⟩ := Market.claim_ok hclaim
  exact .ok ⟨rfl, rfl, rfl, h.store hm rfl⟩

/-- What an action asks for of the market that it names is planned alike. -/
theorem SameView.plan (h : c.SameView other n) (sender : Text) {action : Action}
    (hnamed : action.named? c.arena.nextId = some n) :
    Agree (Plan.SameView n) (c.plan sender action) (other.plan sender action) := by
  cases action with
  | setGov | pause | unpause | setCollateral | removeCollateral => cases hnamed
  | createMarket terms bond now =>
    obtain rfl := Option.some.inj hnamed
    exact h.createMarket sender terms now bond
  | switchMarket marketId enabled =>
    obtain rfl := Value.int?_eq_some.1 hnamed
    exact h.switchMarket sender enabled
  | trade marketId t now =>
    obtain rfl := Value.int?_eq_some.1 hnamed
    exact h.trade sender t now
  | rule marketId vector now =>
    obtain rfl := Value.int?_eq_some.1 hnamed
    exact h.rule sender vector now
  | answer marketId given bond now =>
    obtain rfl := Value.int?_eq_some.1 hnamed
    exact h.answer sender given bond now
  | claim marketId =>
    obtain rfl := Value.int?_eq_some.1 hnamed
    exact h.claim sender

/-! ## Calls -/

/-- What an account asks for of the market that it names is done alike. -/
theorem SameView.ask (h : c.SameView other n) (hc : c.Reachable) (hother : other.Reachable)
    (sender : Text) {action : Action} (hnamed : action.named? c.arena.nextId = some n) :
    Outcome.SameView n (c.ask sender action) (other.ask sender action) := by
  have hagree := h.plan sender hnamed
  generalize hplan : c.plan sender action = planned,
    htwin : other.plan sender action = twinPlanned at hagree
  cases hagree with
  | error e =>
    obtain ⟨hresult, hafter⟩ := ask_of_refused hplan
    obtain ⟨htwinResult, htwinAfter⟩ := ask_of_refused htwin
    constructor
    · rw [hresult, htwinResult]
    · rw [hafter, htwinAfter, h.market]
  | @ok plan twin hsame =>
    obtain ⟨ids, hids⟩ := hc.numbered
    obtain ⟨otherIds, hotherIds⟩ := hother.numbered
    constructor
    · rw [hids.result_ask hplan, hotherIds.result_ask htwin, Plan.verdict, Plan.verdict,
        hsame.reply, hsame.payment, hsame.failure]
    · rw [market_of_arena (arena_ask hplan), market_of_arena (arena_ask htwin), hsame.market]

/-- A transfer for the market that it names leads to the same action. -/
theorem SameView.route (h : c.SameView other n) {sender : Text} {token amount message : Value}
    {now : Int} (hnamed : c.named? (.transfer sender token amount message now) = some n) :
    other.route token amount message now = c.route token amount message now := by
  have hcollateral {marketId : Int} (hid : marketId = n) :
      other.checkCollateral marketId token = c.checkCollateral marketId token := by
    rw [hid, checkCollateral, checkCollateral, h.market]
  unfold Contract.route
  rw [h.settings.checkRunning]
  refine Agree.eq (.bind_same _ fun _ => .bind_same _ fun amount =>
    .bind_of_ok _ fun purpose hpurpose => ?_)
  rw [mapError_eq_ok] at hpurpose
  rw [named?, Call.named?, hpurpose] at hnamed
  cases purpose with
  | createMarket terms =>
    obtain ⟨_, _, _, _, _, rfl⟩ := h.settings
    exact .refl _
  | addLiquidity marketId weights =>
    dsimp only
    rw [hcollateral (Option.some.inj hnamed)]
    exact .refl _
  | buy marketId outcome minShares =>
    dsimp only
    rw [hcollateral (Option.some.inj hnamed)]
    exact .refl _

/-- Logging a rejection changes neither. -/
theorem logRejection_sameView {o twin : Outcome} (h : Outcome.SameView n o twin)
    (operation : String) :
    Outcome.SameView n (o.logRejection operation) (twin.logRejection operation) := by
  constructor
  · rw [Outcome.result_logRejection, Outcome.result_logRejection, h.result]
  · rw [Outcome.after_logRejection, Outcome.after_logRejection, h.market]

/-- A call for the market that it names is answered alike. -/
theorem SameView.step (h : c.SameView other n) (hc : c.Reachable) (hother : other.Reachable)
    {call : Call} (hnamed : c.named? call = some n) :
    Outcome.SameView n (c.step call) (other.step call) := by
  cases call with
  | ask sender action => exact h.ask hc hother sender hnamed
  | transfer sender token amount message now =>
    rw [Contract.step, Contract.step, transfer, transfer, h.route hnamed]
    refine logRejection_sameView ?_ _
    cases hroute : c.route token amount message now with
    | error e => exact ⟨rfl, h.market⟩
    | ok r =>
      obtain ⟨hresult, hmarket⟩ := h.ask hc hother sender
        ((named?_of_route hroute sender c.arena.nextId).symm.trans hnamed)
      exact ⟨congrArg (Except.map fun _ => Reply.refund r.refund) hresult, hmarket⟩
  | acknowledge _ | reportFailure _ _ => cases hnamed

/-! ## Two calls -/

/-- To a call that names a market, everything looks the same after a call that names another. -/
theorem Reachable.sameView (hc : c.Reachable) {call : Call} {k : Int}
    (hnamed : c.named? call = some k) (hne : k ≠ n) : c.SameView (c.step call).after n where
  settings := sameSettings_step hnamed
  market := market_congr fun place hplace => by
    refine hc.place_eq ?_
    rw [hnamed, ← hplace]
    exact fun hsame => hne (Option.some.inj hsame)
  numbered := fun m hm => by
    obtain ⟨place, hplace, hfound⟩ := market_ok hm
    rw [hc.accounted.numbered place m hfound]
    exact (Value.int.inj hplace).symm
  nextId := fun hnext => by
    rw [hc.nextId_eq, hnext]
    rw [hnamed, hnext]
    exact fun hsame => hne (Option.some.inj hsame)

/-- An action names the same market as long as the next market stays the same, if it is this one. -/
theorem Action.named?_congr {next after n : Int} {action : Action}
    (hnamed : action.named? next = some n) (hnext : next = n → after = n) :
    action.named? after = some n := by
  cases action with
  | setGov | pause | unpause | setCollateral | removeCollateral => cases hnamed
  | createMarket => exact congrArg some (hnext (Option.some.inj hnamed))
  | switchMarket | trade | rule | answer | claim => exact hnamed

/-- A call names the same market as long as the next market stays the same, if it is this one. -/
theorem Call.named?_congr {next after n : Int} {call : Call} (hnamed : call.named? next = some n)
    (hnext : next = n → after = n) : call.named? after = some n := by
  cases call with
  | ask _ _ => exact Action.named?_congr hnamed hnext
  | transfer _ _ _ message _ =>
    rw [Call.named?, Option.bind_eq_some_iff] at hnamed ⊢
    obtain ⟨purpose, hpurpose, hnamed⟩ := hnamed
    refine ⟨purpose, hpurpose, ?_⟩
    cases purpose with
    | createMarket _ => exact congrArg some (hnext (Option.some.inj hnamed))
    | addLiquidity _ _ | buy _ _ _ => exact hnamed
  | acknowledge _ | reportFailure _ _ => cases hnamed

/-- After a call that names a market, a call names another market still. -/
theorem Reachable.named?_step (hc : c.Reachable) {call first : Call} {k : Int}
    (hfirst : c.named? first = some k) (hne : k ≠ n) (hnamed : c.named? call = some n) :
    (c.step first).after.named? call = some n :=
  Call.named?_congr hnamed (hc.sameView hfirst hne).nextId

/-- A call that names a market is told the same after a call that names another. -/
theorem Reachable.result_after (hc : c.Reachable) {call first : Call} {k : Int}
    (hfirst : c.named? first = some k) (hne : k ≠ n) (hnamed : c.named? call = some n) :
    ((c.step first).after.step call).result = (c.step call).result :=
  ((hc.sameView hfirst hne).step hc (hc.step first) hnamed).result

/-- The market that the first of two calls names is left as if there was no second one. -/
theorem Reachable.place_of_named (hc : c.Reachable) {a b : Call} {k : Nat} {j : Int}
    (ha : c.named? a = some (k : Int)) (hb : c.named? b = some j) (hne : j ≠ k) :
    ((c.step a).after.step b).after.arena.markets[k]? =
      ((c.step b).after.step a).after.arena.markets[k]? := by
  have hother : (c.step a).after.named? b ≠ some (k : Int) := by
    rw [hc.named?_step ha hne.symm hb]
    exact fun hsame => hne (Option.some.inj hsame)
  have hsame := ((hc.sameView hb hne).step hc (hc.step b) ha).market
  rw [(hc.step a).place_eq hother, place_eq_of_market hsame]

/-- A market that neither of two calls names stays as it is. -/
theorem Reachable.place_of_unnamed (hc : c.Reachable) {a b : Call} {k : Nat} {i j : Int}
    (ha : c.named? a = some i) (hb : c.named? b = some j) (hne : i ≠ j) (hi : i ≠ k) (hj : j ≠ k) :
    ((c.step a).after.step b).after.arena.markets[k]? = c.arena.markets[k]? := by
  have hfirst : c.named? a ≠ some (k : Int) := by
    rw [ha]
    exact fun hsame => hi (Option.some.inj hsame)
  have hsecond : (c.step a).after.named? b ≠ some (k : Int) := by
    rw [hc.named?_step ha hne hb]
    exact fun hsame => hj (Option.some.inj hsame)
  rw [(hc.step a).place_eq hsecond, hc.place_eq hfirst]

/-- Two calls that name different markets leave the same markets behind in either order. -/
theorem Reachable.markets_comm (hc : c.Reachable) {a b : Call} {i j : Int}
    (ha : c.named? a = some i) (hb : c.named? b = some j) (hne : i ≠ j) :
    ((c.step a).after.step b).after.arena.markets =
      ((c.step b).after.step a).after.arena.markets := by
  apply List.ext_getElem?
  intro k
  by_cases hi : i = k
  · rw [hi] at ha hne
    exact hc.place_of_named ha hb hne.symm
  · by_cases hj : j = k
    · rw [hj] at hb hne
      exact (hc.place_of_named hb ha hne).symm
    · rw [hc.place_of_unnamed ha hb hne hi hj, hc.place_of_unnamed hb ha hne.symm hj hi]

/-- **Isolation**: a market keeps its place, its number and its terms, whatever is called. A call
changes no market but the one that it names. Two calls that name different markets may be made in
either order, whether they succeed or not: each is told the same, and the same markets are left
behind. -/
theorem markets_isolated {c : Contract} (hc : c.Reachable) :
    (∀ (k : Nat) (m : Market), c.arena.markets[k]? = some m →
      m.id = k ∧ m.pool.marketId = k ∧
        ∀ calls, ∃ after, (c.run calls).arena.markets[k]? = some after ∧ m.SameTerms after) ∧
      (∀ (call : Call) (k : Nat), c.named? call ≠ some (k : Int) →
        (c.step call).after.arena.markets[k]? = c.arena.markets[k]?) ∧
      ∀ (a b : Call) (i j : Int), c.named? a = some i → c.named? b = some j → i ≠ j →
        ((c.step b).after.step a).result = (c.step a).result ∧
          ((c.step a).after.step b).result = (c.step b).result ∧
          ((c.step a).after.step b).after.arena.markets =
            ((c.step b).after.step a).after.arena.markets := by
  refine ⟨fun k m hfound => ?_, fun call k hother => hc.place_eq hother,
    fun a b i j ha hb hne => ?_⟩
  · have hid := hc.accounted.numbered k m hfound
    have hpool := hc.pool_marketId m (List.mem_of_getElem? hfound)
    exact ⟨hid, hpool.trans hid, hc.sameTerms_run hfound⟩
  · exact ⟨hc.result_after hb hne.symm ha, hc.result_after ha hne hb, hc.markets_comm ha hb hne⟩

/-- Two accounts create a market each and bring liquidity in, the second one in three outcomes. -/
def pairCalls : List Call :=
  [.ask "a" (.createMarket
      { outcomes := 2, tags := [.label "yes", .label "no"], endTime := 10, resolutionTime := 20,
        collateral := "T", swapFee := 100 } (.int 0) 0),
    .ask "b" (.createMarket
      { outcomes := 3, tags := [.label "one", .label "two", .label "three"], endTime := 30,
        resolutionTime := 40, collateral := "T", swapFee := 0 } (.int 0) 0),
    .ask "a" (.trade (.int 0) (.addLiquidity (.int 100) none) 1),
    .ask "b" (.trade (.int 1) (.addLiquidity (.int 300) none) 1)]

/-- The state that these calls lead to. -/
def pair : Contract :=
  (make { whitelist := Table.ofList [("T", 0)], validityBond := 0, maxSwapFee := 100 } "g" "o").run
    pairCalls

/-- The purchase of shares of the first outcome of a market for fifty. -/
def purchase (account : Text) (marketId : Int) : Call :=
  .ask account (.trade (.int marketId) (.buy (.int 50) (.int 0) (.int 0)) 2)

/-- Two accounts buy in the two markets. Both succeed, and it does not matter who is first. -/
theorem purchases_in_either_order :
    pair.Reachable ∧ pair.arena.markets.length = 2 ∧
      succeeded (pair.step (purchase "c" 0)).result = true ∧
      succeeded (pair.step (purchase "d" 1)).result = true ∧
      ((pair.step (purchase "d" 1)).after.step (purchase "c" 0)).result =
        (pair.step (purchase "c" 0)).result ∧
      ((pair.step (purchase "c" 0)).after.step (purchase "d" 1)).result =
        (pair.step (purchase "d" 1)).result ∧
      ((pair.step (purchase "c" 0)).after.step (purchase "d" 1)).after.arena.markets =
        ((pair.step (purchase "d" 1)).after.step (purchase "c" 0)).after.arena.markets := by
  have hreachable : pair.Reachable := ⟨_, "g", "o", pairCalls, rfl⟩
  obtain ⟨-, -, hcommute⟩ := markets_isolated hreachable
  exact ⟨hreachable, by decide +kernel, by decide +kernel, by decide +kernel,
    hcommute (purchase "c" 0) (purchase "d" 1) 0 1 rfl rfl (by decide)⟩

end Contract

end PredictionMarket
