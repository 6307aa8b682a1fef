import PredictionMarket.Proofs.Contract.Answers
import PredictionMarket.Proofs.Contract.Isolation
import PredictionMarket.Proofs.Contract.Tally
import PredictionMarket.Proofs.Resolution.Interpolation

/-!
# The requests to the oracle

A market is taken in right after the oracle accepted its request, and both take the next place of
their lists. So the requests are those of the markets, place by place, whatever creations failed on
the way: for their terms, for their bond, or because the oracle refused. A request says what the
terms say; the terms of a market stay, so it goes on saying what the market says.
-/

namespace PredictionMarket

/-- The labels of tags that are all labels. -/
theorem Tag.labels?_map_label (labels : List Text) :
    labels? (labels.map .label) = .ok (some labels) := by
  induction labels with
  | nil => rfl
  | cons label labels ih =>
    rw [List.map_cons, labels?, ih]
    rfl

/-- A request that says what a market of a contract with a configuration says. -/
structure DataRequest.Mirrors (r : DataRequest) (config : Config) (m : Market) : Prop where
  /-- It names the market. -/
  marketId : r.marketId = m.id
  /-- It comes from the creator. -/
  requester : r.requester = m.creator
  /-- The bond is paid in the token of the configuration. -/
  bondToken : r.bondToken = config.bondToken
  /-- The bond is the one of the configuration. -/
  validityBond : r.validityBond = config.validityBond
  /-- The answer can be known when the market is to be resolved. -/
  settlementTime : r.settlementTime = m.resolutionTime
  /-- The answer may be disputed as long. -/
  challengePeriod : r.challengePeriod = m.challengePeriod
  /-- The answer can be found in the same places. -/
  sources : r.sources = m.sources
  /-- The question is the same. -/
  description : r.description = m.description
  /-- Both are about a number, or none is. -/
  isScalar : r.isScalar = m.isScalar
  /-- There is nothing to choose from if the answer is a number. -/
  scalar : m.isScalar = true → r.outcomes = none
  /-- Otherwise there are the labels of the market, in their order. -/
  categorical : m.isScalar = false →
    ∃ labels : List Text, m.tags = labels.map .label ∧ r.outcomes = some labels

/-- A market that moves on goes on saying what its request says. -/
theorem DataRequest.Mirrors.evolves {r : DataRequest} {config : Config} {m after : Market}
    {sender : Text} {action : Action} (h : r.Mirrors config m)
    (hevolves : m.Evolves sender action after) : r.Mirrors config after := by
  obtain ⟨_, _, _, _, _, _, rfl⟩ := hevolves.eq_with
  exact { h with }

namespace Contract

/-! ## One market -/

/-- The request of a new market says what the market says. -/
theorem mirrors_of_requestOf {c : Contract} {sender : Text} {terms : MarketTerms}
    {now decimals : Int} {m : Market} {r : DataRequest}
    (hchecked : c.checkTerms terms now = .ok decimals)
    (hmade : c.newMarket sender terms decimals = .ok m) (hrequested : c.requestOf m = .ok r) :
    r.Mirrors c.config m := by
  have htags := (resolvable_newMarket hchecked hmade).tags
  have hbond : m.validityBond = c.config.validityBond := by
    obtain ⟨_, -, rfl⟩ := newMarket_ok hmade
    rfl
  simp only [requestOf, bind_eq_ok, mapError_eq_ok, pure, Except.pure,
    Except.ok.injEq] at hrequested
  obtain ⟨outcomes, hlabels, rfl⟩ := hrequested
  refine ⟨rfl, rfl, rfl, hbond, rfl, rfl, rfl, rfl, rfl, fun hscalar => ?_, fun hcategorical => ?_⟩
  · rw [hscalar] at htags
    obtain ⟨_, _, hbounds, -⟩ := Resolution.checkTags_scalar htags
    rw [hbounds] at hlabels
    cases hlabels
    rfl
  · rw [hcategorical] at htags
    obtain ⟨labels, hlabeled, -⟩ := Resolution.checkTags_categorical htags
    rw [hlabeled, Tag.labels?_map_label] at hlabels
    cases hlabels
    exact ⟨labels, hlabeled, rfl⟩

/-! ## All markets -/

/-- A contract with a configuration, whose oracle has one request for each market, in the order of
their numbers. -/
structure Aligned (c : Contract) (config : Config) : Prop where
  /-- The configuration is this one. -/
  config_eq : c.config = config
  /-- There are as many requests as markets. -/
  length_eq : c.oracle.requests.length = c.arena.markets.length
  /-- Each request says what the market in its place says, whose number is the place. -/
  mirrors : ∀ {i : Nat} {r : DataRequest} {m : Market}, c.oracle.requests[i]? = some r →
    c.arena.markets[i]? = some m → m.id = i ∧ r.Mirrors config m

namespace Aligned

variable {c after : Contract} {config : Config}

/-- A state that has the same configuration, requests and markets is aligned as well. -/
theorem congr (h : c.Aligned config) (hconfig : after.config = c.config)
    (hrequests : after.oracle.requests = c.oracle.requests) (harena : after.arena = c.arena) :
    after.Aligned config := by
  refine ⟨hconfig.trans h.config_eq, ?_, fun {i r m} => ?_⟩
  · rw [hrequests, harena]
    exact h.length_eq
  · rw [hrequests, harena]
    exact h.mirrors

/-- A place with a market has a request. -/
theorem exists_request (h : c.Aligned config) {i : Nat} {m : Market}
    (hfound : c.arena.markets[i]? = some m) : ∃ r, c.oracle.requests[i]? = some r := by
  have hi := (List.getElem?_eq_some_iff.1 hfound).1
  rw [← h.length_eq] at hi
  exact ⟨_, List.getElem?_eq_getElem hi⟩

/-- A place with a request has a market. -/
theorem exists_market (h : c.Aligned config) {i : Nat} {r : DataRequest}
    (hfound : c.oracle.requests[i]? = some r) : ∃ m, c.arena.markets[i]? = some m := by
  have hi := (List.getElem?_eq_some_iff.1 hfound).1
  rw [h.length_eq] at hi
  exact ⟨_, List.getElem?_eq_getElem hi⟩

/-- A market takes the next place, and so does its request. -/
theorem push (h : c.Aligned config) {m : Market} {r : DataRequest}
    (hconfig : after.config = c.config)
    (hrequests : after.oracle.requests = c.oracle.requests ++ [r])
    (hmarkets : after.arena.markets = c.arena.markets ++ [m]) (hnext : m.id = c.arena.nextId)
    (hmirrors : r.Mirrors c.config m) : after.Aligned config := by
  refine ⟨hconfig.trans h.config_eq, ?_, fun {i r' m'} hr hm => ?_⟩
  · rw [hrequests, hmarkets, List.length_append, List.length_append, h.length_eq]
    rfl
  · rw [hrequests] at hr
    rw [hmarkets] at hm
    by_cases hi : i < c.arena.markets.length
    · rw [List.getElem?_append_left (h.length_eq ▸ hi)] at hr
      rw [List.getElem?_append_left hi] at hm
      exact h.mirrors hr hm
    · have hlast : i = c.arena.markets.length := by
        have hlength := (List.getElem?_eq_some_iff.1 hm).1
        rw [List.length_append, List.length_singleton] at hlength
        omega
      rw [hlast, List.getElem?_concat_length] at hm
      rw [hlast, ← h.length_eq, List.getElem?_concat_length] at hr
      cases hm
      cases hr
      exact ⟨by rw [hnext, hlast]; rfl, h.config_eq ▸ hmirrors⟩

/-- A market moves on in its place. -/
theorem store (h : c.Aligned config) {n : Nat} {m moved : Market} {sender : Text} {action : Action}
    (hfound : c.arena.markets[n]? = some m) (hevolves : m.Evolves sender action moved) :
    (c.store moved).Aligned config := by
  refine ⟨h.config_eq, ?_, fun {i r m'} hr hm => ?_⟩
  · rw [Contract.store, Arena.store, List.length_set]
    exact h.length_eq
  · obtain ⟨rn, hrn⟩ := h.exists_request hfound
    have hid : moved.id = n := hevolves.id_eq.trans (h.mirrors hrn hfound).1
    obtain ⟨mi, hmi⟩ := h.exists_market hr
    rw [getElem?_store hid hmi, Option.some.injEq] at hm
    by_cases hplace : n = i
    · subst hplace
      rw [if_pos rfl] at hm
      rw [hfound] at hmi
      cases hmi
      exact hm ▸ ⟨hid, (h.mirrors hr hfound).2.evolves hevolves⟩
    · rw [if_neg hplace] at hm
      exact hm ▸ h.mirrors hr hmi

/-- The request for a market is the one in the place that its number gives. -/
theorem requestFor_eq_ok_iff (h : c.Aligned config) {v : Value} {r : DataRequest} :
    c.oracle.requestFor v = .ok r ↔
      ∃ i : Nat, v.number? = some (i : Int) ∧ c.oracle.requests[i]? = some r := by
  have hnumbered {i : Nat} {r : DataRequest} (hr : c.oracle.requests[i]? = some r) :
      r.marketId = i := by
    obtain ⟨m, hm⟩ := h.exists_market hr
    obtain ⟨hid, hmirrors⟩ := h.mirrors hr hm
    exact hmirrors.marketId.trans hid
  unfold Oracle.requestFor
  constructor
  · intro hfound
    split at hfound
    · next found hfind =>
      cases hfound
      obtain ⟨hnumber, i, hi, rfl, -⟩ := List.find?_eq_some_iff_getElem.1 hfind
      have hplace := List.getElem?_eq_getElem hi
      rw [beq_iff_eq, hnumbered hplace] at hnumber
      exact ⟨i, hnumber, hplace⟩
    · cases hfound
  · rintro ⟨i, hnumber, hr⟩
    have hfind : c.oracle.requests.find? (fun r => v.number? == some r.marketId) = some r := by
      obtain ⟨hi, hget⟩ := List.getElem?_eq_some_iff.1 hr
      refine List.find?_eq_some_iff_getElem.2 ⟨?_, i, hi, hget, fun j hj => ?_⟩
      · rw [hnumber, hnumbered hr, beq_self_eq_true]
      · have hother := hnumbered (List.getElem?_eq_getElem (hj.trans hi))
        rw [hnumber, hother, Bool.not_eq_true', beq_eq_false_iff_ne, ne_eq, Option.some.injEq]
        omega
    rw [hfind]

end Aligned

/-! ## Calls -/

/-- An action that is granted takes in a market and its request, or moves a market on. -/
theorem Granted.aligned {c : Contract} {config : Config} {sender : Text} {action : Action}
    {plan : Plan} (hgranted : c.Granted sender action plan) (h : c.Aligned config) :
    plan.after.Aligned config := by
  cases hgranted with
  | setGov | pause | unpause | setCollateral | removeCollateral => exact h.congr rfl rfl rfl
  | @switchMarket n m enabled _ _ hfound =>
    have hevolves : m.Evolves sender (.switchMarket (.int n) enabled) { m with enabled } :=
      .switched _
    exact (h.store hfound hevolves).congr rfl rfl rfl
  | @createMarket terms _ now decimals m _ _ _ _ _ hchecked hmade hrequested haccepted =>
    simp only [Oracle.accept, bind_eq_ok, pure, Except.pure, Except.ok.injEq] at haccepted
    obtain ⟨_, -, rfl⟩ := haccepted
    have hnext : m.id = c.arena.nextId := by
      obtain ⟨_, -, rfl⟩ := newMarket_ok hmade
      rfl
    exact h.push rfl rfl rfl hnext (mirrors_of_requestOf hchecked hmade hrequested)
  | @trade n m after t _ now _ _ _ hcheck hfound htrade =>
    have hevolves : m.Evolves sender (.trade (.int n) t now) after := .traded hcheck htrade
    exact (h.store hfound hevolves).congr rfl rfl rfl
  | @rule n m after vector now _ _ _ hfound hrule =>
    have hevolves : m.Evolves sender (.rule (.int n) vector now) after := .ruled hrule
    exact (h.store hfound hevolves).congr rfl rfl rfl
  | @answer n m _ after given _ bond now _ _ _ hread hfound hrecord hfinalize
  | @muteAnswer n m _ after given _ bond now _ _ hread hfound hrecord hfinalize =>
    have hevolves : m.Evolves sender (.answer (.int n) given (.int bond) now) after :=
      .answered hread hrecord hfinalize
    exact (h.store hfound hevolves).congr rfl rfl rfl
  | @claim n m after _ _ _ hfound hclaim =>
    have hevolves : m.Evolves sender (.claim (.int n)) after := .claimed hclaim
    exact (h.store hfound hevolves).congr rfl rfl rfl

/-- A payment changes neither the requests nor the markets. -/
theorem Pays.aligned {c after : Contract} {config : Config} {p : Payment} {success : Bool}
    (hpays : c.Pays p after success) (h : c.Aligned config) : after.Aligned config := by
  cases hpays <;> exact h.congr rfl rfl rfl

/-- Whatever comes of an action, the requests stay aligned with the markets. -/
theorem Answered.aligned {c after : Contract} {config : Config} {sender : Text} {action : Action}
    {reply : Option Reply} (hanswered : c.Answered sender action after reply)
    (h : c.Aligned config) : after.Aligned config := by
  cases hanswered with
  | rejected _ => exact h
  | free hplan _ _ | halted hplan _ _ => exact (granted_of_plan hplan).aligned h
  | paid hplan _ hpays | failed hplan _ hpays =>
    exact hpays.aligned ((granted_of_plan hplan).aligned h)

/-- A call keeps the requests aligned with the markets. -/
theorem Aligned.step {c : Contract} {config : Config} (h : c.Aligned config) (call : Call) :
    (c.step call).after.Aligned config := by
  cases hrequest : c.request? call with
  | none =>
    rcases report_step hrequest with hafter | ⟨_, _, _, -, -, hafter⟩
    · rw [hafter]
      exact h
    · rw [hafter]
      exact h.congr rfl rfl rfl
  | some request =>
    obtain ⟨sender, action⟩ := request
    rw [after_step hrequest]
    exact (ask_cases c sender action).aligned h

/-! ## Runs -/

/-- The state after a list of calls, before each of which the oracle is set to refuse all requests
or to accept them. -/
def runAmid (c : Contract) (calls : List (Bool × Call)) : Contract :=
  calls.foldl (fun c (refusing, call) => ((c.withRefusing refusing).step call).after) c

/-- The requests stay aligned with the markets, whenever the oracle refuses. -/
theorem Aligned.runAmid {c : Contract} {config : Config} (h : c.Aligned config)
    (calls : List (Bool × Call)) : (c.runAmid calls).Aligned config := by
  induction calls generalizing c with
  | nil => exact h
  | cons call calls ih =>
    have hset : (c.withRefusing call.1).Aligned config := h.congr rfl rfl rfl
    exact ih (hset.step call.2)

/-- **Requests and markets stay aligned**: in every run, whatever calls fail and whenever the oracle
refuses, it has as many requests as there are markets. The request in a place carries the number of
the place and says what the market in this place says. So there is a request for a number just if
there is a market with it. -/
theorem requests_match_markets (config : Config) (gov oracleId : Text)
    (calls : List (Bool × Call)) :
    ∃ c : Contract, (make config gov oracleId).runAmid calls = c ∧
      c.oracle.requests.length = c.arena.markets.length ∧
      (∀ (i : Nat) (m : Market), c.arena.markets[i]? = some m →
        ∃ r, c.oracle.requests[i]? = some r ∧ r.marketId = i ∧ r.Mirrors config m) ∧
      (∀ (v : Value) (r : DataRequest), c.oracle.requestFor v = .ok r ↔
        ∃ i : Nat, v.number? = some (i : Int) ∧ c.oracle.requests[i]? = some r) ∧
      ∀ i : Int, (∃ r, c.oracle.requestFor (.int i) = .ok r) ↔ ∃ m, c.market (.int i) = .ok m := by
  have hmade : (make config gov oracleId).Aligned config :=
    ⟨rfl, rfl, fun hr => by cases hr⟩
  have hrun := hmade.runAmid calls
  refine ⟨_, rfl, hrun.length_eq, fun i m hm => ?_, fun v r => hrun.requestFor_eq_ok_iff,
    fun i => ?_⟩
  · obtain ⟨r, hr⟩ := hrun.exists_request hm
    obtain ⟨hid, hmirrors⟩ := hrun.mirrors hr hm
    exact ⟨r, hr, hmirrors.marketId.trans hid, hmirrors⟩
  · constructor
    · rintro ⟨r, hr⟩
      obtain ⟨n, hnumber, hplace⟩ := hrun.requestFor_eq_ok_iff.1 hr
      obtain rfl : i = n := Option.some.inj hnumber
      obtain ⟨m, hm⟩ := hrun.exists_market hplace
      exact ⟨m, market_eq_ok_iff.2 hm⟩
    · rintro ⟨m, hm⟩
      obtain ⟨n, hn, hplace⟩ := market_ok hm
      obtain rfl := Value.int.inj hn
      obtain ⟨r, hr⟩ := hrun.exists_request hplace
      exact ⟨r, hrun.requestFor_eq_ok_iff.2 ⟨n, rfl, hr⟩⟩

end Contract

end PredictionMarket
