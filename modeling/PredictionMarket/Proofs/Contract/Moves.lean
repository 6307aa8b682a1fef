import PredictionMarket.Proofs.Contract.Drain

/-!
# The moves of one market

A market keeps its place for good. A call leaves it as it is, or asks for an action on just this
market that the contract permits, and moves it on. What survives each such move is therefore true of
the market for the rest of a run. A place without a market is filled by a new one only.
-/

namespace PredictionMarket

namespace Action

/-- The number of the market that an action is about, if it is about one. -/
def marketId? : Action → Option Value
  | .switchMarket marketId _ => some marketId
  | .trade marketId _ _ => some marketId
  | .rule marketId _ _ => some marketId
  | .answer marketId _ _ _ => some marketId
  | .claim marketId => some marketId
  | _ => none

/-- The time that an action is asked for, if it depends on it. -/
def now? : Action → Option Int
  | .createMarket _ _ now => some now
  | .trade _ _ now => some now
  | .rule _ _ now => some now
  | .answer _ _ _ now => some now
  | _ => none

end Action

/-- The time of a call, if it depends on it. -/
def Call.now? : Call → Option Int
  | .ask _ action => action.now?
  | .transfer _ _ _ _ now => some now
  | _ => none

/-- A final market is only switched on or off, or claimed on. -/
theorem Market.Evolves.of_final {m after : Market} {sender : Text} {action : Action}
    (h : m.Evolves sender action after) (hfinal : m.finalized = true) :
    (∃ enabled, after = { m with enabled }) ∨
      (∃ marketId, action = .claim marketId) ∧ ∃ s, m.claim sender = .ok (after, s) := by
  have hclosed : m.finalized ≠ false := by
    rw [hfinal]
    decide
  cases h with
  | switched enabled => exact .inl ⟨enabled, rfl⟩
  | traded _ htrade => exact absurd (trade_ok htrade).1 hclosed
  | ruled hrule => exact absurd (rule_ok hrule).1 hclosed
  | answered _ hrecord _ => exact absurd (recordAnswer_ok hrecord).1 hclosed
  | claimed hclaim => exact .inr ⟨⟨_, rfl⟩, _, hclaim⟩

namespace Contract

/-! ## Permissions -/

/-- Whether the contract permits an action to an account: trading, creation and claims to all while
it runs, an answer to the oracle, and everything else to governance. -/
def Permits (c : Contract) (sender : Text) : Action → Prop
  | .createMarket _ _ _ => c.paused = false
  | .trade _ _ _ => c.paused = false
  | .claim _ => c.paused = false
  | .answer _ _ _ _ => sender = c.oracleId
  | _ => sender = c.gov

/-- What is granted is permitted. -/
theorem Granted.permits {c : Contract} {sender : Text} {action : Action} {plan : Plan}
    (h : c.Granted sender action plan) : c.Permits sender action := by
  cases h with
  | setGov hgoverns | pause hgoverns | unpause hgoverns | setCollateral hgoverns
  | removeCollateral hgoverns | switchMarket hgoverns | rule hgoverns => exact hgoverns
  | createMarket hrunning | trade hrunning | claim hrunning => exact hrunning
  | answer hanswers | muteAnswer hanswers => exact hanswers

/-! ## Requests -/

/-- A transfer states a creation or a trade, at the time of the transfer. -/
theorem route_ok {c : Contract} {token amount message : Value} {now : Int} {r : Route}
    (h : c.route token amount message now = .ok r) :
    (∃ terms bond, r.action = .createMarket terms bond now) ∨
      ∃ marketId t, r.action = .trade marketId t now := by
  simp only [route, bind_eq_ok] at h
  obtain ⟨_, -, n, -, purpose, -, h⟩ := h
  cases purpose with
  | createMarket terms =>
    simp only [bind_eq_ok, pure, Except.pure, Except.ok.injEq] at h
    obtain ⟨_, -, rfl⟩ := h
    exact .inl ⟨_, _, rfl⟩
  | addLiquidity marketId weights | buy marketId outcome minShares =>
    simp only [bind_eq_ok, pure, Except.pure, Except.ok.injEq] at h
    obtain ⟨_, -, rfl⟩ := h
    exact .inr ⟨_, _, rfl⟩

/-- An action is asked for directly, or it is a creation or a trade that a transfer states. -/
theorem request?_cases {c : Contract} {call : Call} {sender : Text} {action : Action}
    (h : c.request? call = some (sender, action)) :
    call = .ask sender action ∨
      ((∃ terms bond now, action = .createMarket terms bond now) ∨
        ∃ marketId t now, action = .trade marketId t now) ∧ call.now? = action.now? := by
  cases call with
  | ask _ _ =>
    cases h
    exact .inl rfl
  | transfer asker token amount message now =>
    rcases c.request?_transfer asker token amount message now with
      ⟨_, -, hrequest⟩ | ⟨r, hroute, hrequest⟩
    · rw [hrequest] at h
      cases h
    · rw [hrequest] at h
      cases h
      refine .inr ?_
      rcases route_ok hroute with ⟨terms, bond, haction⟩ | ⟨marketId, t, haction⟩
      · rw [haction]
        exact ⟨.inl ⟨terms, bond, now, rfl⟩, rfl⟩
      · rw [haction]
        exact ⟨.inr ⟨marketId, t, now, rfl⟩, rfl⟩
  | acknowledge _ | reportFailure _ _ => cases h

/-- An action that a transfer cannot state is asked for directly. -/
theorem eq_ask_of_request {c : Contract} {call : Call} {sender : Text} {action : Action}
    (h : c.request? call = some (sender, action))
    (hcreation : ∀ terms bond now, action ≠ .createMarket terms bond now)
    (htrade : ∀ marketId t now, action ≠ .trade marketId t now) : call = .ask sender action := by
  rcases request?_cases h with hask | ⟨⟨terms, bond, now, haction⟩ | ⟨marketId, t, now, haction⟩, -⟩
  · exact hask
  · exact absurd haction (hcreation terms bond now)
  · exact absurd haction (htrade marketId t now)

/-- The time of a call is that of the action that it asks for. -/
theorem now?_of_request {c : Contract} {call : Call} {sender : Text} {action : Action}
    (h : c.request? call = some (sender, action)) : call.now? = action.now? := by
  rcases request?_cases h with rfl | ⟨-, hnow⟩
  · rfl
  · exact hnow

/-! ## Places -/

/-- What a call makes of the market in a place. -/
inductive Moves (c : Contract) (n : Nat) (m : Market) (call : Call) : Market → Prop
  /-- It stays as it is. -/
  | kept : Moves c n m call m
  /-- It is moved on by the action that the call asks for. -/
  | moved {sender : Text} {action : Action} {plan : Plan} {after : Market}
      (request : c.request? call = some (sender, action))
      (planned : c.plan sender action = .ok plan) (named : action.marketId? = some (.int n))
      (evolves : m.Evolves sender action after) : Moves c n m call after

/-- A market that is stored is found in its place, and the others stay in theirs. -/
theorem getElem?_store {c : Contract} {after m : Market} {k n : Nat} (hid : after.id = k)
    (hfound : c.arena.markets[n]? = some m) :
    (c.store after).arena.markets[n]? = some (if k = n then after else m) := by
  have hn : n < c.arena.markets.length := (List.getElem?_eq_some_iff.1 hfound).1
  have hplace : after.id.toNat = k := by
    rw [hid, Int.toNat_natCast]
  rw [store, Arena.store, hplace]
  by_cases hsame : k = n
  · rw [if_pos hsame, hsame, List.getElem?_set_self hn]
  · rw [if_neg hsame, List.getElem?_set_ne hsame, hfound]

/-- An action that moves a market on, which is stored then, leaves all other markets. -/
theorem Accounted.place_store {c : Contract} (h : c.Accounted) {sender : Text} {action : Action}
    {m other after : Market} {k n : Nat} (hother : c.arena.markets[k]? = some other)
    (hnamed : action.marketId? = some (.int k)) (hevolves : other.Evolves sender action after)
    (hfound : c.arena.markets[n]? = some m) :
    ∃ now, (c.store after).arena.markets[n]? = some now ∧
      (now = m ∨ action.marketId? = some (.int n) ∧ m.Evolves sender action now) := by
  refine ⟨_, getElem?_store (hevolves.id_eq.trans (h.numbered k other hother)) hfound, ?_⟩
  -- The two places are the same, and so are the markets in them, or nothing happens to this one.
  by_cases hsame : k = n
  · subst hsame
    obtain rfl : m = other := Option.some.inj (hfound.symm.trans hother)
    rw [if_pos rfl]
    exact .inr ⟨hnamed, hevolves⟩
  · rw [if_neg hsame]
    exact .inl rfl

/-- What is granted leaves the market in a place, or moves it on. -/
theorem Granted.place {c : Contract} {sender : Text} {action : Action} {plan : Plan}
    (h : c.Granted sender action plan) (hc : c.Accounted) {n : Nat} {m : Market}
    (hfound : c.arena.markets[n]? = some m) :
    ∃ after, plan.after.arena.markets[n]? = some after ∧
      (after = m ∨ action.marketId? = some (.int n) ∧ m.Evolves sender action after) := by
  cases h with
  | setGov | pause | unpause | setCollateral | removeCollateral => exact ⟨m, hfound, .inl rfl⟩
  | createMarket =>
    have hn : n < c.arena.markets.length := (List.getElem?_eq_some_iff.1 hfound).1
    exact ⟨m, (List.getElem?_append_left hn).trans hfound, .inl rfl⟩
  | switchMarket _ hother => exact hc.place_store hother rfl (.switched _) hfound
  | trade _ hcheck hother htrade =>
    exact hc.place_store hother rfl (.traded hcheck htrade) hfound
  | rule _ hother hrule => exact hc.place_store hother rfl (.ruled hrule) hfound
  | answer _ hread hother hrecord hfinalize | muteAnswer _ hread hother hrecord hfinalize =>
    exact hc.place_store hother rfl (.answered hread hrecord hfinalize) hfound
  | claim _ hother hclaim => exact hc.place_store hother rfl (.claimed hclaim) hfound

/-- A call leaves the market in a place where it is, and as it is unless it moves it on. -/
theorem Reachable.moves {c : Contract} (hc : c.Reachable) {n : Nat} {m : Market}
    (hfound : c.arena.markets[n]? = some m) (call : Call) :
    ∃ after, (c.step call).after.arena.markets[n]? = some after ∧ c.Moves n m call after := by
  cases hrequest : c.request? call with
  | none =>
    rw [arena_step hrequest]
    exact ⟨m, hfound, .kept⟩
  | some request =>
    obtain ⟨sender, action⟩ := request
    rw [after_step hrequest]
    cases hplan : c.plan sender action with
    | error e =>
      rw [(ask_of_refused hplan).2]
      exact ⟨m, hfound, .kept⟩
    | ok plan =>
      rw [arena_ask hplan]
      obtain ⟨after, hafter, rfl | ⟨hnamed, hevolves⟩⟩ :=
        (granted_of_plan hplan).place hc.accounted hfound
      · exact ⟨_, hafter, .kept⟩
      · exact ⟨after, hafter, .moved hrequest hplan hnamed hevolves⟩

/-- A market in a place that was empty is opened by the action. -/
theorem Reshapes.opened_of_new {c : Contract} {sender : Text} {action : Action}
    {markets : List Market} (h : c.Reshapes sender action markets) {n : Nat} {m : Market}
    (hnone : c.arena.markets[n]? = none) (hfound : markets[n]? = some m) :
    ∃ terms bond now decimals, action = .createMarket terms bond now ∧
      c.checkTerms terms now = .ok decimals ∧ c.newMarket sender terms decimals = .ok m := by
  have hlength : c.arena.markets.length ≤ n := List.getElem?_eq_none_iff.1 hnone
  cases h with
  | same =>
    rw [hnone] at hfound
    cases hfound
  | @opened terms bond now decimals opened hchecked hmade =>
    rw [List.getElem?_append_right hlength] at hfound
    obtain rfl : m = opened := List.mem_singleton.1 (List.mem_of_getElem? hfound)
    exact ⟨terms, bond, now, decimals, rfl, hchecked, hmade⟩
  | evolved _ _ =>
    rw [List.getElem?_eq_none (by rw [List.length_set]; exact hlength)] at hfound
    cases hfound

/-- A market that is in a place after a call was there before, or the call opens it. -/
theorem Reachable.place_cases {c : Contract} (hc : c.Reachable) {call : Call} {n : Nat}
    {after : Market} (hafter : (c.step call).after.arena.markets[n]? = some after) :
    (∃ m, c.arena.markets[n]? = some m ∧ c.Moves n m call after) ∨
      ∃ sender terms now decimals, c.checkTerms terms now = .ok decimals ∧
        c.newMarket sender terms decimals = .ok after := by
  cases hfound : c.arena.markets[n]? with
  | some m =>
    obtain ⟨other, hother, hmoves⟩ := hc.moves hfound call
    obtain rfl : after = other := Option.some.inj (hafter.symm.trans hother)
    exact .inl ⟨m, rfl, hmoves⟩
  | none =>
    rcases c.step_reshapes call with hsame | ⟨sender, action, -, hreshapes⟩
    · rw [hsame, hfound] at hafter
      cases hafter
    · obtain ⟨terms, _, now, decimals, -, hchecked, hmade⟩ :=
        hreshapes.opened_of_new hfound hafter
      exact .inr ⟨sender, terms, now, decimals, hchecked, hmade⟩

/-! ## Runs -/

/-- A run leads from a state that can be reached to another one. -/
theorem Reachable.run {c : Contract} (hc : c.Reachable) (calls : List Call) :
    (c.run calls).Reachable := by
  obtain ⟨config, gov, oracleId, past, rfl⟩ := hc
  exact ⟨config, gov, oracleId, past ++ calls, run_append _ past calls⟩

/-- What holds of a market and survives each move holds of it for the rest of a run. -/
theorem Reachable.market_run {P : Market → Prop}
    (hevolved : ∀ {m after : Market} {sender action},
      P m → m.Evolves sender action after → P after)
    {c : Contract} (hc : c.Reachable) {n : Nat} {m : Market}
    (hfound : c.arena.markets[n]? = some m) (hm : P m) (calls : List Call) :
    ∃ after, (c.run calls).arena.markets[n]? = some after ∧ P after := by
  induction calls generalizing c m with
  | nil => exact ⟨m, hfound, hm⟩
  | cons call calls ih =>
    obtain ⟨after, hafter, hmoves⟩ := hc.moves hfound call
    have hafterwards : P after := by
      cases hmoves with
      | kept => exact hm
      | moved _ _ _ hevolves => exact hevolved hm hevolves
    exact ih (hc.step call) hafter hafterwards

end Contract

end PredictionMarket
