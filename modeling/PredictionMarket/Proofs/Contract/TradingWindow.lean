import PredictionMarket.Proofs.Contract.Atomicity

/-!
# When a pool changes

The pool of a market changes in two ways: by a trade, while trading is on, or by a claim, once the
resolution is final. The contract permits both only while it is not stopped. Trading is on before
the end of the market, and a resolution is possible from then on, so at no time both are.
-/

namespace PredictionMarket

namespace Market

/-- A market that an answer is stored in keeps its end, and is resolved by it after this end only. -/
theorem ended_of_answer {m stored after : Market} {answer : Answer} {now : Int}
    {numerator : Numerator} (hrecord : m.recordAnswer answer now = .ok stored)
    (hfinalize : stored.finalizeFromOracle now = .ok (after, numerator)) : m.endTime ≤ now := by
  obtain ⟨-, -, -, rfl⟩ := recordAnswer_ok hrecord
  exact (finalizeFromOracle_ok hfinalize).2.1

/-- A market whose pool changes is traded in, in time, or claimed on after its resolution. -/
theorem Evolves.pool_cases {m after : Market} {sender : Text} {action : Action}
    (h : m.Evolves sender action after) (hchanged : after.pool ≠ m.pool) :
    (∃ marketId t now, action = .trade marketId t now ∧ m.finalized = false ∧ m.enabled = true ∧
      now < m.endTime) ∨
      (∃ marketId, action = .claim marketId) ∧ m.finalized = true := by
  cases h with
  | switched _ => exact absurd rfl hchanged
  | traded _ htrade => exact .inl ⟨_, _, _, rfl, open_of_trade htrade⟩
  | ruled hrule =>
    obtain ⟨-, -, -, rfl⟩ := rule_ok hrule
    exact absurd rfl hchanged
  | answered _ hrecord hfinalize =>
    obtain ⟨-, -, -, rfl⟩ := recordAnswer_ok hrecord
    obtain ⟨-, -, -, -, rfl⟩ := finalizeFromOracle_ok hfinalize
    exact absurd rfl hchanged
  | claimed hclaim => exact .inr ⟨⟨_, rfl⟩, (claim_ok hclaim).1⟩

/-- A market keeps its end. -/
theorem Evolves.endTime_eq {m after : Market} {sender : Text} {action : Action}
    (h : m.Evolves sender action after) : after.endTime = m.endTime := by
  obtain ⟨_, _, _, _, _, _, rfl⟩ := h.eq_with
  rfl

end Market

namespace Contract

/-- Whether a call may change the pool of the market in a place: the contract is not stopped, and
trading is on at the time of the call, or the call is a claim on the market, which is final. -/
def MayChangePool (c : Contract) (n : Nat) (m : Market) (call : Call) : Prop :=
  c.paused = false ∧
    ((m.finalized = false ∧ m.enabled = true ∧ ∃ now, call.now? = some now ∧ now < m.endTime) ∨
      (m.finalized = true ∧ ∃ sender, call = .ask sender (.claim (.int n))))

/-- Whether a trade in the market in a place can be planned at a time. -/
def CanTrade (c : Contract) (n : Nat) (now : Int) : Prop :=
  ∃ sender t plan, c.plan sender (.trade (.int n) t now) = .ok plan

/-- Whether a resolution of the market in a place, by a ruling or by an answer, can be planned at a
time. -/
def CanResolve (c : Contract) (n : Nat) (now : Int) : Prop :=
  (∃ sender vector plan, c.plan sender (.rule (.int n) vector now) = .ok plan) ∨
    ∃ sender given bond plan, c.plan sender (.answer (.int n) given bond now) = .ok plan

/-- A market that a call changes the pool of is one whose pool the call may change. -/
theorem Moves.mayChangePool {c : Contract} {n : Nat} {m after : Market} {call : Call}
    (h : c.Moves n m call after) (hchanged : after.pool ≠ m.pool) : c.MayChangePool n m call := by
  cases h with
  | kept => exact absurd rfl hchanged
  | moved hrequest hplan hnamed hevolves =>
    have hpermitted := (granted_of_plan hplan).permits
    rcases hevolves.pool_cases hchanged with
      ⟨marketId, t, now, rfl, hopen, henabled, hnow⟩ | ⟨⟨marketId, rfl⟩, hfinal⟩
    · exact ⟨hpermitted, .inl ⟨hopen, henabled, now, now?_of_request hrequest, hnow⟩⟩
    · obtain rfl : marketId = .int n := Option.some.inj hnamed
      obtain rfl := eq_ask_of_request hrequest nofun nofun
      exact ⟨hpermitted, .inr ⟨hfinal, _, rfl⟩⟩

/-- A trade in a market can be planned before its end only. -/
theorem CanTrade.lt_endTime {c : Contract} {n : Nat} {now : Int} (h : c.CanTrade n now) {m : Market}
    (hfound : c.arena.markets[n]? = some m) : now < m.endTime := by
  obtain ⟨sender, t, plan, hplan⟩ := h
  cases granted_of_plan hplan with
  | trade _ _ hother htrade =>
    obtain rfl := Option.some.inj (hfound.symm.trans hother)
    exact (Market.open_of_trade htrade).2.2

/-- A resolution of a market can be planned from its end on only. -/
theorem CanResolve.endTime_le {c : Contract} {n : Nat} {now : Int} (h : c.CanResolve n now)
    {m : Market} (hfound : c.arena.markets[n]? = some m) : m.endTime ≤ now := by
  rcases h with ⟨sender, vector, plan, hplan⟩ | ⟨sender, given, bond, plan, hplan⟩
  · cases granted_of_plan hplan with
    | rule _ hother hrule =>
      obtain rfl := Option.some.inj (hfound.symm.trans hother)
      exact (Market.rule_ok hrule).2.1
  · cases granted_of_plan hplan with
    | answer _ _ hother hrecord hfinalize | muteAnswer _ _ hother hrecord hfinalize =>
      obtain rfl := Option.some.inj (hfound.symm.trans hother)
      exact Market.ended_of_answer hrecord hfinalize

/-- A market has the same end in all states that it comes to. -/
theorem Reachable.endTime_run {c : Contract} (hc : c.Reachable) {n : Nat} {m : Market}
    (hfound : c.arena.markets[n]? = some m) (calls : List Call) :
    ∃ after, (c.run calls).arena.markets[n]? = some after ∧ after.endTime = m.endTime :=
  hc.market_run (fun hm hevolves => hevolves.endTime_eq.trans hm) hfound rfl calls

/-- **Pools change in time**: a call changes the pool of a market only while the contract is not
stopped, and only while trading is on or by a claim after the resolution. At no time a market can
both be traded in and be resolved, whatever calls come before the one and before the other. -/
theorem pool_changes_in_time {c : Contract} (hc : c.Reachable) {n : Nat} {m : Market}
    (hfound : c.arena.markets[n]? = some m) :
    (∀ call after, (c.step call).after.arena.markets[n]? = some after → after.pool ≠ m.pool →
      c.MayChangePool n m call) ∧
      ∀ now calls others, ¬((c.run calls).CanTrade n now ∧ (c.run others).CanResolve n now) := by
  constructor
  · intro call after hafter hchanged
    obtain ⟨other, hother, hmoves⟩ := hc.moves hfound call
    obtain rfl : after = other := Option.some.inj (hafter.symm.trans hother)
    exact hmoves.mayChangePool hchanged
  · rintro now calls others ⟨htrade, hresolve⟩
    obtain ⟨traded, htraded, hend⟩ := hc.endTime_run hfound calls
    obtain ⟨resolved, hresolved, hsame⟩ := hc.endTime_run hfound others
    have hbefore := htrade.lt_endTime htraded
    have hafter := hresolve.endTime_le hresolved
    omega

/-- Even a sale whose payment fails after it was stored changes the pool in time. -/
theorem pool_changes_in_time_of_failed_sale :
    ∃ m after : Market, unnamedBuyer.Reachable ∧ unnamedBuyer.arena.markets[0]? = some m ∧
      (unnamedBuyer.step (saleBy unnamed)).after.arena.markets[0]? = some after ∧
      after.pool ≠ m.pool ∧ unnamedBuyer.MayChangePool 0 m (saleBy unnamed) ∧
      ∀ now calls others,
        ¬((unnamedBuyer.run calls).CanTrade 0 now ∧ (unnamedBuyer.run others).CanResolve 0 now) := by
  have hreachable : unnamedBuyer.Reachable := ⟨_, "g", "o", unnamedCalls, rfl⟩
  have hbefore : unnamedBuyer.arena.markets[0]?.map (fun m => m.pool.shares.balance unnamed 0) =
      some 81 := by
    decide +kernel
  have hafter : (unnamedBuyer.step (saleBy unnamed)).after.arena.markets[0]?.map
      (fun m => m.pool.shares.balance unnamed 0) = some 50 := by
    decide +kernel
  obtain ⟨m, hm, hheld⟩ := Option.map_eq_some_iff.1 hbefore
  obtain ⟨after, hstored, hleft⟩ := Option.map_eq_some_iff.1 hafter
  have hchanged : after.pool ≠ m.pool := by
    intro hsame
    rw [hsame, hheld] at hleft
    cases hleft
  exact ⟨m, after, hreachable, hm, hstored, hchanged,
    (pool_changes_in_time hreachable hm).1 _ _ hstored hchanged,
    (pool_changes_in_time hreachable hm).2⟩

end Contract

end PredictionMarket
