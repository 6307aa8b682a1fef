import PredictionMarket.Proofs.Contract.Reach
import PredictionMarket.Proofs.Resolution

/-!
# The life of the markets

An action leaves the markets as they are, opens a new one, or moves a single one on: it is switched,
traded in, resolved or claimed on. What holds of every new market and survives each of these moves
holds of all markets of a contract, in every state that it reaches.
-/

namespace PredictionMarket

/-- A market, an action of an account on it, and what the market becomes. -/
inductive Market.Evolves (m : Market) (sender : Text) : Action → Market → Prop
  /-- It is switched on or off. -/
  | switched {marketId : Value} (enabled : Bool) :
      Evolves m sender (.switchMarket marketId enabled) { m with enabled }
  /-- The account trades in it. -/
  | traded {marketId : Value} {t : Trade Value} {checked : Trade Int} {now : Int} {after : Market}
      {r : Receipt} (check : t.check = .ok checked)
      (trade : m.trade sender checked now = .ok (after, r)) :
      Evolves m sender (.trade marketId t now) after
  /-- It is resolved by a ruling. -/
  | ruled {marketId : Value} {vector : Option (List Value)} {now : Int} {after : Market}
      {numerator : Numerator} (rule : m.rule vector now = .ok (after, numerator)) :
      Evolves m sender (.rule marketId vector now) after
  /-- It is resolved by an answer, which is stored first. -/
  | answered {marketId bond : Value} {given : GivenAnswer} {answer : Answer} {now : Int}
      {stored after : Market} {numerator : Numerator} (read : given.read = .ok answer)
      (record : m.recordAnswer answer now = .ok stored)
      (finalize : stored.finalizeFromOracle now = .ok (after, numerator)) :
      Evolves m sender (.answer marketId given bond now) after
  /-- The account is paid for what it holds in it. -/
  | claimed {marketId : Value} {after : Market} {s : Settlement}
      (claim : m.claim sender = .ok (after, s)) : Evolves m sender (.claim marketId) after

/-- A market that moves on keeps its terms: all but its pool, its resolution, and whether it is
switched on. -/
theorem Market.Evolves.eq_with {m after : Market} {sender : Text} {action : Action}
    (h : m.Evolves sender action after) :
    ∃ pool numerator finalized enabled dataRequestFinalized oracleAnswer,
      after = { m with pool, numerator, finalized, enabled, dataRequestFinalized, oracleAnswer } := by
  cases h with
  | switched _ => exact ⟨_, _, _, _, _, _, rfl⟩
  | traded _ htrade =>
    obtain ⟨-, _, -, rfl⟩ := trade_ok htrade
    exact ⟨_, _, _, _, _, _, rfl⟩
  | ruled hrule =>
    obtain ⟨-, -, -, rfl⟩ := rule_ok hrule
    exact ⟨_, _, _, _, _, _, rfl⟩
  | answered _ hrecord hfinalize =>
    obtain ⟨-, -, -, rfl⟩ := recordAnswer_ok hrecord
    obtain ⟨-, -, -, -, rfl⟩ := finalizeFromOracle_ok hfinalize
    exact ⟨_, _, _, _, _, _, rfl⟩
  | claimed hclaim =>
    obtain ⟨-, _, -, rfl⟩ := claim_ok hclaim
    exact ⟨_, _, _, _, _, _, rfl⟩

/-- A market keeps its number. -/
theorem Market.Evolves.id_eq {m after : Market} {sender : Text} {action : Action}
    (h : m.Evolves sender action after) : after.id = m.id := by
  obtain ⟨_, _, _, _, _, _, rfl⟩ := h.eq_with
  rfl

/-- A market keeps its creator. -/
theorem Market.Evolves.creator_eq {m after : Market} {sender : Text} {action : Action}
    (h : m.Evolves sender action after) : after.creator = m.creator := by
  obtain ⟨_, _, _, _, _, _, rfl⟩ := h.eq_with
  rfl

namespace Contract

/-- A contract, an action of an account, and what becomes of the list of markets. -/
inductive Reshapes (c : Contract) (sender : Text) : Action → List Market → Prop
  /-- No market changes. -/
  | same {action : Action} : Reshapes c sender action c.arena.markets
  /-- A market is opened. -/
  | opened {terms : MarketTerms} {bond : Value} {now decimals : Int} {m : Market}
      (checked : c.checkTerms terms now = .ok decimals)
      (made : c.newMarket sender terms decimals = .ok m) :
      Reshapes c sender (.createMarket terms bond now) (c.arena.markets ++ [m])
  /-- A market moves on. -/
  | evolved {action : Action} {n : Nat} {m after : Market} (found : c.arena.markets[n]? = some m)
      (evolves : m.Evolves sender action after) :
      Reshapes c sender action (c.arena.markets.set m.id.toNat after)

/-! ## Actions -/

/-- The terms of a new market have tags, one for each outcome. -/
theorem checkTerms_ok {c : Contract} {terms : MarketTerms} {now decimals : Int}
    (h : c.checkTerms terms now = .ok decimals) :
    (terms.tags.length : Int) = terms.outcomes ∧ ∀ tag ∈ terms.tags, tag.isKnown = true := by
  simp only [checkTerms, bind_eq_ok, mapError_eq_ok] at h
  obtain ⟨_, -, _, -, _, -, _, -, _, -, _, -, _, htags, -⟩ := h
  exact Resolution.checkTags_ok htags

/-- A market that moves on is stored in its place. -/
theorem reshapes_store {c : Contract} {sender : Text} {action : Action} {n : Nat} {m after : Market}
    (hfound : c.arena.markets[n]? = some m) (hevolves : m.Evolves sender action after) :
    c.Reshapes sender action (c.store after).arena.markets := by
  have hreshapes : c.Reshapes sender action (c.arena.markets.set m.id.toNat after) :=
    .evolved hfound hevolves
  rwa [← hevolves.id_eq] at hreshapes

/-- What every action that is granted makes of the markets. -/
theorem Granted.reshapes {c : Contract} {sender : Text} {action : Action} {plan : Plan}
    (h : c.Granted sender action plan) : c.Reshapes sender action plan.after.arena.markets := by
  cases h with
  | setGov | pause | unpause | setCollateral | removeCollateral => exact .same
  | switchMarket _ hfound => exact reshapes_store hfound (.switched _)
  | createMarket _ _ hchecked hmade => exact .opened hchecked hmade
  | trade _ hcheck hfound htrade => exact reshapes_store hfound (.traded hcheck htrade)
  | rule _ hfound hrule => exact reshapes_store hfound (.ruled hrule)
  | answer _ hread hfound hrecord hfinalize | muteAnswer _ hread hfound hrecord hfinalize =>
    exact reshapes_store hfound (.answered hread hrecord hfinalize)
  | claim _ hfound hclaim => exact reshapes_store hfound (.claimed hclaim)

/-- What every action makes of the markets, planned or not and paid or not. -/
theorem Answered.reshapes {c after : Contract} {sender : Text} {action : Action}
    {reply : Option Reply} (h : c.Answered sender action after reply) :
    c.Reshapes sender action after.arena.markets := by
  cases h with
  | rejected _ => exact .same
  | free hplan _ _ | halted hplan _ _ => exact (granted_of_plan hplan).reshapes
  | paid hplan _ hpays | failed hplan _ hpays =>
    rw [hpays.arena]
    exact (granted_of_plan hplan).reshapes

/-! ## Runs -/

/-- A call that asks for no action leaves the markets. -/
theorem arena_step {c : Contract} {call : Call} (h : c.request? call = none) :
    (c.step call).after.arena = c.arena := by
  rcases report_step h with hsame | ⟨outbox, concerned, event, -, -, hafter⟩
  · rw [hsame]
  · rw [hafter]
    rfl

/-- What a call makes of the markets: nothing, or what the action that it asks for makes of them. -/
theorem step_reshapes (c : Contract) (call : Call) :
    (c.step call).after.arena.markets = c.arena.markets ∨
      ∃ sender action, c.request? call = some (sender, action) ∧
        c.Reshapes sender action (c.step call).after.arena.markets := by
  cases hrequest : c.request? call with
  | none => exact .inl (congrArg Arena.markets (arena_step hrequest))
  | some request =>
    obtain ⟨sender, action⟩ := request
    rw [after_step hrequest]
    exact .inr ⟨sender, action, rfl, (ask_cases c sender action).reshapes⟩

/-- What holds of the markets of a contract, of every market that is opened, and survives each move
of a market, holds of what an action of a sort makes of the markets. -/
theorem Reshapes.markets {P : Market → Prop} {Q : Text → Action → Prop}
    (hopened : ∀ {c : Contract} {sender terms bond now decimals m},
      Q sender (.createMarket terms bond now) → c.checkTerms terms now = .ok decimals →
        c.newMarket sender terms decimals = .ok m → P m)
    (hevolved : ∀ {m after : Market} {sender action},
      Q sender action → P m → m.Evolves sender action after → P after)
    {c : Contract} {sender : Text} {action : Action} {markets : List Market}
    (h : c.Reshapes sender action markets) (hinit : ∀ m ∈ c.arena.markets, P m)
    (hask : Q sender action) : ∀ m ∈ markets, P m := by
  intro m hm
  cases h with
  | same => exact hinit m hm
  | opened hchecked hmade =>
    rcases List.mem_append.1 hm with hold | hnew
    · exact hinit m hold
    · rw [List.mem_singleton.1 hnew]
      exact hopened hask hchecked hmade
  | evolved hfound hevolves =>
    rcases List.mem_or_eq_of_mem_set hm with hold | rfl
    · exact hinit m hold
    · exact hevolved hask (hinit _ (List.mem_of_getElem? hfound)) hevolves

/-- A call leads from a state that can be reached to another one. -/
theorem Reachable.step {c : Contract} (hc : c.Reachable) (call : Call) :
    (c.step call).after.Reachable := by
  obtain ⟨config, gov, oracleId, calls, rfl⟩ := hc
  exact ⟨config, gov, oracleId, calls ++ [call], run_append _ calls [call]⟩

/-- What holds of every new contract, and survives each call of a contract that can be reached,
holds of all of these. -/
theorem Reachable.induct {P : Contract → Prop}
    (hmake : ∀ config gov oracleId, P (make config gov oracleId))
    (hstep : ∀ {c : Contract} (call : Call), c.Reachable → P c → P (c.step call).after)
    {c : Contract} (hc : c.Reachable) : P c := by
  obtain ⟨config, gov, oracleId, calls, rfl⟩ := hc
  have hinit : (make config gov oracleId).Reachable := ⟨config, gov, oracleId, [], rfl⟩
  refine (run_invariant (P := fun c _ => c.Reachable ∧ P c) (fun {c past call} hbefore => ?_) []
    ⟨hinit, hmake config gov oracleId⟩ calls).2
  exact ⟨hbefore.1.step call, hstep call hbefore.1 hbefore.2⟩

/-- In every state that can be reached, each key is in the outbox once. -/
theorem Reachable.outbox {c : Contract} (hc : c.Reachable) : c.outbox.WellFormed := by
  refine hc.induct (P := fun c => c.outbox.WellFormed) (fun _ _ _ => List.nodup_nil)
    fun {c} call _ houtbox => ?_
  cases hrequest : c.request? call with
  | none => exact (sameAccounts_step houtbox hrequest).wellFormed houtbox
  | some request =>
    obtain ⟨sender, action⟩ := request
    rw [after_step hrequest]
    exact (ask_cases c sender action).wellFormed houtbox

/-- What holds of every new contract, is a matter of the accounts, and survives each action, holds in
every state that can be reached. -/
theorem Reachable.induct_answered {P : Contract → Prop}
    (hmake : ∀ config gov oracleId, P (make config gov oracleId))
    (hsame : ∀ {c after : Contract}, P c → c.SameAccounts after → P after)
    (hanswered : ∀ {c after : Contract} {sender action reply}, c.Reachable → P c →
      c.Answered sender action after reply → P after)
    {c : Contract} (hc : c.Reachable) : P c := by
  refine hc.induct hmake fun {c} call hc hbefore => ?_
  cases hrequest : c.request? call with
  | none => exact hsame hbefore (sameAccounts_step hc.outbox hrequest)
  | some request =>
    obtain ⟨sender, action⟩ := request
    rw [after_step hrequest]
    exact hanswered hc hbefore (ask_cases c sender action)

/-- What holds of every market that is opened, and survives each move, holds of all markets in every
state that can be reached. -/
theorem Reachable.markets {P : Market → Prop}
    (hopened : ∀ {c : Contract} {sender terms now decimals m},
      c.checkTerms terms now = .ok decimals → c.newMarket sender terms decimals = .ok m → P m)
    (hevolved : ∀ {m after : Market} {sender action},
      P m → m.Evolves sender action after → P after)
    {c : Contract} (hc : c.Reachable) : ∀ m ∈ c.arena.markets, P m := by
  refine hc.induct (P := fun c => ∀ m ∈ c.arena.markets, P m)
    (fun config gov oracleId => by simp [make]) fun {c} call _ hmarkets => ?_
  rcases c.step_reshapes call with hsame | ⟨sender, action, -, hreshapes⟩
  · rw [hsame]
    exact hmarkets
  · exact hreshapes.markets (Q := fun _ _ => True) (fun _ => hopened) (fun _ => hevolved) hmarkets
      trivial

end Contract

end PredictionMarket
