import PredictionMarket.Proofs.Contract.Moves
import PredictionMarket.Proofs.Pool.Settlement

/-!
# What a call leaves alone

A call names one market at most: the one that its action or its message is about, or the one that
it would create. All other markets stay as they are, and so do the settings of the contract. A market
is never removed; it keeps its number, and the terms that its creator laid down.
-/

namespace PredictionMarket

/-! ## Names -/

/-- The number of the market that an action names. A creation names the next market. -/
def Action.named? (next : Int) : Action → Option Int
  | .createMarket _ _ _ => some next
  | action => action.marketId?.bind Value.int?

/-- The number of the market that a purpose names. -/
def Purpose.named? (next : Int) : Purpose → Option Int
  | .createMarket _ => some next
  | .addLiquidity marketId _ => some marketId
  | .buy marketId _ _ => some marketId

/-- The number of the market that a call names. A transfer names the one that its message is about,
and a report names none. -/
def Call.named? (next : Int) : Call → Option Int
  | .ask _ action => action.named? next
  | .transfer _ _ _ message _ => (Message.parse message).toOption.bind (Purpose.named? next)
  | _ => none

/-- An integer is named by itself only. -/
theorem Value.int?_eq_some {v : Value} {n : Int} : v.int? = some n ↔ v = .int n := by
  cases v with
  | int k => rw [Value.int?, Option.some.injEq, Value.int.injEq]
  | _ => exact ⟨nofun, nofun⟩

/-- An action that is about a market names it. -/
theorem Action.named?_of_marketId {action : Action} {n : Int} (h : action.marketId? = some (.int n))
    (next : Int) : action.named? next = some n := by
  cases action with
  | setGov | pause | unpause | setCollateral | removeCollateral | createMarket => cases h
  | switchMarket | trade | rule | answer | claim =>
    cases h
    rfl

namespace Contract

/-- The number of the market that a call names in a state. -/
def named? (c : Contract) (call : Call) : Option Int :=
  call.named? c.arena.nextId

/-- A transfer names the market that its action names. -/
theorem named?_of_route {c : Contract} {token amount message : Value} {now : Int} {r : Route}
    (h : c.route token amount message now = .ok r) (sender : Text) (next : Int) :
    (Call.transfer sender token amount message now).named? next = r.action.named? next := by
  simp only [route, bind_eq_ok, mapError_eq_ok] at h
  obtain ⟨_, -, n, -, purpose, hpurpose, h⟩ := h
  rw [Call.named?, hpurpose]
  cases purpose with
  | createMarket _ | addLiquidity _ _ | buy _ _ _ =>
    simp only [bind_eq_ok, pure, Except.pure, Except.ok.injEq] at h
    obtain ⟨_, -, rfl⟩ := h
    rfl

/-- A call names the market that the action names for which it asks. -/
theorem named?_of_request {c : Contract} {call : Call} {sender : Text} {action : Action}
    (h : c.request? call = some (sender, action)) (next : Int) :
    call.named? next = action.named? next := by
  cases call with
  | ask _ _ =>
    cases h
    rfl
  | transfer asker token amount message now =>
    rcases c.request?_transfer asker token amount message now with
      ⟨_, -, hrequest⟩ | ⟨r, hroute, hrequest⟩
    · rw [hrequest] at h
      cases h
    · rw [hrequest] at h
      cases h
      exact named?_of_route hroute _ next
  | acknowledge _ | reportFailure _ _ => cases h

/-! ## Places -/

/-- A call changes no market but the one that it names. -/
theorem Reachable.place_eq {c : Contract} (hc : c.Reachable) {call : Call} {k : Nat}
    (hother : c.named? call ≠ some (k : Int)) :
    (c.step call).after.arena.markets[k]? = c.arena.markets[k]? := by
  cases hfound : c.arena.markets[k]? with
  | some m =>
    obtain ⟨after, hafter, hmoves⟩ := hc.moves hfound call
    rw [hafter]
    cases hmoves with
    | kept => rfl
    | moved hrequest _ hnamed _ =>
      have hname := (named?_of_request hrequest c.arena.nextId).trans
        (Action.named?_of_marketId hnamed _)
      exact absurd hname hother
  | none =>
    have hlength : c.arena.markets.length ≤ k := List.getElem?_eq_none_iff.1 hfound
    rcases c.step_reshapes call with hsame | ⟨sender, action, hrequest, hreshapes⟩
    · rw [hsame, hfound]
    · generalize (c.step call).after.arena.markets = markets at hreshapes ⊢
      have hname := named?_of_request hrequest c.arena.nextId
      cases hreshapes with
      | same => exact hfound
      | opened _ _ =>
        -- A market that is opened takes the next place, which is the one that its creation names.
        have hnext : c.arena.markets.length ≠ k := by
          rintro rfl
          exact hother hname
        rw [List.getElem?_eq_none]
        rw [List.length_append, List.length_singleton]
        omega
      | evolved _ _ => rw [List.getElem?_eq_none (by rw [List.length_set]; exact hlength)]

/-- No market is removed by a call. -/
theorem Reachable.length_le_step {c : Contract} (hc : c.Reachable) (call : Call) :
    c.arena.markets.length ≤ (c.step call).after.arena.markets.length := by
  by_contra hshort
  obtain ⟨after, hafter, -⟩ :=
    hc.moves (List.getElem?_eq_getElem (lt_of_not_ge hshort)) call
  rw [List.getElem?_eq_none le_rfl] at hafter
  cases hafter

/-- The number of the next market stays if a call names another one. -/
theorem Reachable.nextId_eq {c : Contract} (hc : c.Reachable) {call : Call}
    (hother : c.named? call ≠ some c.arena.nextId) :
    (c.step call).after.arena.nextId = c.arena.nextId := by
  have hnone := hc.place_eq hother
  rw [List.getElem?_eq_none le_rfl, List.getElem?_eq_none_iff] at hnone
  exact congrArg Nat.cast (le_antisymm hnone (hc.length_le_step call))

/-! ## Settings -/

/-- A payment keeps the settings. -/
theorem SameSettings.pays {c before after : Contract} (h : c.SameSettings before) {p : Payment}
    {success : Bool} (hpays : before.Pays p after success) : c.SameSettings after := by
  obtain ⟨_, _, _, _, _, rfl⟩ := h
  cases hpays with
  | nothing | unnumbered | refused | queued => exact ⟨_, _, _, _, _, rfl⟩

/-- An action that names a market is planned with the settings as they are. -/
theorem Granted.sameSettings {c : Contract} {sender : Text} {action : Action} {plan : Plan}
    (h : c.Granted sender action plan) {next n : Int} (hnamed : action.named? next = some n) :
    c.SameSettings plan.after := by
  cases h with
  | setGov | pause | unpause | setCollateral | removeCollateral => cases hnamed
  | createMarket _ _ _ _ _ haccepted =>
    simp only [Oracle.accept, bind_eq_ok, pure, Except.pure, Except.ok.injEq] at haccepted
    obtain ⟨_, -, rfl⟩ := haccepted
    exact ⟨_, _, _, _, _, rfl⟩
  | switchMarket | trade | rule | answer | muteAnswer | claim =>
    exact ⟨_, _, _, _, c.oracle.requests, rfl⟩

/-- A call that names a market keeps the settings. -/
theorem sameSettings_step {c : Contract} {call : Call} {n : Int} (hnamed : c.named? call = some n) :
    c.SameSettings (c.step call).after := by
  cases hrequest : c.request? call with
  | none =>
    rcases report_step hrequest with hsame | ⟨_, _, _, -, -, hafter⟩
    · rw [hsame]
      exact ⟨_, _, _, _, _, rfl⟩
    · rw [hafter]
      exact ⟨_, _, _, _, c.oracle.requests, rfl⟩
  | some request =>
    obtain ⟨sender, action⟩ := request
    rw [after_step hrequest]
    cases hplan : c.plan sender action with
    | error e =>
      rw [(ask_of_refused hplan).2]
      exact ⟨_, _, _, _, _, rfl⟩
    | ok plan =>
      have hplanned := (granted_of_plan hplan).sameSettings
        ((named?_of_request hrequest c.arena.nextId).symm.trans hnamed)
      rcases after_ask hplan with hafter | ⟨_, _, hpays⟩
      · rw [hafter]
        exact hplanned
      · exact hplanned.pays hpays

end Contract

/-! ## Terms -/

namespace Market

/-- Two states of a market with the same terms. -/
structure SameTerms (m after : Market) : Prop where
  /-- The number. -/
  id : after.id = m.id
  /-- The account that created it. -/
  creator : after.creator = m.creator
  /-- The end of trading. -/
  endTime : after.endTime = m.endTime
  /-- When the oracle may answer. -/
  resolutionTime : after.resolutionTime = m.resolutionTime
  /-- The tags of the outcomes. -/
  tags : after.tags = m.tags
  /-- Whether the answer is a number. -/
  isScalar : after.isScalar = m.isScalar
  /-- The units of a scalar market. -/
  scalarMultiplier : after.scalarMultiplier = m.scalarMultiplier
  /-- The outcomes, the fee rate and the collateral. -/
  pool : m.pool.SameTerms after.pool

/-- The terms of a market are its own. -/
theorem SameTerms.refl (m : Market) : m.SameTerms m :=
  ⟨rfl, rfl, rfl, rfl, rfl, rfl, rfl, .refl m.pool⟩

/-- What keeps the terms twice keeps them. -/
theorem SameTerms.trans {m n after : Market} (h : m.SameTerms n) (h' : n.SameTerms after) :
    m.SameTerms after where
  id := h'.id.trans h.id
  creator := h'.creator.trans h.creator
  endTime := h'.endTime.trans h.endTime
  resolutionTime := h'.resolutionTime.trans h.resolutionTime
  tags := h'.tags.trans h.tags
  isScalar := h'.isScalar.trans h.isScalar
  scalarMultiplier := h'.scalarMultiplier.trans h.scalarMultiplier
  pool := h.pool.trans h'.pool

/-- A market that moves on keeps the terms of its pool. -/
theorem Evolves.pool_sameTerms {m after : Market} {sender : Text} {action : Action}
    (h : m.Evolves sender action after) : m.pool.SameTerms after.pool := by
  cases h with
  | switched _ => exact .refl m.pool
  | traded _ htrade =>
    obtain ⟨-, _, htraded, rfl⟩ := trade_ok htrade
    exact htraded.sameTerms
  | ruled hrule =>
    obtain ⟨-, -, -, rfl⟩ := rule_ok hrule
    exact .refl m.pool
  | answered _ hrecord hfinalize =>
    obtain ⟨-, -, -, rfl⟩ := recordAnswer_ok hrecord
    obtain ⟨-, -, -, -, rfl⟩ := finalizeFromOracle_ok hfinalize
    exact .refl m.pool
  | claimed hclaim =>
    obtain ⟨-, _, hsettled, rfl⟩ := claim_ok hclaim
    exact hsettled.sameTerms

/-- A market that moves on keeps its terms. -/
theorem Evolves.sameTerms {m after : Market} {sender : Text} {action : Action}
    (h : m.Evolves sender action after) : m.SameTerms after := by
  have hpool := h.pool_sameTerms
  obtain ⟨_, _, _, _, _, _, rfl⟩ := h.eq_with
  exact ⟨rfl, rfl, rfl, rfl, rfl, rfl, rfl, hpool⟩

end Market

namespace Contract

/-- A market keeps its place and its terms for the rest of a run. -/
theorem Reachable.sameTerms_run {c : Contract} (hc : c.Reachable) {k : Nat} {m : Market}
    (hfound : c.arena.markets[k]? = some m) (calls : List Call) :
    ∃ after, (c.run calls).arena.markets[k]? = some after ∧ m.SameTerms after :=
  hc.market_run (fun hm hevolves => hm.trans hevolves.sameTerms) hfound (.refl m) calls

/-- The pool of a market has the number of the market. -/
theorem Reachable.pool_marketId {c : Contract} (hc : c.Reachable) :
    ∀ m ∈ c.arena.markets, m.pool.marketId = m.id := by
  refine hc.markets (fun _ hmade => ?_) fun hm hevolves => ?_
  · obtain ⟨pool, hpool, rfl⟩ := newMarket_ok hmade
    obtain ⟨-, -, rfl⟩ := Pool.make_ok hpool
    rfl
  · rw [hevolves.pool_sameTerms.marketId, hm, hevolves.id_eq]

end Contract

end PredictionMarket
