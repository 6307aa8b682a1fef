import PredictionMarket.Proofs.Contract.Moves

/-!
# One claim for each account

A claim takes everything out that the account has in a final market, its stake as well as its
shares. No account gains anything in a final market, and a final market stays final. So an account
that was paid has nothing in the market ever after, and each further claim of it is refused.
-/

namespace PredictionMarket

/-- A final market in which an account has nothing. -/
structure Market.PaidOff (m : Market) (account : Text) : Prop where
  /-- The market is sound. -/
  sound : m.Sound
  /-- Its resolution is final. -/
  final : m.finalized = true
  /-- The account has neither a stake nor shares. -/
  nothing : ¬m.pool.Holds account

namespace Market

/-- A claim on a market takes out what the account has in its pool. -/
theorem Sound.released {m after : Market} (h : m.Sound) {account : Text} {s : Settlement}
    (hclaim : m.claim account = .ok (after, s)) :
    m.finalized = true ∧ ∃ pool, m.pool.Released account pool ∧
      pool.outcomes = m.pool.outcomes ∧ after = { m with pool } := by
  simp only [claim, bind_eq_ok, refuseIf_eq_ok, mapError_eq_ok, pure, Except.pure,
    Except.ok.injEq, Prod.exists, Prod.mk.injEq, Bool.not_eq_true', Bool.not_eq_false] at hclaim
  obtain ⟨_, hfinal, pool, _, hpayout, rfl, rfl⟩ := hclaim
  obtain ⟨vector, hvector⟩ := h.pays hfinal
  refine ⟨hfinal, pool, ?_, (Pool.payout_ok hpayout).sameTerms.outcomes, rfl⟩
  rcases Pool.payout_cases h.wellFormed h.ledgered hvector account with
    ⟨_, _, hpaid, hreleased, -⟩ | ⟨hrefused, -⟩
  · rw [hpaid] at hpayout
    cases hpayout
    exact hreleased
  · rw [hrefused] at hpayout
    cases hpayout

/-- A market in which an account has nothing stays such a market when it moves on. -/
theorem PaidOff.evolves {m after : Market} {account sender : Text} {action : Action}
    (h : m.PaidOff account) (hevolves : m.Evolves sender action after) :
    after.PaidOff account := by
  have hsound := h.sound.evolves hevolves
  rcases hevolves.of_final h.final with ⟨enabled, rfl⟩ | ⟨-, s, hclaim⟩
  · exact ⟨hsound, h.final, h.nothing⟩
  · obtain ⟨hfinal, pool, hreleased, houtcomes, rfl⟩ := h.sound.released hclaim
    exact ⟨hsound, hfinal, fun hholds => h.nothing (hreleased.holds houtcomes account hholds)⟩

end Market

namespace Contract

/-- After a claim that succeeds, the account has nothing in the market. -/
theorem Reachable.paidOff_of_claim {c : Contract} (hc : c.Reachable) {account : Text}
    {marketId : Value} {reply : Reply}
    (hclaimed : (c.step (.ask account (.claim marketId))).result = .ok reply) :
    ∃ (n : Nat) (m : Market), marketId = .int n ∧
      (c.step (.ask account (.claim marketId))).after.arena.markets[n]? = some m ∧
      m.PaidOff account := by
  have hresult : (c.ask account (.claim marketId)).result = .ok reply := hclaimed
  cases hplan : c.plan account (.claim marketId) with
  | error e =>
    rw [(ask_of_refused hplan).1] at hresult
    cases hresult
  | ok plan =>
    have harena := arena_ask hplan
    cases granted_of_plan hplan with
    | @claim n m left s _ _ hfound hclaim =>
      have hevolves : m.Evolves account (.claim (.int n)) left := .claimed hclaim
      have hsound := hc.sound m (List.mem_of_getElem? hfound)
      have hplace := getElem?_store
        (hevolves.id_eq.trans (hc.accounted.numbered n m hfound)) hfound
      rw [if_pos rfl] at hplace
      obtain ⟨hfinal, pool, hreleased, -, rfl⟩ := hsound.released hclaim
      refine ⟨n, _, rfl, ?_, hsound.evolves hevolves, hfinal, hreleased.not_holds⟩
      exact (congrArg (fun arena : Arena => arena.markets[n]?) harena).trans hplace

/-- **One claim for each account**: once an account was paid for what it had in a market, each later
claim of it on this market is refused, whatever calls come in between: because there is nothing to
pay, or because the contract is stopped. -/
theorem second_claim_refused {c later : Contract} (hc : c.Reachable) {account : Text}
    {marketId : Value} {reply : Reply}
    (hclaimed : (c.step (.ask account (.claim marketId))).result = .ok reply) {calls : List Call}
    (hlater : (c.step (.ask account (.claim marketId))).after.run calls = later) :
    ∃ e, (later.step (.ask account (.claim marketId))).result = .error e ∧
      e.kind = .refusal (if later.paused then .contractPaused else .noPayout) := by
  obtain ⟨n, m, rfl, hfound, hm⟩ := hc.paidOff_of_claim hclaimed
  have hafter := hc.step (.ask account (.claim (.int n)))
  obtain ⟨now, hnow, hpaidOff⟩ := hafter.market_run (P := fun m => m.PaidOff account)
    (fun hm hevolves => hm.evolves hevolves) hfound hm calls
  have hreachable := hafter.run calls
  rw [hlater] at hnow hreachable
  have hstep : (later.step (.ask account (.claim (.int n)))).result =
      (later.ask account (.claim (.int n))).result := rfl
  rw [hstep]
  cases hpaused : later.paused with
  | true =>
    have hplan : later.plan account (.claim (.int n)) = .error .paused := by
      simp only [plan, Contract.claim, checkRunning, hpaused, refuseIf_bind, if_true]
    exact ⟨.paused, (ask_of_refused hplan).1, rfl⟩
  | false =>
    have hclaimable := hreachable.claimable hpaused hnow hpaidOff.final
    obtain ⟨vector, hvector⟩ := hpaidOff.sound.pays hpaidOff.final
    have hpayout := Pool.payout_of_not_holds hpaidOff.sound.wellFormed hvector hpaidOff.nothing
    exact ⟨_, (hclaimable.refused hpayout).1, rfl⟩

/-- The provider is paid and cannot claim again, although the buyer claims, the provider tries to
buy, and governance stops the contract and restarts it in between. -/
theorem second_claim_refused_of_provider :
    ∃ c later : Contract, c.Reachable ∧
      (∃ reply, (c.step (.ask "a" (.claim (.int 0)))).result = .ok reply) ∧
      (c.step (.ask "a" (.claim (.int 0)))).after.run
        [.ask "b" (.claim (.int 0)), .ask "a" (.trade (.int 0) (.buy (.int 5) (.int 0) (.int 0)) 4),
          .ask "g" .pause, .ask "g" .unpause] = later ∧
      later.paused = false ∧
      ∃ e, (later.step (.ask "a" (.claim (.int 0)))).result = .error e ∧
        e.kind = .refusal (if later.paused then .contractPaused else .noPayout) := by
  let config : Config :=
    { whitelist := Table.ofList [("T", 0)], validityBond := 0, maxSwapFee := 100 }
  have hreachable : ((make config "g" "o").run resolvedCalls).Reachable :=
    ⟨config, "g", "o", resolvedCalls, rfl⟩
  have hran : succeeded (((make config "g" "o").run resolvedCalls).step
        (.ask "a" (.claim (.int 0)))).result = true ∧
      ((((make config "g" "o").run resolvedCalls).step (.ask "a" (.claim (.int 0)))).after.run
        [.ask "b" (.claim (.int 0)), .ask "a" (.trade (.int 0) (.buy (.int 5) (.int 0) (.int 0)) 4),
          .ask "g" .pause, .ask "g" .unpause]).paused = false := by
    decide +kernel
  obtain ⟨reply, hclaimed⟩ := exists_eq_ok hran.1
  exact ⟨_, _, hreachable, ⟨reply, hclaimed⟩, rfl, hran.2,
    second_claim_refused hreachable hclaimed rfl⟩

end Contract

end PredictionMarket
