import PredictionMarket.Proofs.Contract.Atomicity

/-!
# Resolutions are final

A market becomes final by a ruling of governance, after its end, or by an answer of the oracle, when
the time of its resolution has come; there is no other way. The resolution and the answer then stay
for good. A market is unresolved as long as it is not final, and a final one is invalid or has a
vector that passes the check. The call that makes a market final succeeds, except for an answer that
frees a bond for a creator whose name cannot be encoded, and for one that cannot be shown: they
resolve the market for good and fail.
-/

namespace PredictionMarket

/-- The bond that an answer frees. -/
def Call.bondReturned : Call → Int
  | .ask _ (.answer _ _ (.int bond) _) => bond
  | _ => 0

namespace Market

/-- A market whose resolution agrees with whether it is final. -/
structure Decided (m : Market) : Prop where
  /-- A market that is not final is not resolved. -/
  unresolved : m.finalized = false → m.numerator = .unresolved
  /-- A market that is final is invalid, or has a vector that passes the check for its pool. -/
  resolved : m.finalized = true → m.numerator = .invalid ∨
    ∃ values, m.numerator = .valid values ∧
      Numerator.checkVector (values.map .int) m.pool.outcomes m.pool.denomination = .ok values

/-- Another market with the resolution of a final one. -/
structure SameResolution (m after : Market) : Prop where
  /-- The other market is final. -/
  final : after.finalized = true
  /-- The resolution is the same. -/
  numerator : after.numerator = m.numerator
  /-- The answer is the same. -/
  answer : after.oracleAnswer = m.oracleAnswer

/-- A market that is not final stays unresolved when it moves on, unless it becomes final. -/
theorem Evolves.unresolved {m after : Market} {sender : Text} {action : Action}
    (h : m.Evolves sender action after)
    (hm : m.finalized = false → m.numerator = .unresolved) :
    after.finalized = false → after.numerator = .unresolved := by
  cases h with
  | switched _ => exact hm
  | traded _ htrade =>
    obtain ⟨-, _, -, rfl⟩ := trade_ok htrade
    exact hm
  | ruled hrule =>
    obtain ⟨-, -, -, rfl⟩ := rule_ok hrule
    exact nofun
  | answered _ _ hfinalize =>
    obtain ⟨-, -, -, -, rfl⟩ := finalizeFromOracle_ok hfinalize
    exact nofun
  | claimed hclaim =>
    obtain ⟨-, _, -, rfl⟩ := claim_ok hclaim
    exact hm

/-- The resolution of a sound market that is final is none, or a vector that passes the check. -/
theorem Sound.resolved {m : Market} (h : m.Sound) (hfinal : m.finalized = true) :
    m.numerator = .invalid ∨ ∃ values, m.numerator = .valid values ∧
      Numerator.checkVector (values.map .int) m.pool.outcomes m.pool.denomination =
        .ok values := by
  obtain ⟨vector, hvector⟩ := h.pays hfinal
  cases hnumerator : m.numerator with
  | unresolved =>
    rw [hnumerator] at hvector
    cases hvector
  | invalid => exact .inl rfl
  | valid values =>
    rw [hnumerator] at hvector
    obtain rfl := Numerator.vector_valid_ok hvector
    exact .inr ⟨vector, rfl, hvector⟩

/-- A final market keeps its resolution when it moves on. -/
theorem SameResolution.evolves {m before after : Market} {sender : Text} {action : Action}
    (h : m.SameResolution before) (hevolves : before.Evolves sender action after) :
    m.SameResolution after := by
  rcases hevolves.of_final h.final with ⟨_, rfl⟩ | ⟨-, _, hclaim⟩
  · exact ⟨h.final, h.numerator, h.answer⟩
  · obtain ⟨-, _, -, rfl⟩ := claim_ok hclaim
    exact ⟨h.final, h.numerator, h.answer⟩

end Market

namespace Contract

/-- The calls that may make the market in a place final. -/
inductive Finalizes (c : Contract) (n : Nat) (m : Market) : Call → Prop
  /-- Governance rules, when the market has ended. -/
  | ruling {sender : Text} {vector : Option (List Value)} {now : Int} (governs : sender = c.gov)
      (ended : m.endTime ≤ now) : Finalizes c n m (.ask sender (.rule (.int n) vector now))
  /-- The oracle answers, when the time of the resolution has come. -/
  | answer {sender : Text} {given : GivenAnswer} {bond : Value} {now : Int}
      (answers : sender = c.oracleId) (due : m.resolutionTime ≤ now) :
      Finalizes c n m (.ask sender (.answer (.int n) given bond now))

/-- A call that makes a market final is a ruling or an answer in time. It succeeds unless a bond is
to be returned to an account whose name cannot be encoded or the answer cannot be shown. -/
theorem Reachable.finalizes {c : Contract} (hc : c.Reachable) {n : Nat} {m after : Market}
    {call : Call} (hfound : c.arena.markets[n]? = some m) (hmoves : c.Moves n m call after)
    (hopen : m.finalized = false) (hfinal : after.finalized = true) :
    c.Finalizes n m call ∧ ((∃ reply, (c.step call).result = .ok reply) ↔
      (0 < call.bondReturned → m.creator.hasSurrogate = false) ∧ c.mute? call = none) := by
  obtain ⟨ids, hids⟩ := hc.numbered
  have hnot : m.finalized ≠ true := Bool.eq_false_iff.1 hopen
  -- Only a ruling and an answer make a market final; all other moves leave it as it was.
  cases hmoves with
  | kept => exact absurd hfinal hnot
  | moved hrequest hplan hnamed hevolves =>
    have hmute := mute?_of_planned hrequest hplan
    cases hevolves with
    | switched _ => exact absurd hfinal hnot
    | traded _ htrade =>
      obtain ⟨-, _, -, rfl⟩ := Market.trade_ok htrade
      exact absurd hfinal hnot
    | claimed hclaim => exact absurd (Market.claim_ok hclaim).1 hnot
    | ruled hrule =>
      obtain rfl := eq_ask_of_request hrequest nofun nofun
      obtain rfl := Option.some.inj hnamed
      obtain ⟨-, hended, -⟩ := Market.rule_ok hrule
      cases granted_of_plan hplan with
      | rule hgoverns _ _ =>
        exact ⟨.ruling hgoverns hended,
          iff_of_true ⟨_, (hids.result_eq_ok_iff hplan).2 ⟨rfl, rfl, nofun⟩⟩ ⟨nofun, hmute⟩⟩
    | answered _ hrecord _ =>
      obtain rfl := eq_ask_of_request hrequest nofun nofun
      obtain rfl := Option.some.inj hnamed
      obtain ⟨-, hdue, -⟩ := Market.recordAnswer_ok hrecord
      have hfailure := (granted_of_plan hplan).failure
      cases granted_of_plan hplan with
      | answer hanswers _ hother _ _ =>
        obtain rfl := Option.some.inj (hfound.symm.trans hother)
        refine ⟨.answer hanswers hdue, fun ⟨reply, hreply⟩ => ?_, fun ⟨hnamed, hshown⟩ => ?_⟩
        · obtain ⟨-, hshown, hall⟩ := (hids.result_eq_ok_iff hplan).1 hreply
          exact ⟨hall _ rfl, hmute.trans hshown⟩
        · refine ⟨_, (hids.result_eq_ok_iff hplan).2 ⟨rfl, hmute.symm.trans hshown, ?_⟩⟩
          rintro _ ⟨⟩
          exact hnamed
      | muteAnswer hanswers =>
        -- The plan is to fail, which it is not if the answer can be shown.
        refine ⟨.answer hanswers hdue, fun ⟨reply, hreply⟩ => ?_, fun hboth => ?_⟩
        · obtain ⟨-, hshown, -⟩ := (hids.result_eq_ok_iff hplan).1 hreply
          rw [hshown] at hfailure
          cases hfailure
        · rw [hmute.symm.trans hboth.2] at hfailure
          cases hfailure

/-- A market that is final after a call was final before, or the call makes it final. -/
theorem Reachable.final_cases {c : Contract} (hc : c.Reachable) {call : Call} {n : Nat}
    {after : Market} (hafter : (c.step call).after.arena.markets[n]? = some after)
    (hfinal : after.finalized = true) :
    ∃ m, c.arena.markets[n]? = some m ∧ (m.finalized = true ∨
      c.Finalizes n m call ∧ ((∃ reply, (c.step call).result = .ok reply) ↔
        (0 < call.bondReturned → m.creator.hasSurrogate = false) ∧ c.mute? call = none)) := by
  rcases hc.place_cases hafter with
    ⟨m, hfound, hmoves⟩ | ⟨sender, terms, now, decimals, -, hmade⟩
  · refine ⟨m, hfound, ?_⟩
    cases hwas : m.finalized with
    | true => exact .inl rfl
    | false => exact .inr (hc.finalizes hfound hmoves hwas hfinal)
  · obtain ⟨_, -, rfl⟩ := newMarket_ok hmade
    cases hfinal

/-- In every state that can be reached, the resolutions agree with which markets are final. -/
theorem Reachable.decided {c : Contract} (hc : c.Reachable) : ∀ m ∈ c.arena.markets, m.Decided := by
  intro m hm
  refine ⟨?_, (hc.sound m hm).resolved⟩
  refine hc.markets (P := fun m => m.finalized = false → m.numerator = .unresolved)
    (fun _ hmade _ => ?_) (fun hm hevolves => hevolves.unresolved hm) m hm
  obtain ⟨_, -, rfl⟩ := newMarket_ok hmade
  rfl

/-- A final market keeps its resolution for the rest of a run. -/
theorem Reachable.resolution_run {c : Contract} (hc : c.Reachable) {n : Nat} {m : Market}
    (hfound : c.arena.markets[n]? = some m) (hfinal : m.finalized = true) (calls : List Call) :
    ∃ after, (c.run calls).arena.markets[n]? = some after ∧ m.SameResolution after :=
  hc.market_run (fun hm hevolves => hm.evolves hevolves) hfound ⟨hfinal, rfl, rfl⟩ calls

/-- **Finality**: a market becomes final only by a ruling of governance after its end, or by an
answer of the oracle when its resolution is due, in a call that succeeds unless it is to return a
bond to an account whose name cannot be encoded, or its answer cannot be shown. From then on it is
final, with the same resolution and the same answer. In all states, a market is unresolved as long
as it is not final, and then it is invalid or has a vector that passes the check. -/
theorem resolutions_final {c : Contract} (hc : c.Reachable) :
    (∀ (call : Call) (n : Nat) (after : Market),
      (c.step call).after.arena.markets[n]? = some after → after.finalized = true →
        ∃ m, c.arena.markets[n]? = some m ∧ (m.finalized = true ∨
          c.Finalizes n m call ∧ ((∃ reply, (c.step call).result = .ok reply) ↔
            (0 < call.bondReturned → m.creator.hasSurrogate = false) ∧ c.mute? call = none))) ∧
      (∀ (n : Nat) (m : Market), c.arena.markets[n]? = some m → m.finalized = true →
        ∀ calls, ∃ after, (c.run calls).arena.markets[n]? = some after ∧ m.SameResolution after) ∧
      ∀ m ∈ c.arena.markets, m.Decided :=
  ⟨fun _ _ _ hafter hfinal => hc.final_cases hafter hfinal,
    fun _ _ hfound hfinal calls => hc.resolution_run hfound hfinal calls, hc.decided⟩

/-- Calls by which an account with a given name creates a market with two outcomes. -/
def creationBy (account : Text) : List Call :=
  [.ask account (.createMarket
    { outcomes := 2, tags := [.label "yes", .label "no"], endTime := 10, resolutionTime := 20,
      collateral := "T", swapFee := 100 } (.int 0) 0)]

/-- The state after these calls. -/
def createdBy (account : Text) : Contract :=
  (make { whitelist := Table.ofList [("T", 0)], validityBond := 0, maxSwapFee := 100 } "g" "o").run
    (creationBy account)

/-- An answer that frees a bond of one unit. -/
def bondedAnswer : Call :=
  .ask "o" (.answer (.int 0) (.plain .invalid) (.int 1) 20)

/-- The answer of the oracle makes the market of a creator with a name final, and the call succeeds. -/
theorem resolutions_final_of_answer :
    ∃ m after : Market, (createdBy "a").Reachable ∧ (createdBy "a").arena.markets[0]? = some m ∧
      m.finalized = false ∧
      ((createdBy "a").step bondedAnswer).after.arena.markets[0]? = some after ∧
      after.finalized = true ∧ (createdBy "a").Finalizes 0 m bondedAnswer ∧
      (∃ reply, ((createdBy "a").step bondedAnswer).result = .ok reply) ∧ m.Decided := by
  have hreachable : (createdBy "a").Reachable := ⟨_, "g", "o", creationBy "a", rfl⟩
  have hbefore : (createdBy "a").arena.markets[0]?.map
      (fun m => (m.finalized, m.creator.hasSurrogate)) = some (false, false) := by
    decide +kernel
  have hafter : ((createdBy "a").step bondedAnswer).after.arena.markets[0]?.map Market.finalized =
      some true := by
    decide +kernel
  have hshown : (createdBy "a").mute? bondedAnswer = none := by
    decide +kernel
  obtain ⟨m, hm, hwas⟩ := Option.map_eq_some_iff.1 hbefore
  obtain ⟨after, hstored, hfinal⟩ := Option.map_eq_some_iff.1 hafter
  obtain ⟨hopen, hnamed⟩ := Prod.mk.inj hwas
  obtain ⟨hcause, -, hdecided⟩ := resolutions_final hreachable
  obtain ⟨other, hother, hcases⟩ := hcause bondedAnswer 0 after hstored hfinal
  obtain rfl : m = other := Option.some.inj (hm.symm.trans hother)
  rcases hcases with hfinalized | ⟨hfinalizes, hsuccess⟩
  · rw [hopen] at hfinalized
    cases hfinalized
  · exact ⟨m, after, hreachable, hm, hopen, hstored, hfinal, hfinalizes,
      hsuccess.2 ⟨fun _ => hnamed, hshown⟩, hdecided m (List.mem_of_getElem? hm)⟩

/-- The same answer makes the market of a creator without a name final, but the call fails. -/
theorem failed_answer_finalizes :
    ∃ (m after : Market) (e : ContractError), (createdBy unnamed).Reachable ∧
      (createdBy unnamed).arena.markets[0]? = some m ∧ m.finalized = false ∧
      ((createdBy unnamed).step bondedAnswer).after.arena.markets[0]? = some after ∧
      after.finalized = true ∧ ((createdBy unnamed).step bondedAnswer).result = .error e := by
  have hreachable : (createdBy unnamed).Reachable := ⟨_, "g", "o", creationBy unnamed, rfl⟩
  have hbefore : (createdBy unnamed).arena.markets[0]?.map Market.finalized = some false := by
    decide +kernel
  have hafter : ((createdBy unnamed).step bondedAnswer).after.arena.markets[0]?.map
      Market.finalized = some true := by
    decide +kernel
  obtain ⟨e, hfailed⟩ := exists_eq_error (x := ((createdBy unnamed).step bondedAnswer).result)
    (by decide +kernel)
  obtain ⟨m, hm, hopen⟩ := Option.map_eq_some_iff.1 hbefore
  obtain ⟨after, hstored, hfinal⟩ := Option.map_eq_some_iff.1 hafter
  exact ⟨m, after, e, hreachable, hm, hopen, hstored, hfinal, hfailed⟩

end Contract

end PredictionMarket
