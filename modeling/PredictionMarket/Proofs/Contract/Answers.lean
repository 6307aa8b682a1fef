import PredictionMarket.Proofs.Contract.Claims
import PredictionMarket.Proofs.Contract.Finality
import PredictionMarket.Proofs.Json.Numeral
import PredictionMarket.Proofs.Resolution.Answers

/-!
# Every market can be resolved

The tags of a market pass the check when it is created, and they stay. So the resolver refuses no
answer that fits the market: from the time of the resolution on, the oracle can make the market
invalid, or resolve it by any of its labels or by any number. The call succeeds as long as the name
of the creator, who gets the bond back, can be encoded, and the answer can be shown. A number with
too many digits cannot: it resolves the market, and then the call fails, with nothing told and the
bond not returned. The vectors that are stored divide the denomination, so no claim on the market
fails for its resolution.
-/

namespace PredictionMarket

namespace Market

/-- A market whose tags pass the check, and which ends before its resolution is due. -/
structure Resolvable (m : Market) : Prop where
  /-- The tags pass the check. -/
  tags : Resolution.checkTags m.tags m.tags.length m.isScalar m.multiplier = .ok ()
  /-- Trading is over when the resolution is due. -/
  times : m.endTime ≤ m.resolutionTime

/-- A market that is not final and whose resolution is due, with a bond of at most 128 bits that can
be returned to its creator. -/
structure AwaitsAnswer (m : Market) (bond now : Int) : Prop where
  /-- The market is not final. -/
  undecided : m.finalized = false
  /-- The time of the resolution has come. -/
  due : m.resolutionTime ≤ now
  /-- The bond is not negative. -/
  bond_nonneg : 0 ≤ bond
  /-- The bond has at most 128 bits. -/
  bond_le : bond ≤ Part.maxAmount
  /-- The name of the creator can be encoded. -/
  named : m.creator.hasSurrogate = false

/-- The multiplier that the resolver uses is the one that the terms are checked for. -/
theorem multiplier_eq (m : Market) :
    m.multiplier =
      if Contract.lacksMultiplier m.scalarMultiplier then 1 else m.scalarMultiplier.getD 1 := by
  unfold multiplier
  cases m.scalarMultiplier with
  | none => rfl
  | some k => by_cases hk : k = 0 <;> simp [Contract.lacksMultiplier, hk]

/-- A market that moves on keeps its tags and times. -/
theorem Resolvable.evolves {m after : Market} {sender : Text} {action : Action}
    (h : m.Resolvable) (hevolves : m.Evolves sender action after) : after.Resolvable := by
  obtain ⟨_, _, _, _, _, _, rfl⟩ := hevolves.eq_with
  exact ⟨h.tags, h.times⟩

/-- A due answer that resolves the market is stored, and the market is resolved by it. -/
theorem Resolvable.answer_eq_ok {m : Market} (h : m.Resolvable) (hopen : m.finalized = false)
    {answer : Answer} {now : Int} {numerator : Numerator} (hdue : m.resolutionTime ≤ now)
    (hresolve : m.resolve answer = .ok numerator) :
    ∃ stored, m.recordAnswer answer now = .ok stored ∧
      stored.finalizeFromOracle now = .ok (stored.finalize numerator, numerator) ∧
      stored.id = m.id := by
  refine ⟨{ m with oracleAnswer := some answer, dataRequestFinalized := true }, ?_, ?_, rfl⟩
  · rw [recordAnswer, hopen, refuseIf_bind, if_neg (by decide), refuseIf_bind,
      if_neg (not_lt.2 hdue), hresolve]
    rfl
  · exact finalizeFromOracle_eq_ok hopen (h.times.trans hdue) rfl rfl hresolve

/-- A vector that a market stores divides the denomination. -/
theorem Decided.divides {m : Market} (h : m.Decided) {values : List Int}
    (hvalues : m.numerator = .valid values) :
    Numerator.Divides values m.pool.outcomes m.pool.denomination := by
  have hfinal : m.finalized = true := by
    by_contra hopen
    rw [h.unresolved (Bool.eq_false_iff.2 hopen)] at hvalues
    cases hvalues
  rcases h.resolved hfinal with hinvalid | ⟨vector, hvector, hchecked⟩
  · rw [hinvalid] at hvalues
    cases hvalues
  · obtain rfl : vector = values := Numerator.valid.inj (hvector.symm.trans hvalues)
    exact Numerator.checkVector_ok hchecked

end Market

namespace Contract

/-- A new market can be resolved. -/
theorem resolvable_newMarket {c : Contract} {sender : Text} {terms : MarketTerms}
    {now decimals : Int} {m : Market} (hterms : c.checkTerms terms now = .ok decimals)
    (hmade : c.newMarket sender terms decimals = .ok m) : m.Resolvable := by
  obtain ⟨hlength, -⟩ := checkTerms_ok hterms
  obtain ⟨pool, -, rfl⟩ := newMarket_ok hmade
  simp only [checkTerms, bind_eq_ok, refuseIf_eq_ok, mapError_eq_ok, not_lt] at hterms
  obtain ⟨_, -, _, -, _, -, _, htimes, _, -, _, -, u, htags, -⟩ := hterms
  rw [← hlength] at htags
  exact ⟨by rw [Market.multiplier_eq]; exact htags, htimes⟩

/-- In every state that can be reached, all markets can be resolved. -/
theorem Reachable.resolvable {c : Contract} (hc : c.Reachable) :
    ∀ m ∈ c.arena.markets, m.Resolvable :=
  hc.markets resolvable_newMarket fun hm hevolves => hm.evolves hevolves

/-! ## Answers -/

/-- The call by which the oracle answers on the market in a place and returns a bond. -/
def answerCall (c : Contract) (n : Nat) (given : GivenAnswer) (bond now : Int) : Call :=
  .ask c.oracleId (.answer (.int n) given (.int bond) now)

/-- An answer of the oracle that succeeds and resolves the market in a place by a numerator. -/
structure Resolves (c : Contract) (n : Nat) (given : GivenAnswer) (bond now : Int)
    (numerator : Numerator) : Prop where
  /-- The call succeeds, and the oracle is told the resolution. -/
  succeeds : (c.step (c.answerCall n given bond now)).result = .ok (.resolved numerator)
  /-- The market is final, with this resolution. -/
  stored : ∃ after, (c.step (c.answerCall n given bond now)).after.arena.markets[n]? = some after ∧
    after.finalized = true ∧ after.numerator = numerator

/-- An answer of the oracle that resolves the market in a place by a numerator, and then fails
because it cannot be shown. -/
structure Strands (c : Contract) (n : Nat) (given : GivenAnswer) (bond now : Int)
    (numerator : Numerator) : Prop where
  /-- The call fails, and not as a refusal. -/
  fails : ∃ e, (c.step (c.answerCall n given bond now)).result = .error e ∧ e.kind = .badValue
  /-- The market is final, with this resolution. -/
  stored : ∃ after, (c.step (c.answerCall n given bond now)).after.arena.markets[n]? = some after ∧
    after.finalized = true ∧ after.numerator = numerator
  /-- The journal tells nothing of it. -/
  journal : (c.step (c.answerCall n given bond now)).after.journal = c.journal
  /-- The bond is not returned. -/
  outbox : (c.step (c.answerCall n given bond now)).after.outbox = c.outbox
  /-- No number is used up. -/
  nonces : (c.step (c.answerCall n given bond now)).after.nonces = c.nonces

/-- An answer is one that cannot be shown exactly if the journal cannot show it. -/
theorem mute?_of_read {given : GivenAnswer} {answer : Answer} (hread : given.read = .ok answer)
    (marketId bond : Value) (now : Int) :
    (Action.answer marketId given bond now).mute? =
      if answer.isWritable then none else some answer := by
  rw [Action.mute?, hread]

/-- The journal can show a number exactly if its parts can be written. -/
theorem isWritable_number {number : FixedPoint} :
    (Answer.number number).isWritable = true ↔
      Text.canWrite number.value = true ∧ Text.canWrite number.multiplier = true := by
  change Value.areWritable [.int number.value, .int number.multiplier, .bool number.negative] =
    true ↔ _
  simp [Value.areWritable, Value.isWritable]

/-- A due answer that is stored and resolves the market can be planned, with the bond for the
creator. -/
theorem plan_of_answer {c : Contract} {n : Nat} {m stored : Market}
    (hfound : c.arena.markets[n]? = some m) {bond now : Int} (hm : m.AwaitsAnswer bond now)
    {given : GivenAnswer} {answer : Answer} (hread : given.read = .ok answer)
    (hrecord : m.recordAnswer answer now = .ok stored) {after : Market} {numerator : Numerator}
    (hfinalize : stored.finalizeFromOracle now = .ok (after, numerator)) :
    ∃ plan, c.plan c.oracleId (.answer (.int n) given (.int bond) now) = .ok plan ∧
      plan.reply = .resolved numerator ∧ plan.after.arena = (c.store after).arena ∧
      ∀ p, plan.payment = some p → p.receiver = m.creator := by
  simp only [plan, Contract.answer, checkOracle_self, market_eq_ok hfound, hread, hrecord,
    hfinalize, checkAmount_eq_ok _ hm.bond_nonneg hm.bond_le, Except.mapError, ok_bind]
  split
  · refine ⟨_, rfl, rfl, rfl, fun p hp => ?_⟩
    obtain rfl := Option.some.inj hp
    rfl
  · refine ⟨_, rfl, rfl, rfl, fun p hp => ?_⟩
    cases hp

/-- A due answer by which the market is resolved can be planned, and leaves it final. -/
theorem Reachable.plan_resolves {c : Contract} (hc : c.Reachable) {n : Nat} {m : Market}
    (hfound : c.arena.markets[n]? = some m) {bond now : Int} (hm : m.AwaitsAnswer bond now)
    {given : GivenAnswer} {answer : Answer} (hread : given.read = .ok answer)
    {numerator : Numerator} (hresolve : m.resolve answer = .ok numerator) :
    ∃ plan, c.plan c.oracleId (.answer (.int n) given (.int bond) now) = .ok plan ∧
      plan.reply = .resolved numerator ∧ (∀ p, plan.payment = some p → p.receiver = m.creator) ∧
      ∃ after, (c.step (c.answerCall n given bond now)).after.arena.markets[n]? = some after ∧
        after.finalized = true ∧ after.numerator = numerator := by
  have hnumbered := hc.accounted.numbered n m hfound
  have hresolvable := hc.resolvable m (List.mem_of_getElem? hfound)
  obtain ⟨stored, hrecord, hfinalize, hid⟩ :=
    hresolvable.answer_eq_ok hm.undecided hm.due hresolve
  obtain ⟨plan, hplan, hreply, harena, hreceiver⟩ :=
    plan_of_answer hfound hm hread hrecord hfinalize
  have hfinal : (stored.finalize numerator).id = n := hid.trans hnumbered
  have hplace := getElem?_store hfinal hfound
  rw [if_pos rfl, ← harena, ← arena_ask hplan] at hplace
  exact ⟨plan, hplan, hreply, hreceiver, _, hplace, rfl, rfl⟩

/-- A due answer that the market is resolved by resolves the market, if it can be shown. -/
theorem Reachable.resolves {c : Contract} (hc : c.Reachable) {n : Nat} {m : Market}
    (hfound : c.arena.markets[n]? = some m) {bond now : Int} (hm : m.AwaitsAnswer bond now)
    {given : GivenAnswer} {answer : Answer} (hread : given.read = .ok answer)
    (hshown : answer.isWritable = true) {numerator : Numerator}
    (hresolve : m.resolve answer = .ok numerator) : c.Resolves n given bond now numerator := by
  obtain ⟨ids, hids⟩ := hc.numbered
  obtain ⟨plan, hplan, hreply, hreceiver, hstored⟩ := hc.plan_resolves hfound hm hread hresolve
  have hmute : (Action.answer (.int n) given (.int bond) now).mute? = none := by
    rw [mute?_of_read hread, if_pos hshown]
  refine ⟨(hids.result_eq_ok_iff hplan).2 ⟨hreply.symm, hmute, fun p hp _ => ?_⟩, hstored⟩
  rw [hreceiver p hp]
  exact hm.named

/-- A due answer that the market is resolved by, and which cannot be shown, leaves the market final
and fails. -/
theorem Reachable.strands {c : Contract} (hc : c.Reachable) {n : Nat} {m : Market}
    (hfound : c.arena.markets[n]? = some m) {bond now : Int} (hm : m.AwaitsAnswer bond now)
    {given : GivenAnswer} {answer : Answer} (hread : given.read = .ok answer)
    (hmute : answer.isWritable = false) {numerator : Numerator}
    (hresolve : m.resolve answer = .ok numerator) : c.Strands n given bond now numerator := by
  obtain ⟨plan, hplan, -, -, hstored⟩ := hc.plan_resolves hfound hm hread hresolve
  have hgranted := granted_of_plan hplan
  have hplanned := hgranted.planned
  have hfailure : plan.failure = some (.badAnswer answer) := by
    rw [hgranted.failure, mute?_of_read hread, if_neg (Bool.eq_false_iff.1 hmute)]
    rfl
  rcases ask_of_planned hplan with ⟨e, hfails, -, hafter, hresult⟩ | ⟨hlasting, -⟩ |
    ⟨_, hlasting, -⟩
  · obtain rfl : .badAnswer answer = e := Option.some.inj (hfailure.symm.trans hfails)
    refine ⟨⟨_, hresult, rfl⟩, hstored, ?_, ?_, ?_⟩
    · exact (congrArg Contract.journal hafter).trans (hgranted.journal_of_failure hfailure)
    · exact (congrArg Contract.outbox hafter).trans hplanned.outbox
    · exact (congrArg Contract.nonces hafter).trans hplanned.nonces
  · cases hfailure.symm.trans hlasting
  · cases hfailure.symm.trans hlasting

/-- A number with a positive multiplier whose magnitude is not negative leads to a vector for a
scalar market. The call succeeds if the number can be shown. -/
theorem Reachable.resolves_number {c : Contract} (hc : c.Reachable) {n : Nat} {m : Market}
    (hfound : c.arena.markets[n]? = some m) {bond now : Int} (hm : m.AwaitsAnswer bond now)
    (hscalar : m.isScalar = true) {given : GivenAnswer} {number : FixedPoint}
    (hread : given.read = .ok (.number number)) (hvalue : 0 ≤ number.value)
    (hmultiplier : 0 < number.multiplier) :
    ∃ values,
      (Text.canWrite number.value = true ∧ Text.canWrite number.multiplier = true →
        c.Resolves n given bond now (.valid values)) ∧
      (¬(Text.canWrite number.value = true ∧ Text.canWrite number.multiplier = true) →
        c.Strands n given bond now (.valid values)) := by
  have hmem := List.mem_of_getElem? hfound
  have htags := (hc.resolvable m hmem).tags
  rw [hscalar] at htags
  obtain ⟨values, hvector⟩ := Resolution.resolve_number htags
    (hc.sound m hmem).wellFormed.denomination_pos.le hvalue hmultiplier
  have hresolve : m.resolve (.number number) = .ok (.valid values) := by
    rw [Market.resolve, hscalar, hvector]
    rfl
  refine ⟨values, fun hshort => ?_, fun hlong => ?_⟩
  · exact hc.resolves hfound hm hread (isWritable_number.2 hshort) hresolve
  · exact hc.strands hfound hm hread (Bool.eq_false_iff.2 (mt isWritable_number.1 hlong)) hresolve

/-- A due answer that does not resolve the market is refused, and nothing changes. -/
theorem answer_refused {c : Contract} {n : Nat} {m : Market}
    (hfound : c.arena.markets[n]? = some m) {bond now : Int} (hm : m.AwaitsAnswer bond now)
    {given : GivenAnswer} {answer : Answer} (hread : given.read = .ok answer) {e : MarketError}
    (hresolve : m.resolve answer = .error e) :
    (c.step (c.answerCall n given bond now)).result = .error (.market e) ∧
      (c.step (c.answerCall n given bond now)).after = c := by
  have hrecord : m.recordAnswer answer now = .error e := by
    rw [Market.recordAnswer, hm.undecided, refuseIf_bind, if_neg (by decide), refuseIf_bind,
      if_neg (not_lt.2 hm.due), hresolve]
    rfl
  refine ask_of_refused (e := .market e) ?_
  simp only [plan, Contract.answer, checkOracle_self, market_eq_ok hfound, hread, hrecord,
    checkAmount_eq_ok _ hm.bond_nonneg hm.bond_le, Except.mapError, ok_bind]
  rfl

/-! ## Claims -/

/-- Why a claim on a market fails. -/
inductive ClaimFails : ContractError → Prop
  /-- The contract is stopped. -/
  | stopped : ClaimFails .paused
  /-- The market is not final. -/
  | notFinal (marketId : Int) : ClaimFails (.market (.notFinalized marketId))
  /-- There is nothing to pay. -/
  | nothing (account : Text) : ClaimFails (.market (.pool (.nothingToClaim account)))
  /-- The payment cannot be numbered. -/
  | unnumbered (e : NonceError) : ClaimFails (.nonce e)
  /-- The outbox refuses the payment. -/
  | refused (e : OutboxError) : ClaimFails (.outbox e)

/-- No claim fails for the vector of the resolution or for the bounds of the market. -/
theorem ClaimFails.kind_ne {e : ContractError} (h : ClaimFails e) :
    e.kind ≠ .refusal .payoutLengthMismatch ∧ e.kind ≠ .refusal .payoutSumMismatch ∧
      e.kind ≠ .refusal .wrongBounds := by
  have hmeant : e.notice.meant ≠ .refusal .payoutLengthMismatch ∧
      e.notice.meant ≠ .refusal .payoutSumMismatch ∧ e.notice.meant ≠ .refusal .wrongBounds := by
    cases h with
    | stopped | notFinal | nothing => exact ⟨nofun, nofun, nofun⟩
    | unnumbered e =>
      cases e
      exact ⟨nofun, nofun, nofun⟩
    | refused e =>
      cases e with
      | encoding e =>
        cases e <;> exact ⟨nofun, nofun, nofun⟩
      | _ => exact ⟨nofun, nofun, nofun⟩
  -- An error that is met is what it is meant to be, or one of a bad value.
  exact ⟨fun h => hmeant.1 (Notice.kind_eq_refusal.1 h).2,
    fun h => hmeant.2.1 (Notice.kind_eq_refusal.1 h).2,
    fun h => hmeant.2.2 (Notice.kind_eq_refusal.1 h).2⟩

/-- A claim on a market of a contract that can be reached fails for one of five reasons. -/
theorem Reachable.claim_fails {c : Contract} (hc : c.Reachable) {n : Nat} {m : Market}
    (hfound : c.arena.markets[n]? = some m) {account : Text} {e : ContractError}
    (hfailed : (c.step (.ask account (.claim (.int n)))).result = .error e) : ClaimFails e := by
  have hsound := hc.sound m (List.mem_of_getElem? hfound)
  have hfailed : (c.ask account (.claim (.int n))).result = .error e := hfailed
  cases hplan : c.plan account (.claim (.int n)) with
  | ok plan =>
    rcases ask_error hplan hfailed with ⟨_, hmute, -⟩ | ⟨cause, rfl⟩ | ⟨cause, rfl⟩
    · cases hmute
    · exact .unnumbered cause
    · exact .refused cause
  | error cause =>
    obtain rfl : cause = e := by
      rw [(ask_of_refused hplan).1] at hfailed
      exact Except.error.inj hfailed
    cases hpaused : c.paused with
    | true =>
      rw [plan, Contract.claim, checkRunning, hpaused, refuseIf_bind, if_pos rfl] at hplan
      cases hplan
      exact .stopped
    | false =>
      cases hfinal : m.finalized with
      | true =>
        have hclaimable := hc.claimable hpaused hfound hfinal
        obtain ⟨vector, hvector⟩ := hsound.pays hfinal
        rcases Pool.payout_cases hsound.wellFormed hsound.ledgered hvector account with
          ⟨_, _, hpaid, -⟩ | ⟨hrefused, -⟩
        · obtain ⟨_, _, hplanned, -⟩ := hclaimable.plan_of_paid hpaid
          rw [hplanned] at hplan
          cases hplan
        · rw [hclaimable.plan_of_refused hrefused] at hplan
          cases hplan
          exact .nothing account
      | false =>
        have hopen : m.claim account = .error (.notFinalized m.id) := by
          rw [Market.claim, hfinal, refuseIf_bind, if_pos (by decide)]
        rw [plan, Contract.claim, checkRunning, hpaused, refuseIf_bind, if_neg (by decide),
          market_eq_ok hfound, ok_bind, hopen] at hplan
        cases hplan
        exact .notFinal m.id

/-- **Every market can be resolved**: as long as a market is not final, from the time of its
resolution on, the oracle can make it invalid, and an answer with the label of an outcome gives the
denomination to this outcome, while a label of no outcome is refused without a change. A number with
a positive multiplier whose magnitude is not negative leads to a vector if the market is scalar: if
the number can be written then the call succeeds, and otherwise it fails once the market is final,
with nothing told and the bond not returned. Each vector that is stored divides the denomination
among the outcomes, and no claim on the market fails for its vector or its bounds. -/
theorem markets_can_be_resolved {c : Contract} (hc : c.Reachable) {n : Nat} {m : Market}
    (hfound : c.arena.markets[n]? = some m) :
    (∀ bond now, m.AwaitsAnswer bond now →
      (∀ given, given.read = .ok .invalid → c.Resolves n given bond now .invalid) ∧
      (m.isScalar = false →
        (∀ i < m.pool.outcomes, ∃ label, m.tags[i]? = some (.label label) ∧
          ∀ given, given.read = .ok (.label label) → c.Resolves n given bond now
            (.valid ((List.replicate m.pool.outcomes 0).set i m.pool.denomination))) ∧
        ∀ given label, given.read = .ok (.label label) → Tag.label label ∉ m.tags →
          ∃ e, (c.step (c.answerCall n given bond now)).result = .error e ∧
            e.kind = .refusal .outcomeNotFound ∧
            (c.step (c.answerCall n given bond now)).after = c) ∧
      (m.isScalar = true → ∀ given number, given.read = .ok (.number number) →
        0 ≤ number.value → 0 < number.multiplier →
          ∃ values,
            (Text.canWrite number.value = true ∧ Text.canWrite number.multiplier = true →
              c.Resolves n given bond now (.valid values)) ∧
            (¬(Text.canWrite number.value = true ∧ Text.canWrite number.multiplier = true) →
              c.Strands n given bond now (.valid values)))) ∧
    (∀ values, m.numerator = .valid values →
      Numerator.Divides values m.pool.outcomes m.pool.denomination) ∧
    ∀ account e, (c.step (.ask account (.claim (.int n)))).result = .error e →
      e.kind ≠ .refusal .payoutLengthMismatch ∧ e.kind ≠ .refusal .payoutSumMismatch ∧
        e.kind ≠ .refusal .wrongBounds := by
  have hm := List.mem_of_getElem? hfound
  have hsound := hc.sound m hm
  have htags := (hc.resolvable m hm).tags
  have hdenomination := hsound.wellFormed.denomination_pos.le
  refine ⟨fun bond now hawaits => ⟨fun given hread => ?_, fun hcategorical => ⟨fun i hi => ?_,
    fun given label hread hnone => ?_⟩, fun hscalar given number hread hvalue hmultiplier => ?_⟩,
    fun values hvalues => (hc.decided m hm).divides hvalues,
    fun account e hfailed => (hc.claim_fails hfound hfailed).kind_ne⟩
  · exact hc.resolves hfound hawaits hread rfl rfl
  · rw [hcategorical] at htags
    obtain ⟨label, hlabel, hresolve⟩ :=
      Resolution.resolve_label htags hdenomination (hsound.tags ▸ hi) m.multiplier
    refine ⟨label, hlabel, fun given hread => hc.resolves hfound hawaits hread rfl ?_⟩
    rw [Market.resolve, hcategorical, hresolve, hsound.tags]
    rfl
  · have hresolve := Resolution.resolve_of_not_mem hnone m.pool.denomination m.multiplier
    have hrefused : m.resolve (.label label) = .error (.resolution (.labelNotFound label)) := by
      rw [Market.resolve, hcategorical, hresolve]
      rfl
    obtain ⟨hresult, hafter⟩ := answer_refused hfound hawaits hread hrefused
    exact ⟨_, hresult, rfl, hafter⟩
  · exact hc.resolves_number hfound hawaits hscalar hread hvalue hmultiplier

/-- The oracle can give the whole denomination to the first outcome of a market by its label, and
return a bond of five units. -/
theorem markets_can_be_resolved_by_yes :
    ∃ m : Market, (createdBy "a").Reachable ∧ (createdBy "a").arena.markets[0]? = some m ∧
      m.AwaitsAnswer 5 20 ∧
      (createdBy "a").Resolves 0 (.plain (.label "yes")) 5 20 (.valid [1, 0]) := by
  have hreachable : (createdBy "a").Reachable := ⟨_, "g", "o", creationBy "a", rfl⟩
  have hcreated : (createdBy "a").arena.markets[0]?.map
      (fun m => ((m.finalized, m.resolutionTime, m.creator.hasSurrogate), m.isScalar,
        m.pool.outcomes, m.pool.denomination, m.tags[0]?)) =
      some ((false, 20, false), false, 2, 1, some (.label "yes")) := by
    decide +kernel
  obtain ⟨m, hm, hfields⟩ := Option.map_eq_some_iff.1 hcreated
  simp only [Prod.mk.injEq] at hfields
  obtain ⟨⟨hopen, htime, hnamed⟩, hcategorical, houtcomes, hdenomination, htag⟩ := hfields
  have hawaits : m.AwaitsAnswer 5 20 := ⟨hopen, htime.le, by decide, by decide, hnamed⟩
  obtain ⟨hlabels, -⟩ := ((markets_can_be_resolved hreachable hm).1 5 20 hawaits).2.1 hcategorical
  obtain ⟨label, hlabel, hresolves⟩ := hlabels 0 (by omega)
  obtain rfl : "yes" = label := Tag.label.inj (Option.some.inj (htag.symm.trans hlabel))
  rw [houtcomes, hdenomination] at hresolves
  exact ⟨m, hreachable, hm, hawaits, hresolves _ rfl⟩

/-- Calls that create a market with a scale from zero to ten. -/
def scaleCreation : List Call :=
  [.ask "a" (.createMarket
    { outcomes := 2, tags := [.number ⟨0, 1, false⟩, .number ⟨10, 1, false⟩], endTime := 10,
      resolutionTime := 20, collateral := "T", swapFee := 100, isScalar := true,
      scalarMultiplier := some 1 } (.int 0) 0)]

/-- The state after these calls. -/
def createdScale : Contract :=
  (make { whitelist := Table.ofList [("T", 0)], validityBond := 0, maxSwapFee := 100 } "g" "o").run
    scaleCreation

/-- The answer of a number with one digit too many, which is far above the scale, makes the market
final, and fails. -/
theorem long_number_strands_market :
    ∃ (m : Market) (values : List Int), createdScale.Reachable ∧
      createdScale.arena.markets[0]? = some m ∧ m.AwaitsAnswer 5 20 ∧
      createdScale.Strands 0 (.plain (.number ⟨10 ^ Text.digitLimit, 1, false⟩)) 5 20
        (.valid values) ∧
      ∀ numerator,
        ¬createdScale.Resolves 0 (.plain (.number ⟨10 ^ Text.digitLimit, 1, false⟩)) 5 20
          numerator := by
  have hreachable : createdScale.Reachable := ⟨_, "g", "o", scaleCreation, rfl⟩
  have hcreated : createdScale.arena.markets[0]?.map
      (fun m => ((m.finalized, m.resolutionTime, m.creator.hasSurrogate), m.isScalar)) =
      some ((false, 20, false), true) := by
    decide +kernel
  obtain ⟨m, hm, hfields⟩ := Option.map_eq_some_iff.1 hcreated
  simp only [Prod.mk.injEq] at hfields
  obtain ⟨⟨hopen, htime, hnamed⟩, hscalar⟩ := hfields
  have hawaits : m.AwaitsAnswer 5 20 := ⟨hopen, htime.le, by decide, by decide, hnamed⟩
  have hlong := Text.canWrite_pow_digitLimit
  have hpositive : (0 : Int) < 10 ^ Text.digitLimit := Int.pow_pos (by decide)
  generalize (10 : Int) ^ Text.digitLimit = value at hlong hpositive ⊢
  have hread : (GivenAnswer.plain (.number ⟨value, 1, false⟩)).read =
      .ok (.number ⟨value, 1, false⟩) := rfl
  obtain ⟨values, -, hstrands⟩ :=
    hreachable.resolves_number hm hawaits hscalar hread hpositive.le Int.one_pos
  have hstranded := hstrands fun hshort => Bool.eq_false_iff.1 hlong hshort.1
  refine ⟨m, values, hreachable, hm, hawaits, hstranded, fun numerator hresolves => ?_⟩
  obtain ⟨e, hfailed, -⟩ := hstranded.fails
  rw [hresolves.succeeds] at hfailed
  cases hfailed

end Contract

end PredictionMarket
