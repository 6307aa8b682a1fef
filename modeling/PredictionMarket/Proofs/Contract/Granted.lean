import PredictionMarket.Contract.Call

/-!
# What is granted

An action that an account asks for is granted or turned down. Each kind of action that is granted
has one case here: what was tested before, and what is planned then. All that is known of actions is
read off these cases, so that no other proof has to follow a call through its tests.
-/

namespace PredictionMarket

/-- The answer that an action gives, if it cannot be shown. -/
def Action.mute? : Action → Option Answer
  | .answer _ given _ _ =>
    match given.read with
    | .ok given => if given.isWritable then none else some given
    | .error _ => none
  | _ => none

namespace Contract

/-- A contract, an action of an account that it grants, and the plan for it. The lines that are
logged are left open. -/
inductive Granted (c : Contract) (sender : Text) : Action → Plan → Prop
  /-- Governance passes to another account. -/
  | setGov {account : Text} {log : List LogLine} (governs : sender = c.gov)
      (named : account.isEmpty = false) :
      Granted c sender (.setGov (some account)) {
        reply := .done
        after := { c with gov := account }.record none (.governanceChanged account)
        log }
  /-- The contract is stopped. -/
  | pause {log : List LogLine} (governs : sender = c.gov) :
      Granted c sender .pause { reply := .done, after := { c with paused := true }, log }
  /-- The contract is restarted. -/
  | unpause {log : List LogLine} (governs : sender = c.gov) :
      Granted c sender .unpause { reply := .done, after := { c with paused := false }, log }
  /-- A collateral token is accepted. -/
  | setCollateral {token : Text} {decimals : Value} {d : Int} {log : List LogLine}
      (governs : sender = c.gov) (named : token.isEmpty = false)
      (checked : checkDecimals decimals = .ok d) :
      Granted c sender (.setCollateral (some token) decimals) {
        reply := .done
        after := { c with whitelist := c.whitelist.insert token d }
        log }
  /-- A collateral token is accepted no longer. -/
  | removeCollateral {token : Text} {log : List LogLine} (governs : sender = c.gov)
      (listed : (c.whitelist.get? token).isSome = true) :
      Granted c sender (.removeCollateral token) {
        reply := .done
        after := { c with whitelist := c.whitelist.erase token }
        log }
  /-- A market is switched on or off. -/
  | switchMarket {n : Nat} {m : Market} {enabled : Bool} {log : List LogLine}
      (governs : sender = c.gov) (found : c.arena.markets[n]? = some m) :
      Granted c sender (.switchMarket (.int n) enabled) {
        reply := .done
        after := (c.store { m with enabled }).record (some m.id) (.switched enabled m.finalized)
        log }
  /-- A market is created, and the oracle accepts its request. -/
  | createMarket {terms : MarketTerms} {bond : Value} {now decimals : Int} {m : Market}
      {request : DataRequest} {oracle : Oracle} {log : List LogLine} (running : c.paused = false)
      (covered : c.checkBond bond = .ok ()) (checked : c.checkTerms terms now = .ok decimals)
      (made : c.newMarket sender terms decimals = .ok m)
      (requested : c.requestOf m = .ok request)
      (accepted : c.oracle.accept request = .ok oracle) :
      Granted c sender (.createMarket terms bond now) {
        reply := .created m.id
        after := ({ c with oracle, arena := ⟨c.arena.markets ++ [m]⟩ }.record (some m.id)
          (creationEvent m)).record (some m.id) (.statusChanged (m.status now))
        log }
  /-- The account trades in a market. -/
  | trade {n : Nat} {m after : Market} {t : Trade Value} {checked : Trade Int} {now : Int}
      {r : Receipt} {log : List LogLine} (running : c.paused = false) (check : t.check = .ok checked)
      (found : c.arena.markets[n]? = some m) (trade : m.trade sender checked now = .ok (after, r)) :
      Granted c sender (.trade (.int n) t now) {
        reply := .traded r
        after := (c.store after).record (some m.id) (.traded sender r)
        log
        payment := r.owed.map fun (kind, amount) =>
          ⟨m.id, sender, .text m.pool.token, amount, kind⟩ }
  /-- A market is resolved by a ruling. -/
  | rule {n : Nat} {m after : Market} {vector : Option (List Value)} {now : Int}
      {numerator : Numerator} {log : List LogLine} (governs : sender = c.gov)
      (found : c.arena.markets[n]? = some m) (rule : m.rule vector now = .ok (after, numerator)) :
      Granted c sender (.rule (.int n) vector now) {
        reply := .resolved numerator
        after := (c.store after).recordFinal after .governance
        log }
  /-- A market is resolved by an answer, and the bond is returned. -/
  | answer {n : Nat} {m stored after : Market} {given : GivenAnswer} {answer : Answer}
      {bond now : Int} {numerator : Numerator} {log : List LogLine} (answers : sender = c.oracleId)
      (read : given.read = .ok answer) (found : c.arena.markets[n]? = some m)
      (record : m.recordAnswer answer now = .ok stored)
      (finalize : stored.finalizeFromOracle now = .ok (after, numerator))
      (writable : answer.isWritable = true) :
      Granted c sender (.answer (.int n) given (.int bond) now) {
        reply := .resolved numerator
        after := ((c.store after).record (some m.id) (.answerRecorded answer)).recordFinal after
          .oracle
        log
        payment := some ⟨m.id, m.creator, c.config.bondToken, bond, .validityBond⟩ }
  /-- A market is resolved by an answer that cannot be shown, and the call is to fail after that. -/
  | muteAnswer {n : Nat} {m stored after : Market} {given : GivenAnswer} {answer : Answer}
      {bond now : Int} {numerator : Numerator} (answers : sender = c.oracleId)
      (read : given.read = .ok answer) (found : c.arena.markets[n]? = some m)
      (record : m.recordAnswer answer now = .ok stored)
      (finalize : stored.finalizeFromOracle now = .ok (after, numerator))
      (unwritable : answer.isWritable = false) :
      Granted c sender (.answer (.int n) given (.int bond) now) {
        reply := .resolved numerator
        after := c.store after
        log := []
        failure := some (.badAnswer answer) }
  /-- The account is paid for what it holds in a market. -/
  | claim {n : Nat} {m after : Market} {s : Settlement} {log : List LogLine}
      (running : c.paused = false) (found : c.arena.markets[n]? = some m)
      (claim : m.claim sender = .ok (after, s)) :
      Granted c sender (.claim (.int n)) {
        reply := .settled s
        after := (c.store after).record (some m.id) (.earningsClaimed sender s)
        log
        payment := some ⟨m.id, sender, .text m.pool.token, s.total, .claim⟩ }

/-! ## Tests -/

/-- Only the governing account passes for governance. -/
theorem checkGovernance_ok {c : Contract} {sender : Text} {u : Unit} :
    c.checkGovernance sender = .ok u ↔ sender = c.gov := by
  rw [checkGovernance, refuseIf_eq_ok, Decidable.not_not]

/-- Only the account of the oracle passes for the oracle. -/
theorem checkOracle_ok {c : Contract} {sender : Text} {u : Unit} :
    c.checkOracle sender = .ok u ↔ sender = c.oracleId := by
  rw [checkOracle, refuseIf_eq_ok, Decidable.not_not]

/-- The account of the oracle may answer. -/
theorem checkOracle_self (c : Contract) : c.checkOracle c.oracleId = .ok () :=
  checkOracle_ok.2 rfl

/-- A contract that runs is not paused. -/
theorem checkRunning_ok {c : Contract} {u : Unit} : c.checkRunning = .ok u ↔ c.paused = false := by
  rw [checkRunning, refuseIf_eq_ok, Bool.not_eq_true]

/-- An amount that passes is the integer that is given. -/
theorem checkAmount_ok {name : String} {amount : Value} {n : Int}
    (h : checkAmount name amount = .ok n) : amount = .int n := by
  unfold checkAmount at h
  split at h
  · split at h
    · cases h
    · cases h
      rfl
  · cases h

/-- A number of at most 128 bits is an amount. -/
theorem checkAmount_eq_ok (name : String) {n : Int} (hnonneg : 0 ≤ n) (hmost : n ≤ Part.maxAmount) :
    checkAmount name (.int n) = .ok n := by
  rw [checkAmount, if_neg (by omega)]

/-- A positive number of at most 128 bits is an amount that is not zero. -/
theorem checkPositive_eq_ok (name : String) {n : Int} (hpositive : 0 < n)
    (hmost : n ≤ Part.maxAmount) : checkPositive name (.int n) = .ok n := by
  have hzero : ¬n = 0 := by omega
  rw [checkPositive, checkAmount_eq_ok name (by omega) hmost, ok_bind, refuseIf_bind, if_neg hzero]
  rfl

/-- A market that is found stands in the place that its number gives. -/
theorem market_ok {c : Contract} {marketId : Value} {m : Market}
    (h : c.market marketId = .ok m) :
    ∃ n : Nat, marketId = .int n ∧ c.arena.markets[n]? = some m := by
  simp only [market, mapError_eq_ok, Arena.get, bind_eq_ok] at h
  obtain ⟨slot, hslot, h⟩ := h
  unfold Arena.slot at hslot
  split at hslot
  · next n =>
    split at hslot
    · next hrange =>
      cases hslot
      refine ⟨n.toNat, by rw [Int.toNat_of_nonneg hrange.1], ?_⟩
      split at h
      · next hfound =>
        cases h
        exact hfound
      · cases h
    · cases hslot
  · cases hslot

/-- A new market has a new pool, and what the terms and the configuration say. -/
theorem newMarket_ok {c : Contract} {sender : Text} {terms : MarketTerms} {decimals : Int}
    {m : Market} (h : c.newMarket sender terms decimals = .ok m) :
    ∃ pool, Pool.make c.arena.nextId terms.outcomes terms.collateral decimals terms.swapFee =
        .ok pool ∧
      m = { id := c.arena.nextId
            creator := sender
            pool
            tags := terms.tags
            endTime := terms.endTime
            resolutionTime := terms.resolutionTime
            isScalar := terms.isScalar
            scalarMultiplier := terms.scalarMultiplier
            challengePeriod := terms.challengePeriod.getD c.config.challengePeriod
            validityBond := c.config.validityBond
            description := terms.description
            extraInfo := terms.extraInfo
            categories := terms.categories
            sources := terms.sources } := by
  simp only [newMarket, bind_eq_ok, mapError_eq_ok, pure, Except.pure, Except.ok.injEq] at h
  obtain ⟨pool, hpool, rfl⟩ := h
  exact ⟨pool, hpool, rfl⟩

/-! ## Settings -/

/-- Two states that differ at most in their markets, in what they owe, and in what they did. -/
def SameSettings (c other : Contract) : Prop :=
  ∃ arena outbox nonces journal requests,
    other = { c with arena, outbox, nonces, journal, oracle := { c.oracle with requests } }

namespace SameSettings

variable {c other : Contract}

/-- The configuration is the same. -/
theorem config (h : c.SameSettings other) : other.config = c.config := by
  obtain ⟨_, _, _, _, _, rfl⟩ := h
  rfl

/-- The same accounts pass for governance. -/
theorem checkGovernance (h : c.SameSettings other) (sender : Text) :
    other.checkGovernance sender = c.checkGovernance sender := by
  obtain ⟨_, _, _, _, _, rfl⟩ := h
  rfl

/-- The same accounts pass for the oracle. -/
theorem checkOracle (h : c.SameSettings other) (sender : Text) :
    other.checkOracle sender = c.checkOracle sender := by
  obtain ⟨_, _, _, _, _, rfl⟩ := h
  rfl

/-- Both are paused, or none is. -/
theorem checkRunning (h : c.SameSettings other) : other.checkRunning = c.checkRunning := by
  obtain ⟨_, _, _, _, _, rfl⟩ := h
  rfl

/-- The same market is opened if it gets the same number. -/
theorem newMarket (h : c.SameSettings other) (hnext : other.arena.nextId = c.arena.nextId)
    (sender : Text) (terms : MarketTerms) (decimals : Int) :
    other.newMarket sender terms decimals = c.newMarket sender terms decimals := by
  simp only [Contract.newMarket, hnext, h.config]

end SameSettings

/-! ## Actions -/

/-- An action that can be planned is granted. -/
theorem granted_of_plan {c : Contract} {sender : Text} {action : Action} {plan : Plan}
    (h : c.plan sender action = .ok plan) : c.Granted sender action plan := by
  cases action with
  | setGov account =>
    simp only [Contract.plan, Contract.setGov, bind_eq_ok, checkGovernance_ok] at h
    obtain ⟨_, hgoverns, h⟩ := h
    cases account with
    | none => cases h
    | some account =>
      simp only [bind_eq_ok, refuseIf_eq_ok, pure, Except.pure, Except.ok.injEq,
        Bool.not_eq_true] at h
      obtain ⟨_, hnamed, rfl⟩ := h
      exact .setGov hgoverns hnamed
  | pause =>
    simp only [Contract.plan, Contract.pause, bind_eq_ok, checkGovernance_ok, pure, Except.pure,
      Except.ok.injEq] at h
    obtain ⟨_, hgoverns, rfl⟩ := h
    exact .pause hgoverns
  | unpause =>
    simp only [Contract.plan, Contract.unpause, bind_eq_ok, checkGovernance_ok, pure, Except.pure,
      Except.ok.injEq] at h
    obtain ⟨_, hgoverns, rfl⟩ := h
    exact .unpause hgoverns
  | setCollateral token decimals =>
    simp only [Contract.plan, Contract.setCollateral, bind_eq_ok, checkGovernance_ok] at h
    obtain ⟨_, hgoverns, h⟩ := h
    cases token with
    | none => cases h
    | some token =>
      simp only [bind_eq_ok, refuseIf_eq_ok, pure, Except.pure, Except.ok.injEq,
        Bool.not_eq_true] at h
      obtain ⟨_, hnamed, d, hchecked, rfl⟩ := h
      exact .setCollateral hgoverns hnamed hchecked
  | removeCollateral token =>
    simp only [Contract.plan, Contract.removeCollateral, bind_eq_ok, checkGovernance_ok,
      refuseIf_eq_ok, pure, Except.pure, Except.ok.injEq, Bool.not_eq_true,
      Option.isNone_eq_false_iff] at h
    obtain ⟨_, hgoverns, _, hlisted, rfl⟩ := h
    exact .removeCollateral hgoverns hlisted
  | switchMarket marketId enabled =>
    simp only [Contract.plan, Contract.switchMarket, bind_eq_ok, checkGovernance_ok, pure,
      Except.pure, Except.ok.injEq] at h
    obtain ⟨_, hgoverns, m, hmarket, rfl⟩ := h
    obtain ⟨n, rfl, hfound⟩ := market_ok hmarket
    exact .switchMarket hgoverns hfound
  | createMarket terms bond now =>
    simp only [Contract.plan, Contract.createMarket, Arena.push, bind_eq_ok, checkRunning_ok,
      refuseIf_eq_ok, mapError_eq_ok, pure, Except.pure, Except.ok.injEq] at h
    obtain ⟨_, hrunning, _, hcovered, decimals, hchecked, m, hmade, request, hrequested, oracle,
      haccepted, _, ⟨_, -, rfl⟩, rfl⟩ := h
    exact .createMarket hrunning hcovered hchecked hmade hrequested haccepted
  | trade marketId t now =>
    simp only [Contract.plan, Contract.trade, bind_eq_ok, checkRunning_ok, mapError_eq_ok, pure,
      Except.pure, Except.ok.injEq, Prod.exists] at h
    obtain ⟨_, hrunning, checked, hcheck, m, hmarket, after, r, htrade, rfl⟩ := h
    obtain ⟨n, rfl, hfound⟩ := market_ok hmarket
    exact .trade hrunning hcheck hfound htrade
  | rule marketId vector now =>
    simp only [Contract.plan, Contract.rule, bind_eq_ok, checkGovernance_ok, mapError_eq_ok, pure,
      Except.pure, Except.ok.injEq, Prod.exists] at h
    obtain ⟨_, hgoverns, m, hmarket, after, numerator, hrule, rfl⟩ := h
    obtain ⟨n, rfl, hfound⟩ := market_ok hmarket
    exact .rule hgoverns hfound hrule
  | answer marketId given bond now =>
    simp only [Contract.plan, Contract.answer, bind_eq_ok, checkOracle_ok, mapError_eq_ok, pure,
      Except.pure, Prod.exists] at h
    obtain ⟨_, hanswers, amount, hamount, answer, hread, m, hmarket, stored, hrecord, after,
      numerator, hfinalize, h⟩ := h
    obtain ⟨n, rfl, hfound⟩ := market_ok hmarket
    obtain rfl := checkAmount_ok hamount
    split at h
    · next hwritable =>
      cases h
      exact .answer hanswers hread hfound hrecord hfinalize hwritable
    · next hunwritable =>
      cases h
      exact .muteAnswer hanswers hread hfound hrecord hfinalize (Bool.eq_false_iff.2 hunwritable)
  | claim marketId =>
    simp only [Contract.plan, Contract.claim, bind_eq_ok, checkRunning_ok, mapError_eq_ok, pure,
      Except.pure, Except.ok.injEq, Prod.exists] at h
    obtain ⟨_, hrunning, m, hmarket, after, s, hclaim, rfl⟩ := h
    obtain ⟨n, rfl, hfound⟩ := market_ok hmarket
    exact .claim hrunning hfound hclaim

/-- The plan for an action is to fail exactly if the action gives an answer that cannot be shown. -/
theorem Granted.failure {c : Contract} {sender : Text} {action : Action} {plan : Plan}
    (h : c.Granted sender action plan) :
    plan.failure = action.mute?.map .badAnswer := by
  cases h with
  | answer _ hread _ _ _ hwritable =>
    simp only [Action.mute?, hread, hwritable, if_true, Option.map]
  | muteAnswer _ hread _ _ _ hunwritable =>
    simp only [Action.mute?, hread, hunwritable, Bool.false_eq_true, if_false, Option.map]
  | _ => rfl

/-- Nothing is to be paid for an answer that cannot be shown. -/
theorem Granted.payment_of_failure {c : Contract} {sender : Text} {action : Action} {plan : Plan}
    (h : c.Granted sender action plan) {e : ContractError} (hfailure : plan.failure = some e) :
    plan.payment = none := by
  cases h with
  | muteAnswer => rfl
  | _ => cases hfailure

/-- What leads to a payment is not to fail before it. -/
theorem Granted.failure_of_payment {c : Contract} {sender : Text} {action : Action} {plan : Plan}
    (h : c.Granted sender action plan) {p : Payment} (hpayment : plan.payment = some p) :
    plan.failure = none := by
  cases h with
  | muteAnswer => cases hpayment
  | _ => rfl

/-- The journal tells nothing of an answer that cannot be shown. -/
theorem Granted.journal_of_failure {c : Contract} {sender : Text} {action : Action} {plan : Plan}
    (h : c.Granted sender action plan) {e : ContractError} (hfailure : plan.failure = some e) :
    plan.after.journal = c.journal := by
  cases h with
  | muteAnswer => rfl
  | _ => cases hfailure

end Contract

end PredictionMarket
