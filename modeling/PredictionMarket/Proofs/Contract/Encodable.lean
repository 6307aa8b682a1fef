import PredictionMarket.Proofs.Contract.Drain
import PredictionMarket.Proofs.Contract.StateRoot
import PredictionMarket.Proofs.Contract.Tally
import PredictionMarket.Proofs.Pool.Accounts

/-!
# Runs that keep the state root

All texts of a state come from the settings of the contract or were brought in by calls: the names
of the accounts that ask, the terms of markets, the tokens and accounts that governance names, and
the reasons of failures. A contract to which only texts without a surrogate are brought has a state
root as long as its numbers can be written.
-/

namespace PredictionMarket

/-! ## What is brought in -/

/-- The texts in the terms of a market. The collateral is not among them; it has to be accepted
beforehand. -/
def MarketTerms.texts (terms : MarketTerms) : List Text :=
  terms.description :: terms.extraInfo ::
    (terms.tags.flatMap Tag.texts ++ terms.categories ++ terms.sources)

/-- The texts that an action brings in. -/
def Action.texts : Action → List Text
  | .setGov account => account.toList
  | .setCollateral token _ => token.toList
  | .createMarket terms _ _ => terms.texts
  | _ => []

/-- The texts that a call brings in: the account that asks and the texts of what it asks for, or the
reason of a failure. -/
def Contract.brought (c : Contract) (call : Call) : List Text :=
  match c.request? call, call with
  | some (sender, action), _ => sender :: action.texts
  | none, .reportFailure _ reason => [reason.shown]
  | none, _ => []

/-! ## Markets -/

/-- A pool that admits an account has no texts but the account and those from before. -/
theorem Pool.Admits.texts {p after : Pool} {sender : Text} (h : p.Admits sender after) :
    ∀ t ∈ after.texts, t = sender ∨ t ∈ p.texts := by
  intro t ht
  simp only [Pool.texts, List.mem_cons, List.mem_append, List.mem_map] at ht ⊢
  rcases ht with htoken | ((hstake | hwithdrawn) | ⟨holding, hshares, rfl⟩)
  · exact .inr (.inl (htoken.trans h.token))
  · rcases h.stakes t hstake with hown | hold
    · exact .inl hown
    · exact .inr (.inr (.inl (.inl hold)))
  · rcases h.withdrawn t hwithdrawn with hown | hold
    · exact .inl hown
    · exact .inr (.inr (.inl (.inr hold)))
  · rcases h.shares holding hshares with hown | hold
    · exact .inl hown
    · exact .inr (.inr (.inr ⟨holding, hold, rfl⟩))

namespace Market

/-- A market with a pool that admits an account has no texts but the account and those from
before. -/
theorem texts_withPool {m : Market} {pool : Pool} {sender : Text} (h : m.pool.Admits sender pool) :
    ∀ t ∈ { m with pool }.texts, t = sender ∨ t ∈ m.texts := by
  intro t ht
  simp only [texts, List.mem_cons, List.mem_append] at ht ⊢
  rcases ht with hcreator | hdescription | hextra | hlists | hpool
  · exact .inr (.inl hcreator)
  · exact .inr (.inr (.inl hdescription))
  · exact .inr (.inr (.inr (.inl hextra)))
  · exact .inr (.inr (.inr (.inr (.inl hlists))))
  · rcases h.texts t hpool with hown | hold
    · exact .inl hown
    · exact .inr (.inr (.inr (.inr (.inr hold))))

/-- A market that moves on has no texts but the account that asks and those from before. -/
theorem Evolves.texts {m after : Market} {sender : Text} {action : Action}
    (h : m.Evolves sender action after) (hpool : m.pool.WellFormed) :
    ∀ t ∈ after.texts, t = sender ∨ t ∈ m.texts := by
  cases h with
  | switched _ => exact fun _ => .inr
  | traded _ htrade =>
    obtain ⟨-, pool, htraded, rfl⟩ := trade_ok htrade
    exact texts_withPool (htraded.admits hpool.shares)
  | ruled hrule =>
    obtain ⟨-, -, -, rfl⟩ := rule_ok hrule
    exact fun _ => .inr
  | answered _ hrecord hfinalize =>
    obtain ⟨-, -, -, rfl⟩ := recordAnswer_ok hrecord
    obtain ⟨-, -, -, -, rfl⟩ := finalizeFromOracle_ok hfinalize
    exact fun _ => .inr
  | claimed hclaim =>
    obtain ⟨-, pool, hsettled, rfl⟩ := claim_ok hclaim
    exact texts_withPool (hsettled.admits hpool.shares)

end Market

namespace Contract

variable {c after : Contract} {sender : Text} {action : Action} {plan : Plan}

/-- The collateral of a new market is one of the accepted tokens. -/
theorem mem_keys_of_checkTerms {terms : MarketTerms} {now decimals : Int}
    (h : c.checkTerms terms now = .ok decimals) : terms.collateral ∈ c.whitelist.keys := by
  simp only [checkTerms, bind_eq_ok] at h
  obtain ⟨_, hlisted, -⟩ := h
  unfold checkListed at hlisted
  split at hlisted
  · next hget => exact Table.mem_keys_of_get? hget
  · cases hlisted

/-- A new market has no texts but the account that asks, those of its terms, and its collateral. -/
theorem texts_newMarket {terms : MarketTerms} {decimals : Int} {m : Market}
    (h : c.newMarket sender terms decimals = .ok m) :
    ∀ t ∈ m.texts, t = sender ∨ t ∈ terms.texts ∨ t = terms.collateral := by
  obtain ⟨pool, hpool, rfl⟩ := newMarket_ok h
  obtain ⟨-, -, rfl⟩ := Pool.make_ok hpool
  intro t ht
  simp only [Market.texts, Pool.texts, Table.keys, Table.entries_empty, List.map_nil,
    List.append_nil, List.mem_cons, List.mem_append, List.not_mem_nil, or_false,
    MarketTerms.texts] at ht ⊢
  tauto

/-- What an action makes of the markets brings in no other texts than the action. -/
theorem Reshapes.clean {markets : List Market} (hreshapes : c.Reshapes sender action markets)
    (hc : c.Reachable) (h : c.Clean)
    (hbrought : ∀ t ∈ sender :: action.texts, Text.hasSurrogate t = false) :
    ∀ m ∈ markets, ∀ t ∈ m.texts, Text.hasSurrogate t = false := by
  obtain ⟨hsender, haction⟩ := List.forall_mem_cons.1 hbrought
  intro m hm t ht
  cases hreshapes with
  | same => exact h.markets m hm t ht
  | opened hchecked hmade =>
    rcases List.mem_append.1 hm with hold | hnew
    · exact h.markets m hold t ht
    · rw [List.mem_singleton.1 hnew] at ht
      rcases texts_newMarket hmade t ht with rfl | hterms | rfl
      · exact hsender
      · exact haction t hterms
      · exact h.whitelist _ (mem_keys_of_checkTerms hchecked)
  | @evolved _ n before _ hfound hevolves =>
    have hbefore : before ∈ c.arena.markets := List.mem_of_getElem? hfound
    rcases List.mem_or_eq_of_mem_set hm with hold | rfl
    · exact h.markets m hold t ht
    · rcases hevolves.texts (hc.sound before hbefore).wellFormed t ht with rfl | hold
      · exact hsender
      · exact h.markets before hbefore t hold

/-! ## Actions -/

/-- An action that is granted leaves a clean state, if it brings in nothing else. -/
theorem Granted.clean (hgranted : c.Granted sender action plan) (hc : c.Reachable)
    (h : c.Clean) (hbrought : ∀ t ∈ sender :: action.texts, Text.hasSurrogate t = false) :
    plan.after.Clean := by
  have hmarkets := hgranted.reshapes.clean hc h hbrought
  obtain ⟨-, haction⟩ := List.forall_mem_cons.1 hbrought
  cases hgranted with
  | @setGov account _ _ _ =>
    exact ⟨haction account (List.mem_singleton_self _), h.oracleId, h.whitelist, hmarkets, h.tokens,
      h.reasons⟩
  | @setCollateral token _ _ _ _ _ _ =>
    refine ⟨h.gov, h.oracleId, fun listed hlisted => ?_, hmarkets, h.tokens, h.reasons⟩
    rcases Table.mem_keys_insert hlisted with rfl | hold
    · exact haction _ (List.mem_singleton_self _)
    · exact h.whitelist _ hold
  | removeCollateral _ _ =>
    exact ⟨h.gov, h.oracleId, fun listed hlisted =>
      h.whitelist listed (Table.mem_keys_of_erase hlisted), hmarkets, h.tokens, h.reasons⟩
  | _ => exact ⟨h.gov, h.oracleId, h.whitelist, hmarkets, h.tokens, h.reasons⟩

/-- What is paid is paid in the collateral of a market or in the token of the bonds. -/
theorem Granted.token_eq {p : Payment} (hgranted : c.Granted sender action plan)
    (hpayment : plan.payment = some p) :
    (∃ m ∈ c.arena.markets, p.token = .text m.pool.token) ∨ p.token = c.config.bondToken := by
  cases hgranted with
  | trade _ _ hfound _ =>
    simp only [Option.map_eq_some_iff, Prod.exists] at hpayment
    obtain ⟨_, _, -, rfl⟩ := hpayment
    exact .inl ⟨_, List.mem_of_getElem? hfound, rfl⟩
  | answer _ _ _ _ _ =>
    cases hpayment
    exact .inr rfl
  | claim _ hfound _ =>
    cases hpayment
    exact .inl ⟨_, List.mem_of_getElem? hfound, rfl⟩
  | _ => cases hpayment

/-- A payment leaves a clean state, if its token is encodable. -/
theorem Pays.clean {p : Payment} {success : Bool} (hpays : c.Pays p after success)
    (h : c.Clean) (htoken : p.token.isEncodable = true) : after.Clean := by
  cases hpays with
  | nothing | unnumbered | refused =>
    exact ⟨h.gov, h.oracleId, h.whitelist, h.markets, h.tokens, h.reasons⟩
  | queued _ _ henqueued =>
    obtain ⟨-, _, -, ⟨-, rfl⟩ | ⟨-, rfl, rfl⟩⟩ := Outbox.enqueueUnder_ok henqueued
    · exact ⟨h.gov, h.oracleId, h.whitelist, h.markets, h.tokens, h.reasons⟩
    · refine ⟨h.gov, h.oracleId, h.whitelist, h.markets, fun t ht => ?_, fun t ht => ?_⟩
      · rcases List.mem_append.1 ht with hold | hnew
        · exact h.tokens t hold
        · rw [List.mem_singleton.1 hnew]
          exact htoken
      · rcases List.mem_append.1 ht with hold | hnew
        · exact h.reasons t hold
        · rw [List.mem_singleton.1 hnew]
          exact nofun

/-- Whatever comes of an action, the state stays clean, if the action brings in nothing else. -/
theorem Answered.clean {reply : Option Reply} (hanswered : c.Answered sender action after reply)
    (hc : c.Reachable) (h : c.Clean) (hbond : c.config.bondToken.isEncodable = true)
    (hbrought : ∀ t ∈ sender :: action.texts, Text.hasSurrogate t = false) : after.Clean := by
  cases hanswered with
  | rejected _ => exact h
  | free hplan _ _ | halted hplan _ _ => exact (granted_of_plan hplan).clean hc h hbrought
  | paid hplan hpayment hpays | failed hplan hpayment hpays =>
    have hgranted := granted_of_plan hplan
    refine hpays.clean (hgranted.clean hc h hbrought) ?_
    rcases hgranted.token_eq hpayment with ⟨m, hm, htoken⟩ | htoken
    · rw [htoken, Value.isEncodable_text]
      exact h.markets m hm _ (by simp [Market.texts, Pool.texts])
    · rw [htoken]
      exact hbond

/-! ## Calls -/

/-- A report leaves a clean state, if its reason has no surrogate. -/
theorem Reports.clean {call : Call} (hreports : c.Reports call after) (h : c.Clean)
    (hbrought : ∀ t ∈ c.brought call, Text.hasSurrogate t = false) : after.Clean := by
  cases hreports with
  | ignored => exact h
  | acknowledged hreport =>
    simp only [Outbox.acknowledge, bind_eq_ok, pure, Except.pure, Except.ok.injEq,
      Prod.mk.injEq] at hreport
    obtain ⟨old, hget, -, rfl⟩ := hreport
    have hold : old ∈ c.outbox.transfers := (Outbox.mem_of_find? (Outbox.get_ok hget)).1
    refine ⟨h.gov, h.oracleId, h.whitelist, h.markets, fun t ht => ?_, fun t ht => ?_⟩
    · rcases Outbox.mem_replace ht with rfl | hkept
      · unfold Transfer.acknowledge
        split <;> exact h.tokens old hold
      · exact h.tokens t hkept
    · rcases Outbox.mem_replace ht with rfl | hkept
      · unfold Transfer.acknowledge
        split
        · exact h.reasons old hold
        · exact nofun
      · exact h.reasons t hkept
  | @failed key reason _ _ hreport =>
    simp only [Outbox.fail, bind_eq_ok, refuseIf_eq_ok, pure, Except.pure, Except.ok.injEq,
      Prod.mk.injEq] at hreport
    obtain ⟨old, hget, _, -, _, -, -, rfl⟩ := hreport
    have hold : old ∈ c.outbox.transfers := (Outbox.mem_of_find? (Outbox.get_ok hget)).1
    have hreason : reason.shown.hasSurrogate = false := hbrought _ (List.mem_singleton_self _)
    refine ⟨h.gov, h.oracleId, h.whitelist, h.markets, fun t ht => ?_, fun t ht => ?_⟩
    · rcases Outbox.mem_replace ht with rfl | hkept
      · exact h.tokens old hold
      · exact h.tokens t hkept
    · rcases Outbox.mem_replace ht with rfl | hkept
      · intro given hgiven
        cases hgiven
        exact hreason
      · exact h.reasons t hkept

/-- A call leaves a clean state, if it brings in nothing else. -/
theorem Clean.step {call : Call} (h : c.Clean) (hc : c.Reachable)
    (hbond : c.config.bondToken.isEncodable = true)
    (hbrought : ∀ t ∈ c.brought call, Text.hasSurrogate t = false) :
    (c.step call).after.Clean := by
  cases hrequest : c.request? call with
  | none => exact (reports_step hrequest).clean h hbrought
  | some request =>
    obtain ⟨sender, action⟩ := request
    simp only [brought, hrequest] at hbrought
    rw [after_step hrequest]
    exact (ask_cases c sender action).clean hc h hbond hbrought

/-- A new contract is clean if its settings are. -/
theorem clean_make {config : Config} {gov oracleId : Text} (hgov : gov.hasSurrogate = false)
    (horacle : oracleId.hasSurrogate = false)
    (htokens : ∀ token ∈ config.whitelist.keys, Text.hasSurrogate token = false) :
    (make config gov oracleId).Clean where
  gov := hgov
  oracleId := horacle
  whitelist := htokens
  markets := by simp [make]
  tokens := by simp [make]
  reasons := by simp [make]

/-- **Clean input**: after every run of calls that bring in no surrogate, a contract whose settings
can be encoded has a state root exactly if its numbers can be written. -/
theorem stateRoot_exists_after_run {config : Config} {gov oracleId : Text} {calls : List Call}
    (hgov : gov.hasSurrogate = false) (horacle : oracleId.hasSurrogate = false)
    (htokens : ∀ token ∈ config.whitelist.keys, Text.hasSurrogate token = false)
    (hbond : config.bondToken.isEncodable = true)
    (hbrought : ∀ visit ∈ (make config gov oracleId).visits calls,
      ∀ t ∈ visit.1.brought visit.2, Text.hasSurrogate t = false) :
    (∃ root, ((make config gov oracleId).run calls).stateRoot = .ok root) ↔
      (∀ n ∈ ((make config gov oracleId).run calls).numerals, Text.canWrite n = true) ∧
        ∀ n ∈ ((make config gov oracleId).run calls).counts, Text.canWrite n = true := by
  have hinit := clean_make hgov horacle htokens
  have hreachable : (make config gov oracleId).Reachable := ⟨config, gov, oracleId, [], rfl⟩
  have hrun : ((make config gov oracleId).run calls).Clean := by
    refine (run_invariant
      (P := fun c past => c.Reachable ∧ c.Founded config ∧
        ((∀ visit ∈ past, ∀ t ∈ visit.1.brought visit.2, Text.hasSurrogate t = false) →
          c.Clean))
      (fun {c past call} hc => ?_) [] ⟨hreachable, ⟨rfl, rfl⟩, fun _ => hinit⟩ calls).2.2 hbrought
    obtain ⟨hc, hfounded, hclean⟩ := hc
    refine ⟨hc.step call, hfounded.step call, fun hpast => ?_⟩
    have hbefore := hclean fun visit hvisit => hpast visit (List.mem_append_left _ hvisit)
    exact hbefore.step hc (hfounded.config_eq ▸ hbond)
      (hpast (c, call) (List.mem_append_right _ (List.mem_singleton_self _)))
  have hafter : ((make config gov oracleId).run calls).Reachable :=
    ⟨config, gov, oracleId, calls, rfl⟩
  obtain ⟨v, hshown⟩ := exists_toValue hafter.tags
  rw [exists_stateRoot_iff hshown, isEncodable_of_toValue hshown hafter.keys]
  exact and_congr_right' (and_iff_right hrun)

end Contract

end PredictionMarket
