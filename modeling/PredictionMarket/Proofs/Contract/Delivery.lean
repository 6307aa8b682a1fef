import PredictionMarket.Proofs.Contract.Drain

/-!
# What a market holds and what was delivered to it

Complete sets are issued for collateral only, and a settlement takes units out. So no market holds
more of an outcome, in its reserve or in the hands of an account, than collateral was delivered to
it, in every state of a contract and whatever became of the market since.
-/

namespace PredictionMarket

/-- Nobody has more of an outcome than there is. -/
theorem Shares.WellFormed.balance_le_supply {s : Shares} (h : s.WellFormed) (account : Text)
    (o : Nat) : s.balance account o ≤ s.supply o := by
  rw [supply_eq_finsum]
  exact single_le_finsum account (s.hasFiniteSupport_balance o) fun a => h.balance_nonneg a o

namespace Pool

/-! ## What is delivered -/

/-- A trade takes in at least what it issues complete sets for, and never a negative amount. -/
theorem Traded.issued_le {p after : Pool} {sender : Text} {t : Trade Int} {r : Receipt}
    (h : p.Traded sender t after r) : 0 ≤ r.paidIn ∧ r.issued ≤ r.paidIn := by
  cases h with
  | addLiquidity hpositive _ _ _ _ => exact ⟨hpositive.le, le_rfl⟩
  | exitPool _ _ => exact ⟨le_rfl, le_rfl⟩
  | buy _ _ hquoted _ _ _ haccrued _ =>
    obtain ⟨-, -, hin, -⟩ := Curve.quoteBuy_ok hquoted
    exact ⟨hin.le, sub_le_self _ (FeeState.accrue_ok haccrued).1⟩
  | sell _ _ hquoted _ _ _ _ _ _ =>
    obtain ⟨-, -, hout, -⟩ := Curve.quoteSell_ok hquoted
    exact ⟨le_rfl, neg_nonpos.2 hout.le⟩
  | redeem hpositive _ _ _ _ => exact ⟨le_rfl, neg_nonpos.2 hpositive.le⟩

/-- A settlement takes units out only. -/
theorem Settled.units_le {p after : Pool} {account : Text} {numerator : Numerator} {s : Settlement}
    (h : p.Settled account numerator after s) (hp : p.WellFormed) {o : Nat} (ho : o < p.outcomes) :
    after.units o ≤ p.units o := by
  obtain ⟨_, paid, -, hlength, hpaid, -, hunits⟩ := h.units_eq hp
  have ho' : o < paid.length := hlength.symm ▸ ho
  have hnonneg := hpaid _ (List.getElem_mem ho')
  rw [← List.getD_eq_getElem _ 0 ho'] at hnonneg
  rw [hunits o ho]
  exact sub_le_self _ hnonneg

/-- No reserve is larger than all units of its outcome together. -/
theorem WellFormed.reserve_le_units {p : Pool} (hp : p.WellFormed) (o : Nat) :
    p.reserves.getD o 0 ≤ p.units o :=
  le_add_of_nonneg_right (hp.shares.supply_nonneg o)

/-- No balance is larger than all units of its outcome together. -/
theorem WellFormed.balance_le_units {p : Pool} (hp : p.WellFormed) {o : Nat} (ho : o < p.outcomes)
    (account : Text) : p.shares.balance account o ≤ p.units o := by
  have hlength : o < p.reserves.length := by rwa [hp.reserves_length]
  have hreserve := hp.reserves_nonneg _ (List.getElem_mem hlength)
  rw [← List.getD_eq_getElem _ 0 hlength] at hreserve
  exact (hp.shares.balance_le_supply account o).trans (le_add_of_nonneg_left hreserve)

end Pool

namespace Contract

/-- The collateral that was delivered to a market so far. -/
def delivered (c : Contract) (marketId : Int) : Int :=
  ((c.receipts marketId).map Receipt.paidIn).sum

/-- A contract whose markets hold no more units of any outcome than collateral was delivered. -/
structure Bounded (c : Contract) : Prop where
  /-- What was delivered to a market is not negative. -/
  delivered_nonneg : ∀ marketId, 0 ≤ c.delivered marketId
  /-- There are no more units of an outcome. -/
  units_le : ∀ m ∈ c.arena.markets, ∀ o < m.pool.outcomes, m.pool.units o ≤ c.delivered m.id

/-- An action delivers to each market what the trade takes in that it adds, if it adds one. -/
theorem Effect.le_delivered {c : Contract} {sender : Text} {action : Action} {plan : Plan}
    (h : c.Effect sender action plan) (marketId : Int) :
    c.delivered marketId ≤ plan.after.delivered marketId := by
  unfold delivered
  cases h with
  | none _ _ hhistory _ | created _ _ _ _ hhistory _ | revised _ _ _ _ _ _ _ hhistory _ =>
    rw [hhistory.receipts]
  | traded _ htrade _ _ hreceipts _ _ =>
    obtain ⟨-, _, htraded, -⟩ := Market.trade_ok htrade
    have hin := htraded.issued_le.1
    rw [hreceipts, List.map_append, List.sum_append]
    refine le_add_of_nonneg_right ?_
    split
    · rw [List.map_singleton, List.sum_singleton]
      exact hin
    · exact le_rfl
  | claimed _ _ _ hreceipts _ _ => rw [hreceipts]

/-- What an action does keeps the markets within what was delivered to them. -/
theorem Effect.bounded {c : Contract} {sender : Text} {action : Action} {plan : Plan}
    (h : c.Effect sender action plan) (hc : c.Bounded)
    (hwellFormed : ∀ m ∈ c.arena.markets, m.pool.WellFormed) : plan.after.Bounded := by
  have hmore := h.le_delivered
  refine ⟨fun marketId => (hc.delivered_nonneg marketId).trans (hmore marketId),
    fun m hm o ho => ?_⟩
  cases h with
  | none _ hmarkets _ _ => exact (hc.units_le m (hmarkets ▸ hm) o ho).trans (hmore m.id)
  | created _ hmade _ hmarkets _ _ =>
    rcases List.mem_append.1 (hmarkets ▸ hm) with hold | hnew
    · exact (hc.units_le m hold o ho).trans (hmore m.id)
    · rw [List.mem_singleton.1 hnew, Pool.units_make hmade]
      exact (hc.delivered_nonneg _).trans (hmore _)
  | revised changed _ hfound hpool hid _ hmarkets _ _ =>
    rcases List.mem_or_eq_of_mem_set (hmarkets ▸ hm) with hold | rfl
    · exact (hc.units_le m hold o ho).trans (hmore m.id)
    · rw [hpool] at ho ⊢
      rw [hid]
      exact (hc.units_le _ (List.mem_of_getElem? hfound) o ho).trans (hmore _)
  | @traded _ n before _ _ _ _ r hfound htrade _ hmarkets hreceipts _ _ =>
    rcases List.mem_or_eq_of_mem_set (hmarkets ▸ hm) with hold | rfl
    · exact (hc.units_le m hold o ho).trans (hmore m.id)
    · have hbefore := List.mem_of_getElem? hfound
      obtain ⟨-, pool, htraded, rfl⟩ := Market.trade_ok htrade
      have ho : o < before.pool.outcomes := htraded.sameTerms.outcomes ▸ ho
      have hunits := hc.units_le _ hbefore o ho
      have hissued := htraded.issued_le.2
      have hdelivered : plan.after.delivered before.id = c.delivered before.id + r.paidIn := by
        rw [delivered, hreceipts, if_pos rfl, List.map_append, List.sum_append,
          List.map_singleton, List.sum_singleton, delivered]
      dsimp only
      rw [htraded.units_eq (hwellFormed _ hbefore) ho, hdelivered]
      omega
  | claimed hfound hclaim hmarkets _ _ _ =>
    rcases List.mem_or_eq_of_mem_set (hmarkets ▸ hm) with hold | rfl
    · exact (hc.units_le m hold o ho).trans (hmore m.id)
    · have hbefore := List.mem_of_getElem? hfound
      obtain ⟨-, pool, hsettled, rfl⟩ := Market.claim_ok hclaim
      have ho := hsettled.sameTerms.outcomes ▸ ho
      exact (hsettled.units_le (hwellFormed _ hbefore) ho).trans
        ((hc.units_le _ hbefore o ho).trans (hmore _))

/-- States with the same markets and history are bounded alike. -/
theorem Bounded.same {c after : Contract} (h : c.Bounded)
    (hmarkets : after.arena.markets = c.arena.markets) (hhistory : c.SameHistory after) :
    after.Bounded := by
  have hsame (marketId : Int) : after.delivered marketId = c.delivered marketId := by
    rw [delivered, hhistory.receipts, delivered]
  refine ⟨fun marketId => ?_, fun m hm o ho => ?_⟩
  · rw [hsame]
    exact h.delivered_nonneg marketId
  · rw [hsame]
    exact h.units_le m (hmarkets ▸ hm) o ho

/-- An action, paid or not, keeps the markets within what was delivered to them. -/
theorem Answered.bounded {c after : Contract} {sender : Text} {action : Action}
    {reply : Option Reply} (h : c.Answered sender action after reply) (hc : c.Bounded)
    (hwellFormed : ∀ m ∈ c.arena.markets, m.pool.WellFormed) : after.Bounded := by
  cases h with
  | rejected _ => exact hc
  | free hplan _ _ | halted hplan _ _ => exact (plan_ok hplan).effect.bounded hc hwellFormed
  | paid hplan _ hpays | failed hplan _ hpays =>
    have hplanned := (plan_ok hplan).effect.bounded hc hwellFormed
    exact hplanned.same (congrArg Arena.markets hpays.arena) hpays.history

/-- In every state that can be reached, no market holds more than was delivered to it. -/
theorem Reachable.bounded {c : Contract} (hc : c.Reachable) : c.Bounded :=
  hc.induct_answered (fun _ _ _ => ⟨fun _ => le_rfl, by simp [make]⟩)
    (fun hbefore hsame => hbefore.same (congrArg Arena.markets hsame.arena) hsame.history)
    fun hc hbefore hanswered => hanswered.bounded hbefore fun m hm => (hc.sound m hm).wellFormed

end Contract

end PredictionMarket
