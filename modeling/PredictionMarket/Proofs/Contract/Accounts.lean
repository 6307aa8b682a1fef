import PredictionMarket.Proofs.Contract.Run

/-!
# The accounts of a contract

Every market of a contract is accounted for by the trades and settlements that the journal tells of.
What comes in is read off the deeds of a run, and what goes out off the outbox; both are compared
with the journal.
-/

namespace PredictionMarket

/-- The receipts of the trades in a market, among deeds. -/
def tradesIn (deeds : List Deed) (marketId : Int) : List Receipt :=
  deeds.filterMap (Deed.receipt? marketId)

/-- The trades of two lists of deeds, one after the other. -/
theorem tradesIn_append (first second : List Deed) (marketId : Int) :
    tradesIn (first ++ second) marketId = tradesIn first marketId ++ tradesIn second marketId :=
  List.filterMap_append

/-- An action that does not trade is no trade among deeds. -/
theorem tradesIn_of_not_trade {action : Action} (h : action.isTrade = false) (sender : Text)
    (reply : Reply) (marketId : Int) : tradesIn [⟨sender, action, reply⟩] marketId = [] := by
  cases action <;> first | rfl | cases h

namespace Contract

/-! ## Markets -/

/-- A contract that numbers its markets by their places, and whose journal accounts for each of them
and for no others. -/
structure Accounted (c : Contract) : Prop where
  /-- A market has the number of its place. -/
  numbered : ∀ (n : Nat) (m : Market), c.arena.markets[n]? = some m → m.id = n
  /-- Each market is accounted for. -/
  markets : ∀ m ∈ c.arena.markets, m.Accounted (c.receipts m.id) (c.settlements m.id)
  /-- There is nothing to tell of a market that does not exist. -/
  absent : ∀ marketId, (∀ m ∈ c.arena.markets, m.id ≠ marketId) →
    c.receipts marketId = [] ∧ c.settlements marketId = []

/-- A new contract has no markets to account for. -/
theorem accounted_make (config : Config) (gov oracleId : Text) :
    (make config gov oracleId).Accounted where
  numbered := by simp [make]
  markets := by simp [make]
  absent := fun _ _ => ⟨rfl, rfl⟩

/-- States with the same markets and history are accounted for alike. -/
theorem Accounted.same {c after : Contract} (h : c.Accounted)
    (hmarkets : after.arena.markets = c.arena.markets) (hhistory : c.SameHistory after) :
    after.Accounted := by
  constructor
  · rw [hmarkets]
    exact h.numbered
  · intro m hm
    rw [hhistory.receipts, hhistory.settlements]
    exact h.markets m (hmarkets ▸ hm)
  · intro marketId habsent
    rw [hhistory.receipts, hhistory.settlements]
    exact h.absent marketId (hmarkets ▸ habsent)

/-- A new market is accounted for from the start. -/
theorem Accounted.push {c after : Contract} (h : c.Accounted) {m : Market}
    {outcomes decimals swapFee : Int} {token : Text}
    (hmade : Pool.make c.arena.nextId outcomes token decimals swapFee = .ok m.pool)
    (hid : m.id = c.arena.nextId) (hmarkets : after.arena.markets = c.arena.markets ++ [m])
    (hhistory : c.SameHistory after) : after.Accounted := by
  have hfresh : ∀ other ∈ c.arena.markets, other.id ≠ m.id := by
    intro other hother hsame
    obtain ⟨n, hn, hget⟩ := List.mem_iff_getElem.1 hother
    have hplace := h.numbered n other (by rw [List.getElem?_eq_getElem hn, hget])
    rw [hid, hplace] at hsame
    unfold Arena.nextId at hsame
    omega
  constructor
  · intro n other hother
    rw [hmarkets, List.getElem?_append] at hother
    split at hother
    · exact h.numbered n other hother
    · next hn =>
      obtain ⟨hsingle, rfl⟩ := List.getElem?_eq_some_iff.1 hother
      have hlast : n = c.arena.markets.length := by
        simp only [List.length_singleton] at hsingle
        omega
      rw [List.getElem_singleton, hid, hlast]
      rfl
  · intro other hother
    rw [hhistory.receipts, hhistory.settlements]
    rcases List.mem_append.1 (hmarkets ▸ hother) with hold | hnew
    · exact h.markets other hold
    · obtain rfl := List.mem_singleton.1 hnew
      obtain ⟨hreceipts, hsettlements⟩ := h.absent other.id hfresh
      rw [hreceipts, hsettlements]
      exact Market.accounted_new hmade
  · intro marketId habsent
    rw [hhistory.receipts, hhistory.settlements]
    refine h.absent marketId fun other hother => habsent other ?_
    rw [hmarkets]
    exact List.mem_append_left _ hother

/-- A market that changes along with its history stays accounted for, and so do all others. -/
theorem Accounted.update {c after : Contract} (h : c.Accounted) {n : Nat} {m changed : Market}
    (hfound : c.arena.markets[n]? = some m) (hid : changed.id = m.id)
    (hmarkets : after.arena.markets = c.arena.markets.set m.id.toNat changed)
    (hchanged : changed.Accounted (after.receipts m.id) (after.settlements m.id))
    (hothers : ∀ marketId, m.id ≠ marketId →
      after.receipts marketId = c.receipts marketId ∧
        after.settlements marketId = c.settlements marketId) : after.Accounted := by
  have hplace := h.numbered n m hfound
  rw [hplace, Int.toNat_natCast] at hmarkets
  have hids : after.arena.markets.map Market.id = c.arena.markets.map Market.id := by
    obtain ⟨_, rfl⟩ := List.getElem?_eq_some_iff.1 hfound
    rw [hmarkets, List.map_set, hid, ← List.map_set, List.set_getElem_self]
  constructor
  · intro i other hother
    have hget := congrArg (Option.map Market.id) hother
    rw [← List.getElem?_map, hids, List.getElem?_map] at hget
    obtain ⟨same, hsame, hsameId⟩ := Option.map_eq_some_iff.1 hget
    rw [← hsameId, h.numbered i same hsame]
  · intro other hother
    obtain ⟨i, hi, rfl⟩ := List.mem_iff_getElem.1 hother
    simp only [hmarkets, List.length_set] at hi
    simp only [hmarkets, List.getElem_set]
    split
    · rw [hid]
      exact hchanged
    · next hne =>
      have hget : c.arena.markets[i]? = some c.arena.markets[i] := List.getElem?_eq_getElem hi
      have hiplace := h.numbered i _ hget
      obtain ⟨hreceipts, hsettlements⟩ := hothers c.arena.markets[i].id (by omega)
      rw [hreceipts, hsettlements]
      exact h.markets _ (List.getElem_mem hi)
  · intro marketId habsent
    have hbefore : ∀ other ∈ c.arena.markets, other.id ≠ marketId := by
      intro other hother
      obtain ⟨same, hsame, hsameId⟩ := List.mem_map.1 (hids ▸ List.mem_map_of_mem hother)
      exact hsameId ▸ habsent same hsame
    obtain ⟨hreceipts, hsettlements⟩ := hothers marketId (hbefore m (List.mem_of_getElem? hfound))
    rw [hreceipts, hsettlements]
    exact h.absent marketId hbefore

/-- What an action adds to the trades is what it is as a deed. -/
theorem Effect.receipts_eq {c : Contract} {sender : Text} {action : Action} {plan : Plan}
    (h : c.Effect sender action plan) (hc : c.Accounted) (marketId : Int) :
    plan.after.receipts marketId =
      c.receipts marketId ++ tradesIn [⟨sender, action, plan.reply⟩] marketId := by
  cases h with
  | none hother _ hhistory _ | created hother _ _ _ hhistory _
  | revised _ hother _ _ _ _ _ hhistory _ =>
    rw [hhistory.receipts, tradesIn_of_not_trade hother, List.append_nil]
  | traded hfound _ hreply _ hreceipts _ _ =>
    rw [hreceipts, hreply, hc.numbered _ _ hfound]
    simp only [tradesIn, List.filterMap_cons, List.filterMap_nil, Deed.receipt?]
    split <;> rfl
  | claimed _ _ _ hreceipts _ _ =>
    rw [hreceipts]
    exact (List.append_nil _).symm

/-- No market owes more than it took in. -/
theorem Accounted.owed_le {c : Contract} (h : c.Accounted) (marketId : Int) :
    ((c.receipts marketId).map Receipt.paidOut).sum +
        ((c.settlements marketId).map Settlement.total).sum ≤
      ((c.receipts marketId).map Receipt.paidIn).sum := by
  by_cases hexists : ∃ m ∈ c.arena.markets, m.id = marketId
  · obtain ⟨m, hm, rfl⟩ := hexists
    exact (h.markets m hm).owed_le
  · obtain ⟨hreceipts, hsettlements⟩ := h.absent marketId fun m hm hid => hexists ⟨m, hm, hid⟩
    rw [hreceipts, hsettlements]
    exact le_rfl

/-- What an action does is accounted for. -/
theorem Effect.accounted {c : Contract} {sender : Text} {action : Action} {plan : Plan}
    (h : c.Effect sender action plan) (hc : c.Accounted) : plan.after.Accounted := by
  cases h with
  | none _ hmarkets hhistory _ => exact hc.same hmarkets hhistory
  | created _ hmade hid hmarkets hhistory _ => exact hc.push hmade hid hmarkets hhistory
  | @revised action plan n m changed _ hfound hpool hid hfinal hmarkets hhistory _ =>
    refine hc.update hfound hid hmarkets ?_ fun marketId _ =>
      ⟨hhistory.receipts marketId, hhistory.settlements marketId⟩
    rw [hhistory.receipts, hhistory.settlements]
    exact (hc.markets m (List.mem_of_getElem? hfound)).revise hpool hfinal
  | @traded plan n m changed _ _ _ _ hfound htrade _ hmarkets hreceipts hsettlements _ =>
    have hid : changed.id = m.id := by
      obtain ⟨-, _, -, rfl⟩ := Market.trade_ok htrade
      rfl
    refine hc.update hfound hid hmarkets ?_ fun marketId hne =>
      ⟨by rw [hreceipts, if_neg hne, List.append_nil], hsettlements marketId⟩
    rw [hreceipts, if_pos rfl, hsettlements]
    exact (hc.markets m (List.mem_of_getElem? hfound)).trade htrade
  | @claimed plan n m changed _ hfound hclaim hmarkets hreceipts hsettlements _ =>
    have hid : changed.id = m.id := by
      obtain ⟨-, _, -, rfl⟩ := Market.claim_ok hclaim
      rfl
    refine hc.update hfound hid hmarkets ?_ fun marketId hne =>
      ⟨hreceipts marketId, by rw [hsettlements, if_neg hne, List.append_nil]⟩
    rw [hreceipts, hsettlements, if_pos rfl]
    exact (hc.markets m (List.mem_of_getElem? hfound)).claim hclaim

/-- An action, paid or not, leaves the contract accounted for. -/
theorem Answered.accounted {c after : Contract} {sender : Text} {action : Action}
    {reply : Option Reply} (h : c.Answered sender action after reply) (hc : c.Accounted) :
    after.Accounted := by
  cases h with
  | rejected _ => exact hc
  | free hplan _ _ | halted hplan _ _ => exact (plan_ok hplan).effect.accounted hc
  | paid hplan _ hpays | failed hplan _ hpays =>
    have hplanned := (plan_ok hplan).effect.accounted hc
    exact hplanned.same (congrArg Arena.markets hpays.arena) hpays.history

end Contract

end PredictionMarket
