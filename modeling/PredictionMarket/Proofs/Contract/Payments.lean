import PredictionMarket.Proofs.Contract.Accounts

/-!
# What is paid for a market

The transfers of a market in the outbox are told apart by the kinds of payments that they make. What
a payment adds to them is at most its amount, and the amount is what the trade or the settlement in
the journal says.
-/

namespace PredictionMarket

/-- Whether a transfer is one of a market, for a payment of some kinds. -/
def TransferId.isFor (marketId : Int) (kinds : List PaymentKind) (i : TransferId) : Bool :=
  i.marketId == some marketId && kinds.any fun kind => i.operation == (kind.operation : Text)

/-- The amounts of the transfers of a sort, whatever their standing. -/
def Outbox.amountOf (o : Outbox) (p : TransferId → Bool) : Int :=
  ((o.transfers.filter fun t => p t.id).map Transfer.amount).sum

/-- The kinds of payments that trades lead to. -/
def tradeKinds : List PaymentKind :=
  [.exitPool, .sell, .redeem]

/-! ## What is due -/

/-- The amounts are those of what is due. -/
theorem Outbox.amountOf_eq (o : Outbox) (p : TransferId → Bool) :
    o.amountOf p = ((o.dues.filter fun d => p d.id).map Due.amount).sum := by
  rw [amountOf, dues, List.filter_map, List.map_map]
  rfl

/-- As much is due of a sort if the same is due. -/
theorem Outbox.amountOf_congr {o after : Outbox} (h : after.dues = o.dues)
    (p : TransferId → Bool) : after.amountOf p = o.amountOf p := by
  rw [amountOf_eq, amountOf_eq, h]

/-- A new due adds its amount to those of its sort. -/
theorem Outbox.amountOf_append {o after : Outbox} {d : Due} (h : after.dues = o.dues ++ [d])
    (p : TransferId → Bool) :
    after.amountOf p = o.amountOf p + if p d.id then d.amount else 0 := by
  rw [amountOf_eq, amountOf_eq, h, List.filter_append, List.map_append, List.sum_append]
  cases hp : p d.id <;> simp [hp]

/-- The amounts of two sorts that have nothing in common add up. -/
theorem Outbox.amountOf_or (o : Outbox) {p q : TransferId → Bool}
    (h : ∀ i, p i = true → q i = false) :
    o.amountOf (fun i => p i || q i) = o.amountOf p + o.amountOf q := by
  unfold amountOf
  induction o.transfers with
  | nil => rfl
  | cons t transfers ih =>
    cases hp : p t.id with
    | true =>
      have hq := h t.id hp
      simp [hp, hq, ih, add_assoc]
    | false => cases hq : q t.id <;> simp [hp, hq, ih, add_left_comm]

/-- Kinds of payments have different names. -/
theorem operation_beq (a b : PaymentKind) :
    (Text.ofString a.operation == Text.ofString b.operation) = decide (a = b) := by
  cases a <;> cases b <;> rfl

/-- The transfer of a payment is one of its market, for its kind. -/
theorem Payment.isFor_transferId (p : Payment) (nonce : Int) (marketId : Int)
    (kinds : List PaymentKind) :
    (p.transferId nonce).isFor marketId kinds =
      decide (p.marketId = marketId ∧ p.kind ∈ kinds) := by
  have hkinds : (kinds.any fun kind =>
      Text.ofString p.kind.operation == Text.ofString kind.operation) =
        decide (p.kind ∈ kinds) := by
    simp only [operation_beq]
    induction kinds with
    | nil => rfl
    | cons kind kinds ih => simp [ih]
  unfold TransferId.isFor transferId
  rw [hkinds, Bool.decide_and]
  congr 1

/-- No transfer is for a trade and for a claim. -/
theorem TransferId.isFor_claim_of_trade {marketId : Int} {i : TransferId}
    (h : i.isFor marketId tradeKinds = true) : i.isFor marketId [.claim] = false := by
  simp only [isFor, Bool.and_eq_true, List.any_eq_true, beq_iff_eq] at h
  obtain ⟨-, kind, hkind, hoperation⟩ := h
  have hother : kind ≠ .claim := by
    rintro rfl
    revert hkind
    decide
  rw [isFor, hoperation]
  simp [operation_beq, hother]

/-- What a payment of a market adds to what is due for some kinds, if it is made at all. -/
def Payment.due (marketId : Int) (kinds : List PaymentKind) : Option Payment → Int
  | none => 0
  | some p => if p.marketId = marketId ∧ p.kind ∈ kinds then max 0 p.amount else 0

namespace Contract

/-- What the outbox holds for a market, for payments of some kinds. -/
def paidOut (c : Contract) (marketId : Int) (kinds : List PaymentKind) : Int :=
  c.outbox.amountOf (TransferId.isFor marketId kinds)

/-- What the outbox holds for a market is there for trades or for claims. -/
theorem paidOut_trades_claims (c : Contract) (marketId : Int) :
    c.paidOut marketId [.exitPool, .sell, .redeem, .claim] =
      c.paidOut marketId tradeKinds + c.paidOut marketId [.claim] := by
  rw [paidOut, paidOut, paidOut, ← Outbox.amountOf_or _ fun _ => TransferId.isFor_claim_of_trade]
  congr 1
  funext i
  simp only [TransferId.isFor, ← Bool.and_or_distrib_left, ← List.any_append]
  rfl

/-- A payment adds no more to the outbox than its amount. -/
theorem Pays.paidOut_le {c after : Contract} {p : Payment} {success : Bool}
    (h : c.Pays p after success) (marketId : Int) (kinds : List PaymentKind) :
    after.paidOut marketId kinds ≤
      c.paidOut marketId kinds + Payment.due marketId kinds (some p) := by
  have hdue : 0 ≤ Payment.due marketId kinds (some p) := by
    unfold Payment.due
    dsimp only
    split
    · exact le_max_left _ _
    · exact le_rfl
  cases h with
  | nothing | unnumbered | refused => exact le_add_of_nonneg_right hdue
  | queued hpositive _ henqueued =>
    obtain ⟨-, key, -, ⟨-, hdues⟩ | ⟨-, hdues⟩⟩ := Outbox.dues_enqueueUnder henqueued
    · exact (Outbox.amountOf_congr hdues _).le.trans (le_add_of_nonneg_right hdue)
    · refine (Outbox.amountOf_append hdues _).le.trans (le_of_eq ?_)
      rw [Payment.isFor_transferId]
      simp only [Payment.due, decide_eq_true_eq, max_eq_right hpositive.le]
      rfl

/-- A plan that is carried out without its payment keeps what was put into the outbox. -/
theorem Planned.paidOut_eq {c : Contract} {sender : Text} {action : Action} {plan : Plan}
    (h : c.Planned sender action plan) (marketId : Int) (kinds : List PaymentKind) :
    plan.after.paidOut marketId kinds = c.paidOut marketId kinds := by
  rw [paidOut, paidOut, h.outbox]

/-- A payment keeps each key in the outbox once. -/
theorem Pays.wellFormed {c after : Contract} {p : Payment} {success : Bool}
    (h : c.Pays p after success) (hc : c.outbox.WellFormed) : after.outbox.WellFormed := by
  cases h with
  | nothing | unnumbered | refused => exact hc
  | queued _ _ henqueued => exact hc.enqueueUnder henqueued

/-- An action, paid or not, keeps each key in the outbox once. -/
theorem Answered.wellFormed {c after : Contract} {sender : Text} {action : Action}
    {reply : Option Reply} (h : c.Answered sender action after reply)
    (hc : c.outbox.WellFormed) : after.outbox.WellFormed := by
  cases h with
  | rejected _ => exact hc
  | free hplan _ _ | halted hplan _ _ => exact (plan_ok hplan).outbox ▸ hc
  | paid hplan _ hpays | failed hplan _ hpays =>
    exact hpays.wellFormed ((plan_ok hplan).outbox ▸ hc)

/-- The same accounts have each key in the outbox once. -/
theorem SameAccounts.wellFormed {c after : Contract} (h : c.SameAccounts after)
    (hc : c.outbox.WellFormed) : after.outbox.WellFormed := by
  unfold Outbox.WellFormed
  rw [h.dues]
  exact hc

/-- The same accounts hold the same for each market. -/
theorem SameAccounts.paidOut_eq {c after : Contract} (h : c.SameAccounts after) (marketId : Int)
    (kinds : List PaymentKind) : after.paidOut marketId kinds = c.paidOut marketId kinds :=
  Outbox.amountOf_congr h.dues _

/-! ## What the effects of actions lead to -/

/-- What a trade owes is paid for one of the kinds of trades. -/
theorem owed_of_receipt (r : Receipt) :
    (r.owed = none ∧ r.paidOut = 0) ∨
      (∃ kind ∈ tradeKinds, r.owed = some (kind, r.paidOut) ∧ r.paidIn = 0) := by
  cases r with
  | addLiquidity _ _ | buy _ _ _ => exact .inl ⟨rfl, rfl⟩
  | exitPool _ => exact .inr ⟨.exitPool, by decide, rfl, rfl⟩
  | sell _ _ _ => exact .inr ⟨.sell, by decide, rfl, rfl⟩
  | redeem _ => exact .inr ⟨.redeem, by decide, rfl, rfl⟩

/-- What an action pays for trades is what the trades that it adds to the history owe. -/
theorem Effect.due_trades {c : Contract} {sender : Text} {action : Action} {plan : Plan}
    (h : c.Effect sender action plan) (marketId : Int) :
    ((c.receipts marketId).map Receipt.paidOut).sum +
        Payment.due marketId tradeKinds plan.payment =
      ((plan.after.receipts marketId).map Receipt.paidOut).sum := by
  cases h with
  | none _ _ hhistory hunpaid | created _ _ _ _ hhistory hunpaid =>
    rw [hunpaid, hhistory.receipts]
    exact add_zero _
  | revised _ _ _ _ _ _ _ hhistory hbond =>
    rw [hhistory.receipts]
    cases hpayment : plan.payment with
    | none => exact add_zero _
    | some p =>
      have hother : p.kind ∉ tradeKinds := by
        rw [hbond p hpayment]
        decide
      simp [Payment.due, hother]
  | traded _ htrade _ _ hreceipts _ hpayment =>
    obtain ⟨-, _, htraded, -⟩ := Market.trade_ok htrade
    have hnonneg := htraded.paidOut_nonneg
    rw [hreceipts, hpayment, List.map_append, List.sum_append]
    congr 1
    rcases owed_of_receipt _ with ⟨howed, hzero⟩ | ⟨kind, hkind, howed, -⟩
    · rw [howed]
      split <;> simp [Payment.due, hzero]
    · rw [howed]
      simp only [Option.map_some, Payment.due, hkind, and_true, max_eq_right hnonneg]
      split <;> simp
  | claimed _ _ _ hreceipts _ hpayment =>
    rw [hreceipts, hpayment]
    have hother : PaymentKind.claim ∉ tradeKinds := by decide
    simp [Payment.due, hother]

/-- What an action pays for claims is what the settlements that it adds to the history come to. -/
theorem Effect.due_claims {c : Contract} {sender : Text} {action : Action} {plan : Plan}
    (h : c.Effect sender action plan) (hc : c.Accounted) (marketId : Int) :
    ((c.settlements marketId).map Settlement.total).sum +
        Payment.due marketId [.claim] plan.payment =
      ((plan.after.settlements marketId).map Settlement.total).sum := by
  cases h with
  | none _ _ hhistory hunpaid | created _ _ _ _ hhistory hunpaid =>
    rw [hunpaid, hhistory.settlements]
    exact add_zero _
  | revised _ _ _ _ _ _ _ hhistory hbond =>
    rw [hhistory.settlements]
    cases hpayment : plan.payment with
    | none => exact add_zero _
    | some p =>
      have hother : p.kind ∉ [PaymentKind.claim] := by
        rw [hbond p hpayment]
        decide
      simp [Payment.due, hother]
  | traded _ _ _ _ _ hsettlements hpayment =>
    rw [hsettlements, hpayment]
    rcases owed_of_receipt _ with ⟨howed, -⟩ | ⟨kind, hkind, howed, -⟩
    · rw [howed]
      exact add_zero _
    · have hother : kind ∉ [PaymentKind.claim] := by
        rintro hclaim
        rw [List.mem_singleton.1 hclaim] at hkind
        revert hkind
        decide
      rw [howed]
      simp [Payment.due, hother]
  | claimed hfound hclaim _ _ hsettlements hpayment =>
    have hwf := (hc.markets _ (List.mem_of_getElem? hfound)).wellFormed
    obtain ⟨-, _, hsettled, -⟩ := Market.claim_ok hclaim
    have hnonneg := hsettled.total_nonneg hwf
    rw [hsettlements, hpayment, List.map_append, List.sum_append]
    congr 1
    simp only [Payment.due, List.mem_singleton, and_true, max_eq_right hnonneg]
    split <;> simp

end Contract

end PredictionMarket
