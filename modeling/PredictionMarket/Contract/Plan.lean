import PredictionMarket.Contract

/-!
# Plans and outcomes

A call is planned on the state that it finds. The plan holds the state it leads to, what the caller
is told, and what is to be paid out. Carrying it out stores the state first and then puts the
payment into the outbox, so that nothing is owed that is not recorded. A call that cannot be planned
changes nothing; if only the payment fails, what was stored stays. So it does if the plan itself is
to fail once the state is stored.
-/

namespace PredictionMarket

/-- Why something is paid out. -/
inductive PaymentKind where
  /-- Fees, for a stake given back. -/
  | exitPool
  /-- Collateral, for shares sold. -/
  | sell
  /-- Collateral, for complete sets. -/
  | redeem
  /-- The bond of a market, returned to its creator. -/
  | validityBond
  /-- What an account is owed after resolution. -/
  | claim
  deriving DecidableEq

/-- The name of the operation that a payment belongs to. -/
def PaymentKind.operation : PaymentKind → String
  | .exitPool => "exit_pool"
  | .sell => "sell"
  | .redeem => "redeem"
  | .validityBond => "validity_bond"
  | .claim => "claim"

/-- A payment that a call leads to. -/
structure Payment where
  /-- The market that pays. -/
  marketId : Int
  /-- The account to be paid. -/
  receiver : Text
  /-- The token to be paid in. -/
  token : Value
  /-- The amount; nothing is paid unless it is positive. -/
  amount : Int
  /-- Why it is paid. -/
  kind : PaymentKind

/-- What a caller is told when a call succeeds. -/
inductive Reply where
  /-- It is done. -/
  | done
  /-- The number of the new market. -/
  | created (marketId : Int)
  /-- How much of a transfer is given back. -/
  | refund (amount : Int)
  /-- What came of a trade. -/
  | traded (receipt : Receipt)
  /-- The resolution of a market. -/
  | resolved (numerator : Numerator)
  /-- What came of a claim. -/
  | settled (settlement : Settlement)
  /-- A transfer after a report. -/
  | reported (transfer : Transfer)

/-- A call that can be carried out. -/
structure Plan where
  /-- What the caller is told. -/
  reply : Reply
  /-- The state that the call leads to, before anything is paid. -/
  after : Contract
  /-- The lines for the log. -/
  log : List LogLine
  /-- What is to be paid. -/
  payment : Option Payment := none
  /-- Why the call fails when the state is stored, if it is to fail then. -/
  failure : Option ContractError := none

/-- What came of a call. -/
structure Outcome where
  /-- What the caller is told. -/
  result : Except ContractError Reply
  /-- The state after the call. -/
  after : Contract
  /-- The lines that were logged. -/
  log : List LogLine

namespace Contract

/-- The log line of a payment. -/
def paymentLine (p : Payment) : LogLine where
  event := "transfer_queued"
  fields := [("market_id", .int p.marketId), ("receiver", .text p.receiver),
    ("amount", .int p.amount), ("operation", .text p.kind.operation)]

/-- The contract with a transfer put into the outbox under a nonce. The market and the nonce are
both counted. -/
def enqueue (c : Contract) (p : Payment) (nonce : Int) : Except ContractError Contract := do
  let id : TransferId := ⟨some p.marketId, p.receiver, p.kind.operation, nonce⟩
  let (t, outbox) ← (c.outbox.enqueueCounted id p.token (.int p.amount)).mapError .outbox
  let paid := { c with outbox }
  return paid.record (some p.marketId)
    (.transferQueued t.key p.receiver p.token p.amount p.kind.operation)

/-- Puts a payment into the outbox. A nonce is used up even if the transfer is refused. -/
def pay (c : Contract) (p : Payment) : Contract × Except ContractError (List LogLine) :=
  if p.amount ≤ 0 then (c, .ok [])
  else
    match c.nonces.next p.receiver with
    | .error e => (c, .error (.nonce e))
    | .ok (nonce, nonces) =>
      let numbered := { c with nonces }
      match numbered.enqueue p nonce with
      | .error e => (numbered, .error e)
      | .ok paid => (paid, .ok [paymentLine p])

/-- Carries a plan out: what it changes is stored, then its payment is made. -/
def carryOut (plan : Plan) : Outcome :=
  match plan.failure, plan.payment with
  | some e, _ => ⟨.error e, plan.after, plan.log⟩
  | none, none => ⟨.ok plan.reply, plan.after, plan.log⟩
  | none, some p =>
    match plan.after.pay p with
    | (after, .ok lines) => ⟨.ok plan.reply, after, plan.log ++ lines⟩
    | (after, .error e) => ⟨.error e, after, plan.log⟩

/-- Carries a call out, or leaves everything as it is. -/
def perform (c : Contract) (call : Except ContractError Plan) : Outcome :=
  match call with
  | .ok plan => carryOut plan
  | .error e => ⟨.error e, c, []⟩

/-- The log line of a call that was turned down. Failures of other kinds are not logged. -/
def rejection (operation : String) (e : ContractError) : List LogLine :=
  match e.kind with
  | .refusal r =>
    let reason := match e.wording with
      | some t => [("reason", Value.text t)]
      | none => []
    [{ level := .warning
       event := "call_rejected"
       fields := [("op", .text operation), ("error", .text r.name)] ++ reason }]
  | _ => []

end Contract

/-- The outcome with a line in its log if the call was turned down. -/
def Outcome.logRejection (o : Outcome) (operation : String) : Outcome :=
  match o.result with
  | .ok _ => o
  | .error e => { o with log := o.log ++ Contract.rejection operation e }

end PredictionMarket
