import PredictionMarket.Canonical

/-!
# The outbox

Collateral is settled elsewhere. Every payment that is owed is written here, and the settlement
layer reports back with an acknowledgement or a failure. Failed transfers stay due; acknowledged
ones are final. The key of a transfer is the hash of its market, receiver, operation and nonce, so
that putting the same transfer in twice has no effect.

A number of too many digits has no place in a hashed text, and a transfer with such a number for its
market or its nonce has no key. Where both numbers are counted up one by one, as a contract does
with its markets and with the transfers to an account, the test is left out: no count gets so far.
-/

namespace PredictionMarket

/-- Why the outbox refuses a transfer or a report. -/
inductive OutboxError where
  /-- The amount is not a positive integer. -/
  | badAmount (amount : Value)
  /-- There is no transfer with this key. -/
  | unknownKey (key : Text)
  /-- The transfer was settled before. -/
  | alreadyAcknowledged (key : Text)
  /-- The transfer has no key. -/
  | encoding (e : EncodingError)
  /-- The reason of a failure cannot be written. -/
  | badReason (reason : Value)

namespace OutboxError

/-- What an outbox error says. -/
def notice : OutboxError → Notice
  | .badAmount v => .refusal .validation ["transfer amount must be a positive int: ", v]
  | .unknownKey key => .refusal .notFound ["no outbox entry ", key]
  | .alreadyAcknowledged key =>
    .refusal .state ["transfer ", key, " was already acknowledged"]
  | .encoding e => e.notice
  | .badReason _ => .wordless .badValue

/-- The kind of an outbox error. -/
def kind (e : OutboxError) : ErrorKind := e.notice.kind

/-- The text of an outbox error. -/
def message (e : OutboxError) : Option Text := e.notice.message

end OutboxError

/-- Where a transfer stands. -/
inductive TransferStatus where
  /-- No report has come yet. -/
  | pending
  /-- The transfer is settled. -/
  | acknowledged
  /-- The last report was a failure. -/
  | failed
  deriving DecidableEq

/-- The name of a status. -/
def TransferStatus.name : TransferStatus → String
  | .pending => "pending"
  | .acknowledged => "acknowledged"
  | .failed => "failed"

/-- What identifies a transfer. -/
structure TransferId where
  /-- The market that owes it, if one does. -/
  marketId : Option Int
  /-- The account to be paid. -/
  receiver : Text
  /-- The operation that caused it. -/
  operation : Text
  /-- Its number among the transfers to the receiver. -/
  nonce : Int
  deriving DecidableEq

namespace TransferId

/-- What is hashed into the key of a transfer. -/
def toValue (i : TransferId) : Value :=
  .record [("market_id", .ofInt? i.marketId), ("account", .text i.receiver),
    ("operation", .text i.operation), ("nonce", .int i.nonce)]

/-- The key of a transfer. A receiver whose name has no encoding has no transfers. -/
def key (i : TransferId) : Except EncodingError Text :=
  i.toValue.canonicalHash

/-- The text of what is hashed into the key of a transfer, however long its numbers are. -/
def spelled (i : TransferId) : Text :=
  let marketId : Text := (i.marketId.map Text.ofInt).getD "null"
  "\x7b\"account\":" ++ (Json.string false i.receiver ++ (",\"market_id\":" ++ (marketId ++
    (",\"nonce\":" ++ (Text.ofInt i.nonce ++ (",\"operation\":" ++
      (Json.string false i.operation ++ "\x7d")))))))

/-- The key of a transfer whose numbers are counted, and so have few digits. -/
def countedKey (i : TransferId) : Except EncodingError Text := do
  i.toValue.checkCanonical
  match i.spelled.utf8? with
  | some octets => .ok (Sha256.hex octets)
  | none => .error .surrogate

end TransferId

/-- A transfer in the outbox. -/
structure Transfer where
  /-- The key under which reports name it. -/
  key : Text
  /-- What identifies it. -/
  id : TransferId
  /-- The token to be paid in. -/
  token : Value
  /-- The amount to be paid. -/
  amount : Int
  /-- Where it stands. -/
  status : TransferStatus := .pending
  /-- The number of reports so far. -/
  attempts : Nat := 0
  /-- The reason of the last failure. -/
  lastError : Option Text := none

namespace Transfer

/-- The transfer after a report of success. A settled transfer stays as it is. -/
def acknowledge (t : Transfer) : Transfer :=
  if t.status = .acknowledged then t
  else { t with status := .acknowledged, attempts := t.attempts + 1, lastError := none }

/-- The transfer after a report of failure. -/
def fail (t : Transfer) (reason : Text) : Transfer :=
  { t with status := .failed, attempts := t.attempts + 1, lastError := some reason }

/-- The parts of a transfer, the amount as given. -/
def fields (t : Transfer) (amount : Value) : Value :=
  .record [("key", .text t.key), ("market_id", .ofInt? t.id.marketId),
    ("receiver", .text t.id.receiver), ("token_id", t.token), ("amount", amount),
    ("operation", .text t.id.operation), ("nonce", .int t.id.nonce),
    ("status", .text t.status.name), ("attempts", .int t.attempts),
    ("last_error", (t.lastError.map Value.text).getD .null)]

/-- The plain form of a transfer, the amount as a numeral. -/
def toValue (t : Transfer) : Value :=
  t.fields (.numeral t.amount)

end Transfer

/-- The transfers, in the order in which they were put in. -/
structure Outbox where
  /-- The transfers, each key once. -/
  transfers : List Transfer := []

namespace Outbox

/-- The transfer with a key, if there is one. -/
def find? (o : Outbox) (key : Text) : Option Transfer :=
  o.transfers.find? fun t => t.key == key

/-- The transfer with a key. -/
def get (o : Outbox) (key : Text) : Except OutboxError Transfer :=
  match o.find? key with
  | some t => .ok t
  | none => .error (.unknownKey key)

/-- Puts a transfer in under its key, if it has one. If the key is there already, the transfer that
is there is returned, and nothing changes. -/
def enqueueUnder (o : Outbox) (key : Except EncodingError Text) (id : TransferId)
    (token amount : Value) : Except OutboxError (Transfer × Outbox) :=
  match amount with
  | .int n => do
    refuseIf (n ≤ 0) (.badAmount amount)
    let key ← key.mapError .encoding
    match o.find? key with
    | some present => return (present, o)
    | none =>
      let t : Transfer := { key, id, token, amount := n }
      return (t, ⟨o.transfers ++ [t]⟩)
  | _ => .error (.badAmount amount)

/-- Puts a transfer in. -/
def enqueue (o : Outbox) (id : TransferId) (token amount : Value) :
    Except OutboxError (Transfer × Outbox) :=
  o.enqueueUnder id.key id token amount

/-- Puts a transfer in whose numbers are counted. -/
def enqueueCounted (o : Outbox) (id : TransferId) (token amount : Value) :
    Except OutboxError (Transfer × Outbox) :=
  o.enqueueUnder id.countedKey id token amount

/-- The outbox with the transfer of one key replaced. -/
def replace (o : Outbox) (updated : Transfer) : Outbox :=
  ⟨o.transfers.map fun t => if t.key = updated.key then updated else t⟩

/-- Takes a report of success. -/
def acknowledge (o : Outbox) (key : Text) : Except OutboxError (Transfer × Outbox) := do
  let t ← o.get key
  return (t.acknowledge, o.replace t.acknowledge)

/-- Takes a report of failure, which a settled transfer cannot have. The reason is noted down as
it reads in running text. -/
def fail (o : Outbox) (key : Text) (reason : Value) : Except OutboxError (Transfer × Outbox) := do
  let t ← o.get key
  refuseIf (t.status = .acknowledged) (.alreadyAcknowledged key)
  refuseIf (!reason.isWritable) (.badReason reason)
  return (t.fail reason.shown, o.replace (t.fail reason.shown))

/-- The transfers that are due: all that are not settled, in order. -/
def pending (o : Outbox) : List Transfer :=
  o.transfers.filter fun t => t.status != .acknowledged

end Outbox

end PredictionMarket
