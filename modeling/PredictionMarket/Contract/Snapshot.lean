import PredictionMarket.Contract

/-!
# Snapshots

A snapshot shows all of a contract that counts: who governs it, the collateral tokens, the markets
and what is owed. Amounts stand in it as numerals, so there is no snapshot while one of them has too
many digits. The digest of the snapshot is the state root, by which two contracts can be compared.
-/

namespace PredictionMarket

/-- Why there is no state root. -/
inductive SnapshotError where
  /-- A market cannot be shown. -/
  | market (e : MarketError)
  /-- A numeral in what is to be shown has too many digits. -/
  | unwritable (shown : Value)
  /-- The snapshot has no canonical encoding. -/
  | encoding (e : EncodingError)

namespace SnapshotError

/-- What a snapshot error says. -/
def notice : SnapshotError → Notice
  | .market e => e.notice
  | .unwritable _ => .wordless .badValue
  | .encoding e => e.notice

/-- The kind of a snapshot error. -/
def kind (e : SnapshotError) : ErrorKind := e.notice.kind

/-- The text of a snapshot error. -/
def message (e : SnapshotError) : Option Text := e.notice.message

end SnapshotError

namespace Contract

/-- The plain form of all of a contract that counts. -/
def toValue (c : Contract) : Except SnapshotError Value := do
  let markets ← (c.arena.markets.mapM fun (m : Market) => m.toValue none).mapError .market
  return .record [("gov", .text c.gov), ("oracle", .text c.oracleId), ("paused", .bool c.paused),
    ("collateral_whitelist", .list (c.whitelist.entries.map fun (token, decimals) =>
      .list [.text token, .int decimals])),
    ("markets", .list markets), ("outbox", .list (c.outbox.transfers.map Transfer.toValue))]

/-- The numbers that stand as numerals in the plain form of a contract. -/
def numerals (c : Contract) : List Int :=
  c.arena.markets.flatMap Market.numerals ++ c.outbox.transfers.map Transfer.amount

/-- All of a contract that counts, if the numerals in it can be written. -/
def snapshot (c : Contract) : Except SnapshotError Value := do
  let shown ← c.toValue
  refuseIf (!c.numerals.all Text.canWrite) (.unwritable shown)
  return shown

/-- The digest of the snapshot. -/
def stateRoot (c : Contract) : Except SnapshotError Text := do
  (← c.snapshot).digest.mapError .encoding

end Contract

end PredictionMarket
