import PredictionMarket.Amounts
import PredictionMarket.Arena
import PredictionMarket.Arena.Workbench
import PredictionMarket.Canonical
import PredictionMarket.Config
import PredictionMarket.Config.Document
import PredictionMarket.Config.Document.Content
import PredictionMarket.Config.Document.Label
import PredictionMarket.Config.Document.Meaning
import PredictionMarket.Config.Document.Merge
import PredictionMarket.Config.Document.Node
import PredictionMarket.Config.Document.Page
import PredictionMarket.Config.Document.Passage
import PredictionMarket.Config.Document.Quotation
import PredictionMarket.Config.Document.Token
import PredictionMarket.Config.Document.Word
import PredictionMarket.Contract
import PredictionMarket.Contract.Call
import PredictionMarket.Contract.Creation
import PredictionMarket.Contract.Error
import PredictionMarket.Contract.Governance
import PredictionMarket.Contract.Plan
import PredictionMarket.Contract.Settlement
import PredictionMarket.Contract.Snapshot
import PredictionMarket.Contract.Trading
import PredictionMarket.Contract.View
import PredictionMarket.Curve
import PredictionMarket.Demo
import PredictionMarket.Demo.CommandLine
import PredictionMarket.Demo.Path
import PredictionMarket.ErrorKind
import PredictionMarket.Fees
import PredictionMarket.Guard
import PredictionMarket.Journal
import PredictionMarket.Json.Reader
import PredictionMarket.Json.Writer
import PredictionMarket.Main
import PredictionMarket.Market
import PredictionMarket.Message
import PredictionMarket.Message.Part
import PredictionMarket.Nonces
import PredictionMarket.Oracle
import PredictionMarket.Outbox
import PredictionMarket.Payout
import PredictionMarket.Pool
import PredictionMarket.Pool.Settlement
import PredictionMarket.Pool.Trading
import PredictionMarket.Proofs.Canonical
import PredictionMarket.Proofs.Canonical.Faithful
import PredictionMarket.Proofs.Canonical.Meaning
import PredictionMarket.Proofs.Canonical.Parts
import PredictionMarket.Proofs.Canonical.RoundTrip
import PredictionMarket.Proofs.Config
import PredictionMarket.Proofs.Contract.Accounts
import PredictionMarket.Proofs.Contract.Answers
import PredictionMarket.Proofs.Contract.Atomicity
import PredictionMarket.Proofs.Contract.Claims
import PredictionMarket.Proofs.Contract.Conservation
import PredictionMarket.Proofs.Contract.Delivery
import PredictionMarket.Proofs.Contract.Departure
import PredictionMarket.Proofs.Contract.Drain
import PredictionMarket.Proofs.Contract.Effect
import PredictionMarket.Proofs.Contract.Encodable
import PredictionMarket.Proofs.Contract.Finality
import PredictionMarket.Proofs.Contract.Frame
import PredictionMarket.Proofs.Contract.Isolation
import PredictionMarket.Proofs.Contract.Lifecycle
import PredictionMarket.Proofs.Contract.Messages
import PredictionMarket.Proofs.Contract.Moves
import PredictionMarket.Proofs.Contract.Numbering
import PredictionMarket.Proofs.Contract.Payments
import PredictionMarket.Proofs.Contract.Queue
import PredictionMarket.Proofs.Contract.Reach
import PredictionMarket.Proofs.Contract.Reports
import PredictionMarket.Proofs.Contract.Requests
import PredictionMarket.Proofs.Contract.Run
import PredictionMarket.Proofs.Contract.Snapshot
import PredictionMarket.Proofs.Contract.Solvency
import PredictionMarket.Proofs.Contract.StateRoot
import PredictionMarket.Proofs.Contract.Tags
import PredictionMarket.Proofs.Contract.Tally
import PredictionMarket.Proofs.Contract.TradingWindow
import PredictionMarket.Proofs.Contract.Twin
import PredictionMarket.Proofs.Curve
import PredictionMarket.Proofs.Curve.Odds
import PredictionMarket.Proofs.Curve.Portions
import PredictionMarket.Proofs.Curve.PriceMoves
import PredictionMarket.Proofs.Curve.Size
import PredictionMarket.Proofs.Curve.Splitting
import PredictionMarket.Proofs.Curve.SpotPrice
import PredictionMarket.Proofs.Curve.Tight
import PredictionMarket.Proofs.Fees
import PredictionMarket.Proofs.Fees.Entitlement
import PredictionMarket.Proofs.Json.Completeness
import PredictionMarket.Proofs.Json.Grammar
import PredictionMarket.Proofs.Json.LongNumbers
import PredictionMarket.Proofs.Json.Numeral
import PredictionMarket.Proofs.Market
import PredictionMarket.Proofs.Market.Answers
import PredictionMarket.Proofs.Message.Numeral
import PredictionMarket.Proofs.Message.Part
import PredictionMarket.Proofs.Message.RoundTrip
import PredictionMarket.Proofs.Message.Tags
import PredictionMarket.Proofs.Message.Wire
import PredictionMarket.Proofs.Outbox
import PredictionMarket.Proofs.Outbox.Kept
import PredictionMarket.Proofs.Outbox.Log
import PredictionMarket.Proofs.Payout
import PredictionMarket.Proofs.Pool.Accounts
import PredictionMarket.Proofs.Pool.Backing
import PredictionMarket.Proofs.Pool.Balances
import PredictionMarket.Proofs.Pool.Claims
import PredictionMarket.Proofs.Pool.Conservation
import PredictionMarket.Proofs.Pool.Drain
import PredictionMarket.Proofs.Pool.Empty
import PredictionMarket.Proofs.Pool.Exchange
import PredictionMarket.Proofs.Pool.Execution
import PredictionMarket.Proofs.Pool.FeeBalance
import PredictionMarket.Proofs.Pool.FeeLedgers
import PredictionMarket.Proofs.Pool.Holdings
import PredictionMarket.Proofs.Pool.Joining
import PredictionMarket.Proofs.Pool.Leaving
import PredictionMarket.Proofs.Pool.LeavingFirst
import PredictionMarket.Proofs.Pool.Ledger
import PredictionMarket.Proofs.Pool.Quotes
import PredictionMarket.Proofs.Pool.Refusals
import PredictionMarket.Proofs.Pool.Run
import PredictionMarket.Proofs.Pool.Settlement
import PredictionMarket.Proofs.Pool.Trading
import PredictionMarket.Proofs.Pool.WellFormed
import PredictionMarket.Proofs.Pool.Writes
import PredictionMarket.Proofs.Resolution
import PredictionMarket.Proofs.Resolution.Answers
import PredictionMarket.Proofs.Resolution.Bounds
import PredictionMarket.Proofs.Resolution.Interpolation
import PredictionMarket.Proofs.Resolution.Order
import PredictionMarket.Proofs.Shares
import PredictionMarket.Proofs.Table
import PredictionMarket.Proofs.Table.OfList
import PredictionMarket.Proofs.Text
import PredictionMarket.Proofs.TransferKey
import PredictionMarket.Resolution
import PredictionMarket.Room
import PredictionMarket.Sha256
import PredictionMarket.Shares
import PredictionMarket.Stakes
import PredictionMarket.Table
import PredictionMarket.Tag
import PredictionMarket.Text
import PredictionMarket.Text.Base64
import PredictionMarket.Text.Binary64
import PredictionMarket.Text.Binary64.Shortest
import PredictionMarket.Text.Case
import PredictionMarket.Text.Digits
import PredictionMarket.Text.Moment
import PredictionMarket.Text.Printable
import PredictionMarket.Text.Quoted
import PredictionMarket.Value
import PredictionMarket.Value.Alike
import PredictionMarket.Value.Dictionary
import PredictionMarket.Value.Equality
import PredictionMarket.Value.Members
import PredictionMarket.Value.Writable
import PredictionMarket.Wording
