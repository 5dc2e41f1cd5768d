import RemoteAccount.Bytes.Numeral
import RemoteAccount.Bytes.Base64
import RemoteAccount.Text.Blank
import RemoteAccount.Text.Pieces
import RemoteAccount.Text.Quoted
import RemoteAccount.Json.Form
import RemoteAccount.Identifier
import RemoteAccount.Coin
import RemoteAccount.Event
import RemoteAccount.Error.Host
import RemoteAccount.Message.Check
import RemoteAccount.Batch
import RemoteAccount.BatchResult
import RemoteAccount.Acknowledgement
import RemoteAccount.Channel
import RemoteAccount.Config
import RemoteAccount.KeyValue
import RemoteAccount.Handler.Script
import RemoteAccount.Host
import RemoteAccount.Proofs.Layers
import RemoteAccount.Proofs.Uniform
import RemoteAccount.Proofs.DirectRun
import RemoteAccount.Proofs.Outcome
import RemoteAccount.Proofs.Atomicity
import RemoteAccount.Proofs.Refinement
import RemoteAccount.Proofs.Transactions
import RemoteAccount.Proofs.Transfers
import RemoteAccount.Proofs.NoTheft
import RemoteAccount.Proofs.Runs
import RemoteAccount.Proofs.Supply
import RemoteAccount.Proofs.WireFormat
import RemoteAccount.Proofs.Base64
import RemoteAccount.Proofs.Json.Printed
import RemoteAccount.Proofs.Json.Rendered
import RemoteAccount.Proofs.Json.Spelling
import RemoteAccount.Proofs.Json.Lawful
import RemoteAccount.Proofs.Json.Faithful
import RemoteAccount.Proofs.Envelopes
import RemoteAccount.Proofs.Precedence
import RemoteAccount.Proofs.EndToEnd
import RemoteAccount.Proofs.Concatenation
import RemoteAccount.Proofs.Disclosure
import RemoteAccount.Proofs.Receipts
import RemoteAccount.Proofs.Relevance
import RemoteAccount.Proofs.Serving
import RemoteAccount.Proofs.ResultFormat
import RemoteAccount.Proofs.AllowLists
import RemoteAccount.Proofs.Isolation
import RemoteAccount.Proofs.Statistics
import RemoteAccount.Proofs.Conciseness
import RemoteAccount.Proofs.NetFlow
import RemoteAccount.Proofs.Solvency
import RemoteAccount.Proofs.Authentication
import RemoteAccount.Proofs.Merges
import RemoteAccount.Proofs.EntryLists
import RemoteAccount.Proofs.Loading
