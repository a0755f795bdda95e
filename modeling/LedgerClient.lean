import LedgerClient.Client.Connection
import LedgerClient.Client.Reading
import LedgerClient.Client.Writing
import LedgerClient.Config.Store
import LedgerClient.Endpoint
import LedgerClient.IpAddress.Text
import LedgerClient.Node.Scripted
import LedgerClient.Random.ChaCha
import LedgerClient.Proofs.Exchange
import LedgerClient.Proofs.Action
import LedgerClient.Proofs.Waiting
import LedgerClient.Proofs.LongerWait
import LedgerClient.Proofs.Deadline
import LedgerClient.Proofs.Operation
import LedgerClient.Proofs.Harmless
import LedgerClient.Proofs.LinkDrop
import LedgerClient.Proofs.Calls
import LedgerClient.Proofs.Conversation
import LedgerClient.Proofs.LateRuns
import LedgerClient.Proofs.Choice
import LedgerClient.Proofs.Resolution
import LedgerClient.Proofs.Fairness
import LedgerClient.Proofs.Connection
import LedgerClient.Proofs.Course
import LedgerClient.Proofs.Failover
import LedgerClient.Proofs.Session
import LedgerClient.Proofs.Lifecycle
import LedgerClient.Proofs.ByteOrder
import LedgerClient.Proofs.NonceOrder
import LedgerClient.Proofs.Advertised
import LedgerClient.Proofs.Agreement
import LedgerClient.Proofs.Amount
import LedgerClient.Proofs.RoundTrip
import LedgerClient.Proofs.EqualAmounts
import LedgerClient.Proofs.Composing
import LedgerClient.Proofs.Result
import LedgerClient.Proofs.Malformed
import LedgerClient.Proofs.Decoding
import LedgerClient.Proofs.Recognition
import LedgerClient.Proofs.ReadBack
import LedgerClient.Proofs.KeyUse
import LedgerClient.Proofs.SigningKey
import LedgerClient.Proofs.WholeMaps
import LedgerClient.Proofs.MovingChain
import LedgerClient.Proofs.JsonGrammar
import LedgerClient.Proofs.JsonReading
import LedgerClient.Proofs.JsonText
import LedgerClient.Proofs.ConfigText
import LedgerClient.Proofs.StoredWeights
import LedgerClient.Proofs.Memoryless
import LedgerClient.Proofs.StoreHistory
import LedgerClient.Proofs.Composition
import LedgerClient.Proofs.TimeLimits
import LedgerClient.Proofs.Publication
import LedgerClient.Proofs.StatusChannel
import LedgerClient.Proofs.PresentEntries
import LedgerClient.Proofs.InvalidCalls
import LedgerClient.Proofs.Setup
import LedgerClient.Proofs.SingleEndpoint
import LedgerClient.Proofs.StorageAddress
import LedgerClient.Proofs.Total
import LedgerClient.Proofs.Overlay
