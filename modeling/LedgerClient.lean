import LedgerClient.Client.Endpoint
import LedgerClient.Sandbox.Party
import LedgerClient.Sandbox.Reference
import LedgerClient.Sandbox.Sample.Source
import LedgerClient.Sandbox.Script
import LedgerClient.Schema
import LedgerClient.Proofs.Text.Utf8
import LedgerClient.Proofs.Wire.Codec
import LedgerClient.Proofs.Asset.Wire
import LedgerClient.Proofs.Authority
import LedgerClient.Proofs.Operation.Parts
import LedgerClient.Proofs.Operation.Wire
import LedgerClient.Proofs.Transaction.Wire
import LedgerClient.Proofs.Operation.Separation
import LedgerClient.Proofs.Transaction.Preimage
import LedgerClient.Proofs.Transaction.Signing
import LedgerClient.Proofs.Operation.Length
import LedgerClient.Proofs.Operation.Writable
import LedgerClient.Proofs.Transaction.Validation
import LedgerClient.Proofs.Transaction.Truncation
import LedgerClient.Proofs.Transaction.Broadcast
import LedgerClient.Proofs.Transaction.Transcoding
import LedgerClient.Proofs.Key.Signing
import LedgerClient.Proofs.Transaction.Signers
import LedgerClient.Proofs.Operation.Unknown
import LedgerClient.Proofs.Transaction.Quarantine
import LedgerClient.Proofs.Rpc.Interleaving
import LedgerClient.Proofs.Sandbox.Broadcast
import LedgerClient.Proofs.Asset.Spelling
import LedgerClient.Proofs.Transaction.Refused
import LedgerClient.Proofs.Transaction.Decoding
import LedgerClient.Proofs.Rpc.Verbatim
import LedgerClient.Proofs.Asset.Decimal
import LedgerClient.Proofs.Text.Order
import LedgerClient.Proofs.Timestamp.Spelling
import LedgerClient.Proofs.Chain.Report
import LedgerClient.Proofs.Client.Prepare
import LedgerClient.Proofs.Key.Spelling
import LedgerClient.Proofs.Key.Point
import LedgerClient.Proofs.Key.Attempts
import LedgerClient.Proofs.Wire.Varint
import LedgerClient.Proofs.Chain.Stable
