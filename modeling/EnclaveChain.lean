import EnclaveChain.Main
import EnclaveChain.Proofs.Scale.Reading
import EnclaveChain.Proofs.Scale.Compact
import EnclaveChain.Proofs.Scale.Exact
import EnclaveChain.Proofs.WireFormat
import EnclaveChain.Proofs.Scale.Signature
import EnclaveChain.Proofs.Registry.CallLayout
import EnclaveChain.Proofs.Registry.StorageLayout
import EnclaveChain.Proofs.Storage.Hashed
import EnclaveChain.Proofs.Storage.Slot
import EnclaveChain.Proofs.Storage.TypedMap
import EnclaveChain.Proofs.Text.Hex
import EnclaveChain.Proofs.Json.Reading
import EnclaveChain.Proofs.Json.Record
import EnclaveChain.Proofs.Json.Denotation
import EnclaveChain.Proofs.Registry.Denotation
import EnclaveChain.Proofs.Json.Writing
import EnclaveChain.Proofs.Registry.Reload
import EnclaveChain.Proofs.Registry.Consistency
import EnclaveChain.Proofs.Registry.Upgrade
import EnclaveChain.Proofs.Registry.Reach
import EnclaveChain.Proofs.Storage.Fallback
import EnclaveChain.Proofs.Scale.Fault
import EnclaveChain.Proofs.Scale.Induction
import EnclaveChain.Proofs.Scale.Steady
import EnclaveChain.Proofs.Scale.Completion
import EnclaveChain.Proofs.Scale.Opening
import EnclaveChain.Proofs.Registry.CallIndex
import EnclaveChain.Proofs.Node.Stored
import EnclaveChain.Proofs.Registry.FirstFault
import EnclaveChain.Proofs.Storage.RawState
import EnclaveChain.Proofs.CommandLine.Printed
import EnclaveChain.Proofs.Storage.Mirror
import EnclaveChain.Proofs.CommandLine.ShownValue
import EnclaveChain.Proofs.Scale.Span
import EnclaveChain.Proofs.Scale.Cut
import EnclaveChain.Proofs.Storage.Derivation
import EnclaveChain.Proofs.Storage.Arguments
import EnclaveChain.Proofs.Storage.PrefixScan
import EnclaveChain.Proofs.Storage.Insertions
import EnclaveChain.Proofs.Storage.ReadRecords
import EnclaveChain.Proofs.CommandLine.ShownKey
import EnclaveChain.Proofs.Scale.Widths
import EnclaveChain.Proofs.Text.Base58
import EnclaveChain.Proofs.Terminal.Rendering
import EnclaveChain.Proofs.CommandLine.ShownAuthorities
import EnclaveChain.Proofs.Text.HexFault
import EnclaveChain.Proofs.Json.Place
import EnclaveChain.Proofs.Registry.DefaultText
import EnclaveChain.Proofs.Toml.Grammar
import EnclaveChain.Proofs.Toml.Strings
import EnclaveChain.Proofs.Toml.Lines
import EnclaveChain.Proofs.Toml.Building
import EnclaveChain.Proofs.Toml.Kept
import EnclaveChain.Proofs.Toml.Other
import EnclaveChain.Proofs.Toml.Writing
import EnclaveChain.Proofs.Config.Document
import EnclaveChain.Proofs.Scale.ItemCount
import EnclaveChain.Proofs.Scale.Trace
import EnclaveChain.Proofs.Scale.Attempts
