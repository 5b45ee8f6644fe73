import DeviceGateway.Binary.Elementary
import DeviceGateway.Configuration.Codec
import DeviceGateway.Device.Codec
import DeviceGateway.Driver.Bench
import DeviceGateway.Driver.Script
import DeviceGateway.Event.Codec
import DeviceGateway.Gateway.Command
import DeviceGateway.Gateway.Lifecycle
import DeviceGateway.Json.Reader
import DeviceGateway.Main
import DeviceGateway.Metadata.Store
import DeviceGateway.Publish.Sink
import DeviceGateway.Registry.Resolve
import DeviceGateway.Value.Transform
import DeviceGateway.Proofs.Registry.Tables
import DeviceGateway.Proofs.Except
import DeviceGateway.Proofs.Normalization.Pairing
import DeviceGateway.Proofs.Registry.Resolve
import DeviceGateway.Proofs.Value.Label
import DeviceGateway.Proofs.Gateway.Run
import DeviceGateway.Proofs.Gateway.Frame
import DeviceGateway.Proofs.Gateway.Trace
import DeviceGateway.Proofs.Gateway.Put
import DeviceGateway.Proofs.Channel
import DeviceGateway.Proofs.Gateway.Aside
import DeviceGateway.Proofs.Gateway.Drain
import DeviceGateway.Proofs.Gateway.Reachable
import DeviceGateway.Proofs.Gateway.Sound
import DeviceGateway.Proofs.Gateway.Stop
import DeviceGateway.Proofs.Gateway.Apart
import DeviceGateway.Proofs.Gateway.Flow
import DeviceGateway.Proofs.Gateway.Alert
import DeviceGateway.Proofs.Gateway.Progress
import DeviceGateway.Proofs.Gateway.Fifo
import DeviceGateway.Proofs.Gateway.Lifecycle
import DeviceGateway.Proofs.Gateway.Start
import DeviceGateway.Proofs.Gateway.Deliver
import DeviceGateway.Proofs.Gateway.Alive
import DeviceGateway.Proofs.Gateway.Get
import DeviceGateway.Proofs.Registry.Catalogue
import DeviceGateway.Proofs.Registry.Profiles
import DeviceGateway.Proofs.Registry.Resolution
import DeviceGateway.Proofs.Registry.Edit
import DeviceGateway.Proofs.Registry.Bootstrap
import DeviceGateway.Proofs.Gateway.Agree
import DeviceGateway.Proofs.Binary.Round
import DeviceGateway.Proofs.Decimal.Shortest
import DeviceGateway.Proofs.Decimal.Plain
import DeviceGateway.Proofs.Decimal.Integer
import DeviceGateway.Proofs.Value.Bytes
import DeviceGateway.Proofs.Value.RoundTrip
import DeviceGateway.Proofs.Gateway.Manage
import DeviceGateway.Proofs.Gateway.Complete
import DeviceGateway.Proofs.Normalization.Undated
import DeviceGateway.Proofs.Registry.Disable
import DeviceGateway.Proofs.Value.Obtained
import DeviceGateway.Proofs.Gateway.Errand
import DeviceGateway.Proofs.Gateway.Race
import DeviceGateway.Proofs.Gateway.Elsewhere
import DeviceGateway.Proofs.Gateway.Gather
import DeviceGateway.Proofs.Gateway.All
import DeviceGateway.Proofs.Gateway.Address
import DeviceGateway.Proofs.Driver.Simulator
import DeviceGateway.Proofs.Gateway.Orders
import DeviceGateway.Proofs.Gateway.Undisturbed
import DeviceGateway.Proofs.Gateway.Watch
import DeviceGateway.Proofs.Metadata.Store
import DeviceGateway.Proofs.Gateway.Reports
import DeviceGateway.Proofs.Gateway.Upstream
import DeviceGateway.Proofs.Gateway.Removal
import DeviceGateway.Proofs.Gateway.Independent
import DeviceGateway.Proofs.Gateway.Batches
import DeviceGateway.Proofs.Json.Record
import DeviceGateway.Proofs.Json.Additions
import DeviceGateway.Proofs.Json.RoundTrip
import DeviceGateway.Proofs.Codec
import DeviceGateway.Proofs.Binary.Exact
import DeviceGateway.Proofs.Binary.Value
import DeviceGateway.Proofs.Binary.Integer
import DeviceGateway.Proofs.Decimal.Literal
import DeviceGateway.Proofs.Value.Store
import DeviceGateway.Proofs.Value.View
import DeviceGateway.Proofs.Value.Inverse
import DeviceGateway.Proofs.Decimal.Coincidence
import DeviceGateway.Proofs.Decimal.Middle
import DeviceGateway.Proofs.Decimal.Across
import DeviceGateway.Proofs.Value.Restore
import DeviceGateway.Proofs.Value.Logarithm
import DeviceGateway.Proofs.Gateway.Logarithm
import DeviceGateway.Proofs.Text.Blank
import DeviceGateway.Proofs.Decimal.Numeral
import DeviceGateway.Proofs.Value.Failure
import DeviceGateway.Proofs.Value.Atomic
import DeviceGateway.Proofs.Decimal.Limit
import DeviceGateway.Proofs.Gateway.Numeral
import DeviceGateway.Proofs.Value.Integer
import DeviceGateway.Proofs.Registry.Reads
import DeviceGateway.Proofs.Binary.Series
import DeviceGateway.Proofs.Binary.Quotient
import DeviceGateway.Proofs.Binary.Logarithm
import DeviceGateway.Proofs.Binary.Exponent
import DeviceGateway.Proofs.Value.Power
