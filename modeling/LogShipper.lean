import LogShipper.Main
import LogShipper.PayloadSink
import LogShipper.Proofs.Payload.Decoding
import LogShipper.Proofs.Payload.Whole
import LogShipper.Proofs.Run.Delivery
import LogShipper.Proofs.Run.Failing
import LogShipper.Proofs.Run.Resending
import LogShipper.Proofs.Shipper.Agreement
import LogShipper.Proofs.Shipper.Counting
import LogShipper.Proofs.Shipper.Isolation
import LogShipper.Proofs.Shipper.Lifecycle
import LogShipper.Proofs.Shipper.Standing
import LogShipper.Proofs.Client.Destination
import LogShipper.Proofs.Client.Reporting
import LogShipper.Proofs.Config.Precedence
import LogShipper.Proofs.Config.WellFormed
import LogShipper.Proofs.Shipping.Blocks
import LogShipper.Proofs.Run.Closing
import LogShipper.Proofs.Json.LongIntegers
import LogShipper.Proofs.Json.Bounds
import LogShipper.Proofs.Record.Reading
import LogShipper.Proofs.Payload.Token
import LogShipper.Proofs.Shipper.Secrecy
import LogShipper.Proofs.Record.Locality
import LogShipper.Proofs.Record.Flattening
import LogShipper.Proofs.Payload.Failing
import LogShipper.Proofs.Payload.Writing
import LogShipper.Proofs.Config.Refusing
import LogShipper.Proofs.LogTable.Deduplication
import LogShipper.Proofs.Config.Heeding
import LogShipper.Proofs.Config.Concealing
import LogShipper.Proofs.Metrics.Ordering
import LogShipper.Proofs.Run.Starting
import LogShipper.Proofs.Shipper.Identity
import LogShipper.Proofs.TextFile
