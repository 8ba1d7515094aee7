import DiagnosticGateway.Uds.Provenance
import DiagnosticGateway.Uds.Responses
import DiagnosticGateway.Uds.BruteForce
import DiagnosticGateway.Uds.Freshness
import DiagnosticGateway.Uds.Atomicity
import DiagnosticGateway.Uds.Suppression
import DiagnosticGateway.Uds.ZeroSeed
import DiagnosticGateway.Uds.Polling
import DiagnosticGateway.Isotp.Deadlines
import DiagnosticGateway.Isotp.Transparency
import DiagnosticGateway.Isotp.FlowControl
import DiagnosticGateway.Isotp.BlockEnd
import DiagnosticGateway.Isotp.LossyBus
import DiagnosticGateway.Platform.Transmission
import DiagnosticGateway.Platform.SendLoop
import DiagnosticGateway.Platform.Patience
import DiagnosticGateway.Platform.ForeignTraffic
import DiagnosticGateway.Platform.Addressing
import DiagnosticGateway.Ecu.Carryover
import DiagnosticGateway.Ecu.Faults
import DiagnosticGateway.Gateway.Observation
import DiagnosticGateway.Gateway.PermissiveEcu
import DiagnosticGateway.Gateway.Arming
import DiagnosticGateway.Gateway.TrustedLink
import DiagnosticGateway.Gateway.Availability
import DiagnosticGateway.Gateway.Delivery
import DiagnosticGateway.Gateway.Benchmark
import DiagnosticGateway.Client.Bounds
import DiagnosticGateway.Client.Prompt
import DiagnosticGateway.Client.Inspector
import DiagnosticGateway.Fuzz.Campaigns
import DiagnosticGateway.Fuzz.Parser
