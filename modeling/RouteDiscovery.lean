import RouteDiscovery.Text.Blank
import RouteDiscovery.Text.Quoted
import RouteDiscovery.Inbox
import RouteDiscovery.Route.Choice
import RouteDiscovery.Node
import RouteDiscovery.Endpoint
import RouteDiscovery.Lan
import RouteDiscovery.Runner
import RouteDiscovery.Proofs.Packet.Exact
import RouteDiscovery.Proofs.Stream.Reassembly
import RouteDiscovery.Proofs.Network.Soundness
import RouteDiscovery.Proofs.Lan.Silence
import RouteDiscovery.Proofs.Lan.Hearsay
import RouteDiscovery.Proofs.Route.Coherence
import RouteDiscovery.Proofs.Inbox.Streams
import RouteDiscovery.Proofs.Node.Run
import RouteDiscovery.Proofs.Route.Apart
import RouteDiscovery.Proofs.Node.Isolation
import RouteDiscovery.Proofs.Node.Notices
import RouteDiscovery.Proofs.Route.Selection
import RouteDiscovery.Proofs.Discovery.Datagrams
import RouteDiscovery.Proofs.Node.Invariant
import RouteDiscovery.Proofs.Node.Announcement
import RouteDiscovery.Proofs.Route.History
import RouteDiscovery.Proofs.Route.Commutation
import RouteDiscovery.Proofs.Network.Circuit
import RouteDiscovery.Proofs.Inbox.Accounting
import RouteDiscovery.Proofs.Packet.Layout
import RouteDiscovery.Proofs.Stream.Remainder
import RouteDiscovery.Proofs.Stream.Continuation
import RouteDiscovery.Proofs.Route.Ingestion
import RouteDiscovery.Proofs.Route.Horizon
import RouteDiscovery.Proofs.Route.Liveness
import RouteDiscovery.Proofs.Node.Dispatch
import RouteDiscovery.Proofs.Node.Sending
import RouteDiscovery.Proofs.Discovery.Greedy
import RouteDiscovery.Proofs.Discovery.Transmission
import RouteDiscovery.Proofs.Discovery.Ticks
import RouteDiscovery.Proofs.Node.Costs
import RouteDiscovery.Proofs.Endpoint.Reconciliation
import RouteDiscovery.Proofs.Endpoint.Membership
import RouteDiscovery.Proofs.Adapter.Updates
import RouteDiscovery.Proofs.Message.Prefix
import RouteDiscovery.Proofs.Wire.Storage
