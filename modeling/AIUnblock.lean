import AIUnblock.Engine.Addresses
import AIUnblock.Engine.Agreement
import AIUnblock.Engine.Client
import AIUnblock.Engine.Datagrams
import AIUnblock.Engine.Handshake
import AIUnblock.Engine.MappedDns
import AIUnblock.Engine.RingBuffer
import AIUnblock.Engine.SessionSet
import AIUnblock.Engine.SessionTcp
import AIUnblock.Engine.SessionUdp
import AIUnblock.Engine.Stopping
import AIUnblock.Foundation.Circular
import AIUnblock.Foundation.Conversation
import AIUnblock.Foundation.Crew
import AIUnblock.Foundation.DnsMessage
import AIUnblock.Foundation.Endpoints
import AIUnblock.Foundation.Fairness
import AIUnblock.Foundation.Incremental
import AIUnblock.Foundation.Interference
import AIUnblock.Foundation.LengthPrefixed
import AIUnblock.Foundation.LinkedList
import AIUnblock.Foundation.Program
import AIUnblock.Foundation.Runs
import AIUnblock.Foundation.Separators
import AIUnblock.Foundation.Sequential
import AIUnblock.Foundation.Threads
import AIUnblock.Gateway.Closing
import AIUnblock.Gateway.DnsQuery
import AIUnblock.Gateway.GatewaySelector
import AIUnblock.Gateway.RefreshRule
import AIUnblock.Gateway.Refreshes
import AIUnblock.Gateway.Scheduler
import AIUnblock.Gateway.Selection
import AIUnblock.Kotlin.Arrays
import AIUnblock.Kotlin.Checked
import AIUnblock.Kotlin.Maps
import AIUnblock.Kotlin.Network
import AIUnblock.Kotlin.Text
import AIUnblock.Relay.Association
import AIUnblock.Relay.BadDatagrams
import AIUnblock.Relay.Calls
import AIUnblock.Relay.Checked
import AIUnblock.Relay.Client
import AIUnblock.Relay.ClientHelloStream
import AIUnblock.Relay.DatagramHeaders
import AIUnblock.Relay.Datagrams
import AIUnblock.Relay.DestinationReaders
import AIUnblock.Relay.Destinations
import AIUnblock.Relay.DnsAnswers
import AIUnblock.Relay.DnsLookups
import AIUnblock.Relay.DnsNames
import AIUnblock.Relay.DnsOverride
import AIUnblock.Relay.DnsQuestions
import AIUnblock.Relay.ForeignDatagrams
import AIUnblock.Relay.HalfClose
import AIUnblock.Relay.Handshake
import AIUnblock.Relay.Ledgers
import AIUnblock.Relay.Operations
import AIUnblock.Relay.ParserBounds
import AIUnblock.Relay.Release
import AIUnblock.Relay.Resources
import AIUnblock.Relay.Server
import AIUnblock.Relay.Session
import AIUnblock.Relay.Shutdown
import AIUnblock.Relay.Transparency
import AIUnblock.Relay.Tunnel
import AIUnblock.Relay.UdpAssociation
import AIUnblock.Relay.Waiting
import AIUnblock.Routing.Assets
import AIUnblock.Routing.Comments
import AIUnblock.Routing.ExactEndpoints
import AIUnblock.Routing.GeoHideRoutingRules
import AIUnblock.Routing.LongestSuffix
import AIUnblock.Routing.PointRecords
import AIUnblock.Routing.RoutingRules
import AIUnblock.Service.AiUnblockVpnService
import AIUnblock.Service.AllOrNothing
import AIUnblock.Service.Cleanup
import AIUnblock.Service.Connect
import AIUnblock.Service.FailedStart
import AIUnblock.Service.Holdings
import AIUnblock.Service.Process
import AIUnblock.Service.StaleSelection
import AIUnblock.Service.Starting
import AIUnblock.Service.Threads
import AIUnblock.Tls.Checked
import AIUnblock.Tls.ClientHello
import AIUnblock.Tls.DeadEnds
import AIUnblock.Tls.Fragments
import AIUnblock.Tls.Grammar
import AIUnblock.Tls.Missing
import AIUnblock.Tls.NameBounds
import AIUnblock.Tls.Stability
