import HostDialing.Cache.Direct
import HostDialing.Network.Http
import HostDialing.Network.Tcp
import HostDialing.Proofs.Cache.Cadence
import HostDialing.Proofs.Cache.Clear
import HostDialing.Proofs.Cache.Deadlines
import HostDialing.Proofs.Cache.Hosts
import HostDialing.Proofs.Cache.KnownHosts
import HostDialing.Proofs.Cache.LatestAnswer
import HostDialing.Proofs.Cache.Misses
import HostDialing.Proofs.Cache.Plain
import HostDialing.Proofs.Cache.RefreshPass
import HostDialing.Proofs.Cache.Stop
import HostDialing.Proofs.Cache.Window
import HostDialing.Proofs.Dial.Cancellation
import HostDialing.Proofs.Dial.Failover
import HostDialing.Proofs.Dial.Footprint
import HostDialing.Proofs.Dial.Grammar
import HostDialing.Proofs.Dial.Isolation
import HostDialing.Proofs.Dial.Order
import HostDialing.Proofs.Dial.RoundTrip
import HostDialing.Proofs.Dial.Shuffle
import HostDialing.Proofs.Dial.Sockets
import HostDialing.Proofs.Dial.Wrapping
import HostDialing.Proofs.Messages
import HostDialing.Proofs.Network.Addresses
import HostDialing.Proofs.Network.Families
import HostDialing.Proofs.Settings.Defaults
import HostDialing.Proofs.Settings.Members
import HostDialing.Proofs.Settings.Shortened
import HostDialing.Proofs.Settings.Variables
import HostDialing.Rehearsal.Session
import HostDialing.Rehearsal.Zone
import HostDialing.Settings.Env
import HostDialing.Settings.Json
