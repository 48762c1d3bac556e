import MagicMousePad.Lib.ByteOrder
import MagicMousePad.Lib.Mealy
import MagicMousePad.Lib.OrderedSet
import MagicMousePad.Lib.Records
import MagicMousePad.Lib.Runs
import MagicMousePad.Lib.SignedRange
import MagicMousePad.Lib.Simulation
import MagicMousePad.Lib.Worker
import MagicMousePad.Wire
import MagicMousePad.Pad
import MagicMousePad.Treadmill
import MagicMousePad.Repositioning
import MagicMousePad.PadRange
import MagicMousePad.Buttons
import MagicMousePad.Sockaddr
import MagicMousePad.Server
import MagicMousePad.ServerReceive
import MagicMousePad.Registration
import MagicMousePad.Interleaving
import MagicMousePad.Linearization
import MagicMousePad.Delivery
import MagicMousePad.Deadlock
import MagicMousePad.Client
import MagicMousePad.Connect
import MagicMousePad.Discovery
import MagicMousePad.Adapters
import MagicMousePad.DiscoveryOutcome
import MagicMousePad.Host
import MagicMousePad.Reception
import MagicMousePad.RoundTrip
import MagicMousePad.PerfectNetwork
import MagicMousePad.Lifetime
import MagicMousePad.Residue
import MagicMousePad.Ordering
import MagicMousePad.Convergence
import MagicMousePad.StartPosition
import MagicMousePad.Visibility
import MagicMousePad.Wall
import MagicMousePad.ClientRange
import MagicMousePad.DisplayCounter
import MagicMousePad.Pixels
import MagicMousePad.Settings
import MagicMousePad.ServeSetup
import MagicMousePad.Running
import MagicMousePad.EndPoint
import MagicMousePad.Configuration
import MagicMousePad.Registry
import MagicMousePad.Load
import MagicMousePad.Tray
import MagicMousePad.Connection
import MagicMousePad.System
import MagicMousePad.Shutdown
import MagicMousePad.Disconnect
import MagicMousePad.Detached
import MagicMousePad.Rendezvous
import MagicMousePad.DumpPos
