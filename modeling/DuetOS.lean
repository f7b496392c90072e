import DuetOS.Authority.Attenuation
import DuetOS.Channel.Lifetime
import DuetOS.Directory.Interleavings
import DuetOS.Directory.Publication
import DuetOS.Firewall.Conntrack
import DuetOS.Frame.DoubleFree
import DuetOS.Frame.Poison
import DuetOS.Gdi.Region
import DuetOS.Ledger.Settlement
import DuetOS.Lifecycle.Starts
import DuetOS.Loader.Exact
import DuetOS.Port.Delivery
import DuetOS.Resource.Accounting
import DuetOS.Ring.Disjoint
import DuetOS.Sched.Bands
import DuetOS.Sync.RwLock
import DuetOS.Tcp.Curve
import DuetOS.Tcp.Fits
import DuetOS.Tcp.Graceful
import DuetOS.Tcp.Orphans
import DuetOS.Tcp.Stream
import DuetOS.Tcp.Tuples
import DuetOS.Vfs.Resolve
