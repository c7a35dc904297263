import Gscache.Bytes
import Gscache.EntryMeta
import Gscache.Key
import Gscache.LineReader
import Gscache.Protocol
import Gscache.Base64
import Gscache.Transport
import Gscache.CacheProg
import Gscache.Layout
import Gscache.Archive
import Gscache.ArLocalStore
import Gscache.Compaction
import Gscache.Backend.State
import Gscache.Backend.Local
import Gscache.Backend.Blob
import Gscache.Backend.Daemon
import Gscache.Backend.Isolation
import Gscache.Backend.Reads
import Gscache.Backend.Failures
import Gscache.Backend.Provenance
import Gscache.Backend.Flights
import Gscache.ArLocalStore.Concurrent
import Gscache.ArStore
import Gscache.ArStore.Alone
import Gscache.ArStore.Keyspaces
import Gscache.ArStore.Footprint
import Gscache.ArStore.Atomic
import Gscache.Compaction.Refinement
import Gscache.Compaction.Concurrent
import Gscache.Compaction.Served
import Gscache.CacheProg.Session
import Gscache.Stats
import Gscache.Server
