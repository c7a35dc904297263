import Gscache.EntryMeta

/-!
# Protocol records

The requests of the cache-program protocol (`protocol.CacheProgRequest`) and of the daemon's
local API (`internal/protocol/gscache.go`). Responses carry disk paths and are defined with the
local backend.
-/

namespace Gscache

/-- `protocol.PutRequest`. `BodySize` is the number of bytes of the body; zero means no body. -/
structure PutRequest where
  actionID : Bytes
  outputID : Bytes
  bodySize : Int64
deriving DecidableEq

/-- `protocol.GetRequest`. -/
structure GetRequest where
  actionID : Bytes
deriving DecidableEq

/-- `protocol.CacheProgRequest`, one line of the adapter's input. Its declaration is not in the
sources; its fields are those `readLoop` reads (`ID`, `Command`, `ActionID`, `OutputID`,
`BodySize`), as the spec lists them. -/
structure CacheProgRequest where
  id : Int64
  command : Bytes
  actionID : Bytes
  outputID : Bytes
  bodySize : Int64
deriving DecidableEq

/-- `protocol.CmdGet`, `CmdPut` and `CmdClose`. -/
def cmdGet : Bytes := ascii "get"
def cmdPut : Bytes := ascii "put"
def cmdClose : Bytes := ascii "close"

end Gscache
