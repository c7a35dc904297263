import Gscache.Protocol

/-!
# The local data directory

The local backend (`internal/cache/backends/local/local.go`) keeps its entries under
`<workDir>/data`: `XX/HHHH….action` holds an entry's `EntryMeta`, `XX/HHHH….output` a body, and
`_empty.output` is the one empty body that every zero-size entry shares. Writes go to
`<path>.tmp.<uniqueId>` first and are renamed into place.

Paths are modelled by what they name rather than by their text. Different IDs give different
texts (`hexEncode_injective`), an `.action` path never equals an `.output` path, and the
temporary suffix is not a hex digit, so this loses nothing. `actionPath` and `outputPath` index
the ID's first byte, which panics on an empty ID (`none`).
-/

namespace Gscache

/-- A path of the local data directory. -/
inductive Path
  /-- `XX/HHHH….action`. -/
  | action (actionID : Bytes)
  /-- `XX/HHHH….output`. -/
  | output (outputID : Bytes)
  /-- `_empty.output`. -/
  | empty
  /-- `<target>.tmp.<uniqueId>`. -/
  | tmp (target : Path) (uniqueId : Nat)
deriving DecidableEq

/-- What a path holds. -/
inductive Node
  | file (content : Bytes)
  | dir
deriving DecidableEq

/-- `LocalBackend.actionPath`: panics on an empty ActionID. -/
def actionPath : Bytes → Option Path
  | [] => none
  | actionID => some (.action actionID)

/-- `LocalBackend.outputPath`: panics on an empty OutputID. -/
def outputPath : Bytes → Option Path
  | [] => none
  | outputID => some (.output outputID)

/-- The fields of a hit: the entry's OutputID, Size and Time, and the path of its body. -/
structure Hit where
  outputID : Bytes
  size : Int64
  time : Time
  diskPath : Path
deriving DecidableEq

/-- `protocol.GetResponse`: `Miss: true`, or a hit. -/
inductive GetResponse
  | miss
  | hit (h : Hit)
deriving DecidableEq

/-- `protocol.PutResponse`. -/
structure PutResponse where
  diskPath : Path
deriving DecidableEq

theorem actionPath_of_ne_nil {actionID : Bytes} (h : actionID ≠ []) :
    actionPath actionID = some (.action actionID) := by
  cases actionID with
  | nil => exact absurd rfl h
  | cons _ _ => rfl

theorem outputPath_of_ne_nil {outputID : Bytes} (h : outputID ≠ []) :
    outputPath outputID = some (.output outputID) := by
  cases outputID with
  | nil => exact absurd rfl h
  | cons _ _ => rfl

end Gscache
