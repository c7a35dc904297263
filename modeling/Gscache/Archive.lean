import Gscache.Key
import Gscache.Layout

/-!
# BlobArchive bundles

A BlobArchive (`internal/cache/backends/blob/ar.go`) is a zip file of small entries: each zip
entry is named by the ActionID in hex, carries its `EntryMeta` as JSON in the entry comment, and
holds the body as data. The zip container and the JSON encoding are not modelled: an archive is
the list of its entries, and reading an archive back gives the entries that were added.

`ArStore.GetBlob` looks an ActionID up in the installed archive of its keyspace and drops an entry
whose meta names another ActionID.
-/

namespace Gscache

/-- An entry of a BlobArchive: its name, its meta and its data. -/
structure ArEntry where
  name : Bytes
  meta : EntryMeta
  data : Bytes
deriving DecidableEq

/-- An opened archive (`ArReader`). -/
structure ArReader where
  entries : List ArEntry
deriving DecidableEq

/-- `ArReader.Get`: `NewArReader` fills a map in zip order, so the last entry of a name wins. -/
def ArReader.get (r : ArReader) (name : Bytes) : Option ArEntry :=
  r.entries.reverse.find? fun entry => entry.name = name

/-- Why `ArWriter.Add` failed: the data does not have `meta.Size` bytes, or writing failed. -/
inductive AddError
  | sizeMismatch
  | io
deriving DecidableEq

/-- `ArWriter.Add`: the size check, then the entry is written (`written = false` when the zip
writer fails). -/
def arWriterAdd (entries : List ArEntry) (name : Bytes) (meta : EntryMeta) (data : Bytes)
    (written : Bool) : Except AddError (List ArEntry) :=
  if (data.length : Int) ≠ meta.size.val then .error .sizeMismatch
  else if written then .ok (entries ++ [⟨name, meta, data⟩])
  else .error .io

/-- `ArStore.GetBlob`: the entry named by the ActionID in the archive installed for `keyspace`,
unless its meta names another ActionID. -/
def getBlob (archives : Bytes → Option ArReader) (keyspace actionID : Bytes) : Option ArEntry := do
  let r ← archives keyspace
  let entry ← r.get (cacheEntityNameInArchive actionID)
  if entry.meta.actionID ≠ actionID then none else some entry

theorem getBlob_actionID {archives : Bytes → Option ArReader} {keyspace actionID : Bytes}
    {entry : ArEntry} (found : getBlob archives keyspace actionID = some entry) :
    entry.meta.actionID = actionID := by
  simp only [getBlob, Option.bind_eq_bind, Option.bind_eq_some, ite_not] at found
  obtain ⟨_, _, _, _, same⟩ := found
  split at same
  · cases same; assumption
  · cases same

end Gscache
