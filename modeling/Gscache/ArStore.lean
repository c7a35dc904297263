import Gscache.ArLocalStore.Concurrent

/-!
# The archive store: syncing from the bucket and ingesting new archives

`ArStore` (`ar.go`) connects the local archive store with the bucket. `SyncFromRemote` downloads
the archive object `ArchiveKey(keyspace)` and hands it to `ArLocalStore.Put`, unless a sync or an
ingest of the keyspace finished less than `ArStoreMinSyncInterval` before. `IngestNewArchive`
installs a new archive file with `ArLocalStore.Put` first, "to make sure the file is fine", and
only then uploads it. The calls run concurrently with each other and with the calls of the local
store (`ArLocalStore.Concurrent`): the `Put` each makes is a call of the local store, which it
waits for.

The bucket is a map from object key to bytes, as in the daemon; other writers of the bucket are
left out. At a step of a call, `ok` is the outcome of its operation (`NewReader`, `os.Open`,
`Upload`) and `now` the clock; the `Put` a call makes gets a stream that breaks off if
`streamErr`, and `io` gives the outcome of its file operations. `IngestNewArchive` uploads the file
it installed: the file is not changed between its two opens. Stats counters and logging are left
out.

Results:
1. `arStoreRun_published`: over every interleaving, an archive object of the bucket is the one
   there at the start, or a file that an `IngestNewArchive` of its keyspace uploaded after its
   local `Put` succeeded, so `NewArReader` accepts it: ingest never publishes a broken archive.
2. `arStoreRun_installed`: over every interleaving, the local archive file of a keyspace is the
   one there at the start, or an archive `NewArReader` accepts that the bucket held (a sync
   downloaded it) or that an ingest installed.

Interleaved calls of one keyspace do not keep the bucket and the local store together: in the
example at the end, an ingest that overlaps a sync of its keyspace returns with the bucket holding
the new archive, the local store the old one, and the keyspace marked as synced, so that a
`SyncFromRemote` right after skips.
-/

namespace Gscache

open ArLocalStore (ArCall)

/-! ## The local store's `Put` calls across a step -/

section PutCalls

variable {newArReader : Bytes → Option ArReader} {w w' : ArWorld} {l : ArLabel} {t : Nat}
  {keyspace stream : Bytes} {streamErr : Bool} {io : PutIO} {uniqueId : Nat}

/-- A step of the store keeps every `Put` call with its arguments, and one that has returned as it
is. -/
theorem arStep_put_kept (free : w.tasks w.next = none) (h : arStep newArReader w l = some w')
    {pc : ArPutPc} (found : w.tasks t = some (.put keyspace stream streamErr io uniqueId pc)) :
    ∃ pc', w'.tasks t = some (.put keyspace stream streamErr io uniqueId pc') ∧
      ∀ r, pc = .done r → pc' = pc := by
  have other : t ≠ w.next := fun same => by rw [same, free] at found; cases found
  cases l with
  | call c =>
    cases h
    cases c <;> exact ⟨pc, (Function.update_noteq other _ _).trans found, fun _ _ => rfl⟩
  | run u =>
    obtain ⟨task, found', rfl⟩ := Option.map_eq_some'.mp h
    split
    · exact ⟨pc, found, fun _ _ => rfl⟩
    · rename_i s task' stepped
      by_cases same : t = u
      · subst same
        rw [found] at found'
        cases found'
        obtain ⟨⟨s'', pc'⟩, stepped', moved⟩ := Option.map_eq_some'.mp stepped
        cases moved
        refine ⟨pc', Function.update_same _ _ _, fun r done => ?_⟩
        subst done
        cases stepped'
      · exact ⟨pc, (Function.update_noteq same _ _).trans found, fun _ _ => rfl⟩

/-- A `Put` call after a step of the store was there before with its arguments, or is the call the
step made. -/
theorem arStep_put_from (h : arStep newArReader w l = some w') {pc' : ArPutPc}
    (found : w'.tasks t = some (.put keyspace stream streamErr io uniqueId pc')) :
    (∃ pc, w.tasks t = some (.put keyspace stream streamErr io uniqueId pc)) ∨
      l = .call (.put keyspace stream streamErr io) := by
  cases l with
  | call c =>
    cases h
    by_cases same : t = w.next
    · subst same
      cases c <;> simp only [ArWorld.spawn, Function.update_same, Option.some.injEq,
        ArTask.put.injEq, reduceCtorEq] at found
      obtain ⟨rfl, rfl, rfl, rfl, -⟩ := found
      exact .inr rfl
    · cases c <;> exact .inl ⟨pc', (Function.update_noteq same _ _).symm.trans found⟩
  | run u =>
    obtain ⟨task, found', rfl⟩ := Option.map_eq_some'.mp h
    split at found
    · exact .inl ⟨pc', found⟩
    · rename_i s task' stepped
      by_cases same : t = u
      · subst same
        simp only [Function.update_same, Option.some.injEq] at found
        subst found
        cases task <;> obtain ⟨_, _, moved⟩ := Option.map_eq_some'.mp stepped <;> cases moved
        exact .inl ⟨_, found'⟩
      · exact .inl ⟨pc', (Function.update_noteq same _ _).symm.trans found⟩

end PutCalls

/-! ## The calls of `ArStore` -/

/-- `ArStoreMinSyncInterval`: five seconds, in nanoseconds. -/
def arStoreMinSyncInterval : Int := 5 * 1000000000

/-- The errors of `SyncFromRemote`. -/
inductive SyncError
  /-- `failed to read <ArchiveKey>`: `NewReader` failed, and not with NotFound. -/
  | read
  /-- The error of `ArLocalStore.Put`. -/
  | put (e : ArPutError)
deriving DecidableEq

/-- The errors of `IngestNewArchive`. -/
inductive IngestError
  /-- `failed to open <localFilePath>`. -/
  | openFile
  /-- The error of `ArLocalStore.Put`. -/
  | put (e : ArPutError)
  /-- `failed to upload <localFilePath> to <ArchiveKey>`. -/
  | upload
deriving DecidableEq

/-- Where a `SyncFromRemote` is. -/
inductive SyncPc
  /-- Reading `lastSyncAt` under the read lock. -/
  | check
  /-- `Remote.NewReader(ArchiveKey(keyspace))`. -/
  | download
  /-- Waiting for `local.Put`, call `child` of the local store. -/
  | put (child : Nat)
  /-- Writing `lastSyncAt` under the lock. -/
  | record
  | done (r : Except SyncError Unit)
deriving DecidableEq

/-- Where an `IngestNewArchive` is. -/
inductive IngestPc
  /-- `os.Open(localFilePath)`. -/
  | openFile
  /-- Waiting for `local.Put`, call `child` of the local store. -/
  | put (child : Nat)
  /-- The second `os.Open`, its error ignored, and `Remote.Upload`. -/
  | upload
  /-- Writing `lastSyncAt` under the lock. -/
  | record
  | done (r : Except IngestError Unit)
deriving DecidableEq

/-- A call of `ArStore` with its arguments and its program point; an ingest's `file` is what its
local file holds. -/
inductive ArStoreCall
  | sync (keyspace : Bytes) (pc : SyncPc)
  | ingest (keyspace file : Bytes) (pc : IngestPc)
deriving DecidableEq

/-- The archive store: the local store with its calls, the bucket, `lastSyncAt`, and the calls of
`ArStore`. -/
structure ArStoreWorld where
  store : ArWorld
  /-- The bucket's objects, by key. -/
  remote : Bytes → Option Bytes
  lastSyncAt : Bytes → Option Time
  calls : Nat → Option ArStoreCall
  next : Nat

/-- `NewArStore` on an archive directory holding `files` and a bucket holding `remote`. -/
def ArStoreWorld.init (files : ArPath → Option Bytes) (nextId : Nat)
    (remote : Bytes → Option Bytes) : ArStoreWorld :=
  ⟨ArWorld.init files nextId, remote, fun _ => none, fun _ => none, 0⟩

/-- What happens next. -/
inductive ArStoreLabel
  /-- `SyncFromRemote(keyspace)` is called. -/
  | sync (keyspace : Bytes)
  /-- `IngestNewArchive(keyspace, localFilePath)` is called on a file holding `file`. -/
  | ingest (keyspace file : Bytes)
  /-- `ArLocalStore.LoadLocal`, as `NewArStore` calls it. -/
  | loadLocal (keyspace : Bytes) (statOk openOk : Bool)
  /-- A step of call `t` of the local store. -/
  | runLocal (t : Nat)
  /-- A step of call `i` of `ArStore`. -/
  | run (i : Nat) (ok : Bool) (now : Time) (streamErr : Bool) (io : PutIO)

namespace ArStoreWorld

/-- Call `i` moves to `c`. -/
def setCall (w : ArStoreWorld) (i : Nat) (c : ArStoreCall) : ArStoreWorld :=
  { w with calls := Function.update w.calls i (some c) }

/-- A new call `c`, with id `w.next`. -/
def spawn (w : ArStoreWorld) (c : ArStoreCall) : ArStoreWorld :=
  { w with calls := Function.update w.calls w.next (some c), next := w.next + 1 }

/-- A call makes the call `c` of the local store, with id `w.store.next`. -/
def localCall (w : ArStoreWorld) (c : ArCall) : ArStoreWorld :=
  { w with store := w.store.spawn c }

/-- `lastSyncAt[keyspace] = time.Now()`. -/
def recordSync (w : ArStoreWorld) (keyspace : Bytes) (now : Time) : ArStoreWorld :=
  { w with lastSyncAt := Function.update w.lastSyncAt keyspace (some now) }

end ArStoreWorld

/-- What `local.Put`, call `child` of the local store, has returned, if it has. -/
def ArWorld.putResult (w : ArWorld) (child : Nat) : Option (Except ArPutError Unit) :=
  match w.tasks child with
  | some (.put _ _ _ _ _ (.done r)) => some r
  | _ => none

/-- `SyncFromRemote` was called at `last`, or less than `ArStoreMinSyncInterval` ago. -/
def syncedRecently (last : Option Time) (now : Time) : Bool :=
  match last with
  | some last => decide (now.unixNanos - last.unixNanos < arStoreMinSyncInterval)
  | none => false

/-- One step of call `i`, a `SyncFromRemote(keyspace)` at `pc`. -/
def stepSync (w : ArStoreWorld) (i : Nat) (keyspace : Bytes) (ok : Bool) (now : Time)
    (streamErr : Bool) (io : PutIO) : SyncPc → Option ArStoreWorld
  | .check =>
    if syncedRecently (w.lastSyncAt keyspace) now then some (w.setCall i (.sync keyspace (.done (.ok ()))))
    else some (w.setCall i (.sync keyspace .download))
  | .download =>
    if !ok then some (w.setCall i (.sync keyspace (.done (.error .read))))
    else match w.remote (archiveKey keyspace) with
      | none => some (w.setCall i (.sync keyspace (.done (.ok ()))))
      | some b => some ((w.localCall (.put keyspace b streamErr io)).setCall i
          (.sync keyspace (.put w.store.next)))
  | .put child =>
    (w.store.putResult child).map fun
      | .ok () => w.setCall i (.sync keyspace .record)
      | .error e => w.setCall i (.sync keyspace (.done (.error (.put e))))
  | .record => some ((w.recordSync keyspace now).setCall i (.sync keyspace (.done (.ok ()))))
  | .done _ => none

/-- One step of call `i`, an `IngestNewArchive(keyspace, localFilePath)` of a file holding `file`,
at `pc`. -/
def stepIngest (w : ArStoreWorld) (i : Nat) (keyspace file : Bytes) (ok : Bool) (now : Time)
    (streamErr : Bool) (io : PutIO) : IngestPc → Option ArStoreWorld
  | .openFile =>
    if !ok then some (w.setCall i (.ingest keyspace file (.done (.error .openFile))))
    else some ((w.localCall (.put keyspace file streamErr io)).setCall i
      (.ingest keyspace file (.put w.store.next)))
  | .put child =>
    (w.store.putResult child).map fun
      | .ok () => w.setCall i (.ingest keyspace file .upload)
      | .error e => w.setCall i (.ingest keyspace file (.done (.error (.put e))))
  | .upload =>
    if !ok then some (w.setCall i (.ingest keyspace file (.done (.error .upload))))
    else some ({ w with remote := Function.update w.remote (archiveKey keyspace) (some file) }.setCall
      i (.ingest keyspace file .record))
  | .record => some ((w.recordSync keyspace now).setCall i (.ingest keyspace file (.done (.ok ()))))
  | .done _ => none

/-- One step of the archive store; `none` when it is not possible. -/
def arStoreStep (newArReader : Bytes → Option ArReader) (w : ArStoreWorld) :
    ArStoreLabel → Option ArStoreWorld
  | .sync keyspace => some (w.spawn (.sync keyspace .check))
  | .ingest keyspace file => some (w.spawn (.ingest keyspace file .openFile))
  | .loadLocal keyspace statOk openOk => some (w.localCall (.loadLocal keyspace statOk openOk))
  | .runLocal t => (arStep newArReader w.store (.run t)).map fun store => { w with store }
  | .run i ok now streamErr io =>
    match w.calls i with
    | some (.sync keyspace pc) => stepSync w i keyspace ok now streamErr io pc
    | some (.ingest keyspace file pc) => stepIngest w i keyspace file ok now streamErr io pc
    | none => none

/-- The archive store after a schedule. -/
def arStoreRun (newArReader : Bytes → Option ArReader) (w : ArStoreWorld) :
    List ArStoreLabel → Option ArStoreWorld
  | [] => some w
  | l :: ls => (arStoreStep newArReader w l).bind fun w' => arStoreRun newArReader w' ls

/-! ## Every interleaving -/

/-- An ingest that has uploaded its file: it is about to record the sync, or has returned
success. -/
def IngestPc.Uploaded : IngestPc → Prop
  | .record | .done (.ok ()) => True
  | _ => False

/-- `b` has been the archive object of `keyspace` in the bucket: the object there at the start, or
a file that `NewArReader` accepts and that an ingest of `keyspace` has uploaded. -/
def Published (newArReader : Bytes → Option ArReader) (remote₀ : Bytes → Option Bytes)
    (w : ArStoreWorld) (keyspace b : Bytes) : Prop :=
  remote₀ (archiveKey keyspace) = some b ∨ (∃ r, newArReader b = some r) ∧
    ∃ i pc, w.calls i = some (.ingest keyspace b pc) ∧ pc.Uploaded

/-- Call `t` of the local store is a `Put` of `stream` on `keyspace`. -/
def ArWorld.PutOf (w : ArWorld) (t : Nat) (keyspace stream : Bytes) : Prop :=
  ∃ streamErr io uniqueId pc, w.tasks t = some (.put keyspace stream streamErr io uniqueId pc)

/-- What holds of a call at its program point: a sync waits for a `Put` of an object the bucket
has held, an ingest for a `Put` of its file, and an ingest whose `Put` succeeded has a file that
`NewArReader` accepts. -/
def ArStoreCall.Inv (newArReader : Bytes → Option ArReader) (remote₀ : Bytes → Option Bytes)
    (w : ArStoreWorld) : ArStoreCall → Prop
  | .sync keyspace (.put child) =>
    ∃ b, w.store.PutOf child keyspace b ∧ Published newArReader remote₀ w keyspace b
  | .ingest keyspace file (.put child) => w.store.PutOf child keyspace file
  | .ingest _ file .upload | .ingest _ file .record | .ingest _ file (.done (.ok ())) =>
    ∃ r, newArReader file = some r
  | _ => True

/-- The invariant of the archive store over every interleaving, from an archive directory holding
`files₀` and a bucket holding `remote₀`. -/
structure ArStoreInv (newArReader : Bytes → Option ArReader) (files₀ : ArPath → Option Bytes)
    (remote₀ : Bytes → Option Bytes) (w : ArStoreWorld) : Prop where
  store : ArInv newArReader files₀ w.store
  remote : ∀ keyspace b, w.remote (archiveKey keyspace) = some b →
    Published newArReader remote₀ w keyspace b
  /-- Every `Put` of the local store was made by a sync, of an object the bucket has held, or by
  an ingest, of its file. -/
  puts : ∀ t keyspace stream, w.store.PutOf t keyspace stream →
    Published newArReader remote₀ w keyspace stream ∨
      ∃ i pc, w.calls i = some (.ingest keyspace stream pc)
  calls : ∀ i c, w.calls i = some c → c.Inv newArReader remote₀ w
  fresh : ∀ i, w.next ≤ i → w.calls i = none

/-- The ingests of `w` are in `w'` with their arguments, and those past their upload still are. -/
def IngestsKept (w w' : ArStoreWorld) : Prop :=
  ∀ i keyspace file pc, w.calls i = some (.ingest keyspace file pc) →
    ∃ pc', w'.calls i = some (.ingest keyspace file pc') ∧ (pc.Uploaded → pc'.Uploaded)

section Interleavings

variable {newArReader : Bytes → Option ArReader} {files₀ : ArPath → Option Bytes}
  {remote₀ : Bytes → Option Bytes} {w w' : ArStoreWorld}

theorem Published.keep {keyspace b : Bytes} (published : Published newArReader remote₀ w keyspace b)
    (kept : IngestsKept w w') : Published newArReader remote₀ w' keyspace b := by
  rcases published with initial | ⟨accepted, i, pc, found, uploaded⟩
  · exact .inl initial
  · obtain ⟨pc', found', uploaded'⟩ := kept i _ _ pc found
    exact .inr ⟨accepted, i, pc', found', uploaded' uploaded⟩

/-- The invariant of a call survives a step that keeps the ingests and the local `Put` calls. -/
theorem ArStoreCall.Inv.keep {c : ArStoreCall} (inv : c.Inv newArReader remote₀ w)
    (kept : IngestsKept w w')
    (puts : ∀ t keyspace stream, w.store.PutOf t keyspace stream → w'.store.PutOf t keyspace stream) :
    c.Inv newArReader remote₀ w' := by
  rcases c with ⟨keyspace, _ | _ | child | _ | _⟩ | ⟨keyspace, file, _ | child | _ | _ | r⟩
  case sync.put =>
    obtain ⟨b, put, published⟩ := inv
    exact ⟨b, puts _ _ _ put, published.keep kept⟩
  case ingest.put => exact puts _ _ _ inv
  case ingest.done => rcases r with _ | ⟨⟩ <;> exact inv
  all_goals exact inv

theorem ArStoreInv.init (files₀ : ArPath → Option Bytes) (nextId : Nat)
    (remote₀ : Bytes → Option Bytes) :
    ArStoreInv newArReader files₀ remote₀ (ArStoreWorld.init files₀ nextId remote₀) :=
  ⟨ArInv.init files₀ nextId, fun _ _ stored => .inl stored, fun _ _ _ ⟨_, _, _, _, found⟩ => (nomatch found),
    fun _ _ => nofun, fun _ _ => rfl⟩

/-- A new call of `ArStore` whose invariant holds. -/
theorem ArStoreInv.spawn (inv : ArStoreInv newArReader files₀ remote₀ w) (c : ArStoreCall)
    (mine : c.Inv newArReader remote₀ (w.spawn c)) : ArStoreInv newArReader files₀ remote₀ (w.spawn c) := by
  have other : ∀ i, w.calls i ≠ none → i ≠ w.next := fun i some same => some (same ▸ inv.fresh _ le_rfl)
  have kept : IngestsKept w (w.spawn c) := fun i _ _ pc found =>
    ⟨pc, (Function.update_noteq (other i (by rw [found]; nofun)) _ _).trans found, id⟩
  refine ⟨inv.store, fun keyspace b stored => (inv.remote keyspace b stored).keep kept,
    fun t keyspace stream put => ?_, fun i c' found => ?_, fun i later => ?_⟩
  · rcases inv.puts t keyspace stream put with published | ⟨i, pc, found⟩
    · exact .inl (published.keep kept)
    · obtain ⟨pc', found', -⟩ := kept i _ _ pc found
      exact .inr ⟨i, pc', found'⟩
  · by_cases here : i = w.next
    · subst here
      simp only [ArStoreWorld.spawn, Function.update_same, Option.some.injEq] at found
      exact found ▸ mine
    · exact (inv.calls i c' ((Function.update_noteq here _ _).symm.trans found)).keep kept
        fun _ _ _ put => put
  · have later : w.next + 1 ≤ i := later
    exact (Function.update_noteq (by omega) _ _).trans (inv.fresh i (by omega))

/-- A step of the local store, from a call of it that is not a `Put`, or from a `Put` of an object
the bucket has held or of an ingest's file. -/
theorem ArStoreInv.store_step (inv : ArStoreInv newArReader files₀ remote₀ w) {l : ArLabel}
    {store : ArWorld} (h : arStep newArReader w.store l = some store)
    (made : ∀ keyspace stream streamErr io, l = .call (.put keyspace stream streamErr io) →
      Published newArReader remote₀ w keyspace stream ∨
        ∃ i pc, w.calls i = some (.ingest keyspace stream pc)) :
    ArStoreInv newArReader files₀ remote₀ { w with store } := by
  refine ⟨inv.store.step h, inv.remote, fun t keyspace stream ⟨streamErr, io, uniqueId, pc, found⟩ => ?_,
    fun i c found => (inv.calls i c found).keep (fun _ _ _ pc found => ⟨pc, found, id⟩)
      fun t keyspace stream ⟨streamErr, io, uniqueId, pc, found⟩ => ?_, inv.fresh⟩
  · rcases arStep_put_from h found with ⟨pc₀, before⟩ | made'
    · exact inv.puts t keyspace stream ⟨streamErr, io, uniqueId, pc₀, before⟩
    · exact made _ _ _ _ made'
  · obtain ⟨pc', found', -⟩ := arStep_put_kept (inv.store.fresh _ le_rfl) h found
    exact ⟨streamErr, io, uniqueId, pc', found'⟩

/-- What `local.Put`, call `child`, returned, when it is a `Put` of `stream` on `keyspace`. -/
theorem ArWorld.putResult_put {w : ArWorld} {child : Nat} {keyspace stream : Bytes}
    {r : Except ArPutError Unit} (put : w.PutOf child keyspace stream)
    (result : w.putResult child = some r) :
    ∃ streamErr io uniqueId, w.tasks child = some (.put keyspace stream streamErr io uniqueId (.done r)) := by
  obtain ⟨streamErr, io, uniqueId, pc, found⟩ := put
  simp only [ArWorld.putResult, found] at result
  cases pc <;> simp only [Option.some.injEq, reduceCtorEq] at result
  subst result
  exact ⟨streamErr, io, uniqueId, found⟩

/-- Call `i` moves on, keeping its arguments, and an ingest past its upload stays past it. -/
theorem ArStoreInv.setCall (inv : ArStoreInv newArReader files₀ remote₀ w) {i : Nat}
    {c c' : ArStoreCall} (found : w.calls i = some c)
    (keep : ∀ keyspace file pc, c = .ingest keyspace file pc →
      ∃ pc', c' = .ingest keyspace file pc' ∧ (pc.Uploaded → pc'.Uploaded))
    (mine : c'.Inv newArReader remote₀ (w.setCall i c')) :
    ArStoreInv newArReader files₀ remote₀ (w.setCall i c') := by
  have kept : IngestsKept w (w.setCall i c') := by
    intro j keyspace file pc found'
    by_cases here : j = i
    · subst here
      obtain ⟨pc', rfl, uploaded⟩ := keep keyspace file pc (Option.some.inj (found.symm.trans found'))
      exact ⟨pc', Function.update_same _ _ _, uploaded⟩
    · exact ⟨pc, (Function.update_noteq here _ _).trans found', id⟩
  refine ⟨inv.store, fun keyspace b stored => (inv.remote keyspace b stored).keep kept,
    fun t keyspace stream put => ?_, fun j c'' found' => ?_, fun j later => ?_⟩
  · rcases inv.puts t keyspace stream put with published | ⟨j, pc, found'⟩
    · exact .inl (published.keep kept)
    · obtain ⟨pc', found'', -⟩ := kept j _ _ pc found'
      exact .inr ⟨j, pc', found''⟩
  · by_cases here : j = i
    · subst here
      simp only [ArStoreWorld.setCall, Function.update_same, Option.some.injEq] at found'
      exact found' ▸ mine
    · exact (inv.calls j c'' ((Function.update_noteq here _ _).symm.trans found')).keep kept
        fun _ _ _ put => put
  · have other : j ≠ i := fun same => by rw [← same, inv.fresh j later] at found; cases found
    exact (Function.update_noteq other _ _).trans (inv.fresh j later)

theorem ArStoreInv.recordSync (inv : ArStoreInv newArReader files₀ remote₀ w) (keyspace : Bytes)
    (now : Time) : ArStoreInv newArReader files₀ remote₀ (w.recordSync keyspace now) :=
  ⟨inv.store, inv.remote, inv.puts,
    fun i c found => (inv.calls i c found).keep (fun _ _ _ pc found => ⟨pc, found, id⟩)
      fun _ _ _ put => put, inv.fresh⟩

theorem archiveKey_injective {keyspace keyspace' : Bytes}
    (same : archiveKey keyspace = archiveKey keyspace') : keyspace = keyspace' := by
  simp only [archiveKey, List.append_assoc, List.append_cancel_left_eq,
    List.append_cancel_right_eq] at same
  exact same

/-- `Remote.Upload` of an ingest's file, the ingest already past its upload. -/
theorem ArStoreInv.upload (inv : ArStoreInv newArReader files₀ remote₀ w) {i : Nat}
    {keyspace file : Bytes} (found : w.calls i = some (.ingest keyspace file .record))
    (accepted : ∃ r, newArReader file = some r) :
    ArStoreInv newArReader files₀ remote₀
      { w with remote := Function.update w.remote (archiveKey keyspace) (some file) } := by
  refine ⟨inv.store, fun keyspace' b stored => ?_, inv.puts, inv.calls, inv.fresh⟩
  by_cases same : keyspace' = keyspace
  · subst same
    simp only [Function.update_same, Option.some.injEq] at stored
    subst stored
    exact .inr ⟨accepted, i, .record, found, trivial⟩
  · exact inv.remote keyspace' b ((Function.update_noteq
      (fun key => same (archiveKey_injective key)) _ _).symm.trans stored)

theorem ArStoreInv.syncStep (inv : ArStoreInv newArReader files₀ remote₀ w) {i : Nat}
    {keyspace : Bytes} {ok : Bool} {now : Time} {streamErr : Bool} {io : PutIO} {pc : SyncPc}
    (found : w.calls i = some (.sync keyspace pc))
    (h : stepSync w i keyspace ok now streamErr io pc = some w') :
    ArStoreInv newArReader files₀ remote₀ w' := by
  have sync : ∀ {w₁ : ArStoreWorld} pc', ArStoreInv newArReader files₀ remote₀ w₁ →
      w₁.calls i = some (.sync keyspace pc) →
      (ArStoreCall.sync keyspace pc').Inv newArReader remote₀ (w₁.setCall i (.sync keyspace pc')) →
      ArStoreInv newArReader files₀ remote₀ (w₁.setCall i (.sync keyspace pc')) :=
    fun _ inv₁ found₁ mine => inv₁.setCall found₁ (fun _ _ _ same => by cases same) mine
  cases pc with
  | check =>
    simp only [stepSync] at h
    split at h <;> cases h <;> exact sync _ inv found trivial
  | download =>
    simp only [stepSync] at h
    split at h
    · cases h
      exact sync _ inv found trivial
    · split at h
      · cases h
        exact sync _ inv found trivial
      · rename_i b stored
        cases h
        have published := inv.remote keyspace b stored
        have inv₁ := inv.store_step
          (show arStep newArReader w.store (.call (.put keyspace b streamErr io)) = some _ from rfl)
          fun _ _ _ _ same => by cases same; exact .inl published
        refine sync _ inv₁ found ⟨b, ⟨streamErr, io, _, .create, Function.update_same _ _ _⟩,
          published.keep fun j _ _ pc found' => ⟨pc, (Function.update_noteq ?_ _ _).trans found', id⟩⟩
        rintro rfl
        rw [found] at found'
        cases found'
  | put child =>
    obtain ⟨r, -, rfl⟩ := Option.map_eq_some'.mp h
    rcases r with _ | ⟨⟩ <;> exact sync _ inv found trivial
  | record =>
    cases h
    exact sync _ (inv.recordSync keyspace now) found trivial
  | done r => cases h

theorem ArStoreInv.ingestStep (inv : ArStoreInv newArReader files₀ remote₀ w) {i : Nat}
    {keyspace file : Bytes} {ok : Bool} {now : Time} {streamErr : Bool} {io : PutIO}
    {pc : IngestPc} (found : w.calls i = some (.ingest keyspace file pc))
    (h : stepIngest w i keyspace file ok now streamErr io pc = some w') :
    ArStoreInv newArReader files₀ remote₀ w' := by
  have ingest : ∀ {w₁ : ArStoreWorld} pc', ArStoreInv newArReader files₀ remote₀ w₁ →
      w₁.calls i = some (.ingest keyspace file pc) → (pc.Uploaded → pc'.Uploaded) →
      (ArStoreCall.ingest keyspace file pc').Inv newArReader remote₀
        (w₁.setCall i (.ingest keyspace file pc')) →
      ArStoreInv newArReader files₀ remote₀ (w₁.setCall i (.ingest keyspace file pc')) :=
    fun pc' inv₁ found₁ uploaded mine =>
      inv₁.setCall found₁ (fun _ _ _ same => by cases same; exact ⟨pc', rfl, uploaded⟩) mine
  cases pc with
  | openFile =>
    simp only [stepIngest] at h
    split at h <;> cases h
    · exact ingest _ inv found nofun trivial
    · have inv₁ := inv.store_step
        (show arStep newArReader w.store (.call (.put keyspace file streamErr io)) = some _ from rfl)
        fun _ _ _ _ same => by cases same; exact .inr ⟨i, .openFile, found⟩
      exact ingest _ inv₁ found nofun ⟨streamErr, io, _, .create, Function.update_same _ _ _⟩
  | put child =>
    obtain ⟨r, result, rfl⟩ := Option.map_eq_some'.mp h
    rcases r with _ | ⟨⟩
    · exact ingest _ inv found nofun trivial
    · obtain ⟨streamErr', io', uniqueId, returned⟩ :=
        ArWorld.putResult_put (inv.calls i _ found) result
      exact ingest _ inv found nofun (inv.store.tasks child _ returned).2
  | upload =>
    simp only [stepIngest] at h
    split at h <;> cases h
    · exact ingest _ inv found nofun trivial
    · have accepted : ∃ r, newArReader file = some r := inv.calls i _ found
      exact (ingest .record inv found nofun accepted).upload (Function.update_same _ _ _) accepted
  | record =>
    cases h
    exact ingest _ (inv.recordSync keyspace now) found (fun _ => trivial) (inv.calls i _ found)
  | done r => cases h

theorem ArStoreInv.step (inv : ArStoreInv newArReader files₀ remote₀ w) {l : ArStoreLabel}
    (h : arStoreStep newArReader w l = some w') : ArStoreInv newArReader files₀ remote₀ w' := by
  cases l with
  | sync keyspace =>
    cases h
    exact inv.spawn _ trivial
  | ingest keyspace file =>
    cases h
    exact inv.spawn _ trivial
  | loadLocal keyspace statOk openOk =>
    cases h
    exact inv.store_step
      (show arStep newArReader w.store (.call (.loadLocal keyspace statOk openOk)) = some _ from rfl)
      fun _ _ _ _ same => by cases same
  | runLocal t =>
    obtain ⟨store, stepped, rfl⟩ := Option.map_eq_some'.mp h
    exact inv.store_step stepped fun _ _ _ _ same => by cases same
  | run i ok now streamErr io =>
    simp only [arStoreStep] at h
    split at h
    · exact inv.syncStep ‹_› h
    · exact inv.ingestStep ‹_› h
    · cases h

theorem ArStoreInv.run {ls : List ArStoreLabel} : ∀ {w w' : ArStoreWorld},
    ArStoreInv newArReader files₀ remote₀ w → arStoreRun newArReader w ls = some w' →
    ArStoreInv newArReader files₀ remote₀ w' := by
  induction ls with
  | nil =>
    intro w w' inv h
    cases h
    exact inv
  | cons l ls ih =>
    intro w w' inv h
    obtain ⟨w₁, stepped, rest⟩ := Option.bind_eq_some.mp h
    exact ih (inv.step stepped) rest

end Interleavings

/-- Over every interleaving of syncs, ingests and the calls of the local store, from an archive
directory holding `files₀` and a bucket holding `remote₀`: the archive object of a keyspace in the
bucket is the one there at the start, or a file that `NewArReader` accepts and that an ingest of
that keyspace uploaded after its local `Put` succeeded. -/
theorem arStoreRun_published (newArReader : Bytes → Option ArReader)
    (files₀ : ArPath → Option Bytes) (nextId : Nat) (remote₀ : Bytes → Option Bytes)
    {ls : List ArStoreLabel} {w : ArStoreWorld}
    (ran : arStoreRun newArReader (ArStoreWorld.init files₀ nextId remote₀) ls = some w) :
    ∀ keyspace b, w.remote (archiveKey keyspace) = some b →
      Published newArReader remote₀ w keyspace b :=
  (ArStoreInv.run (ArStoreInv.init files₀ nextId remote₀) ran).remote

/-- Over every interleaving, the local archive file of a keyspace is the one there at the start,
or a file that `NewArReader` accepts and that the bucket has held or an ingest of that keyspace
installed. -/
theorem arStoreRun_installed (newArReader : Bytes → Option ArReader)
    (files₀ : ArPath → Option Bytes) (nextId : Nat) (remote₀ : Bytes → Option Bytes)
    {ls : List ArStoreLabel} {w : ArStoreWorld}
    (ran : arStoreRun newArReader (ArStoreWorld.init files₀ nextId remote₀) ls = some w) :
    ∀ keyspace b, w.store.store.files (.archive keyspace) = some b →
      files₀ (.archive keyspace) = some b ∨ (∃ r, newArReader b = some r) ∧
        (Published newArReader remote₀ w keyspace b ∨
          ∃ i pc, w.calls i = some (.ingest keyspace b pc)) := by
  have inv := ArStoreInv.run (ArStoreInv.init files₀ nextId remote₀) ran
  intro keyspace b file
  rcases inv.store.archive keyspace b file with initial | ⟨accepted, t, streamErr, io, uniqueId, pc, put, -⟩
  · exact .inl initial
  · exact .inr ⟨accepted, inv.puts t keyspace b ⟨streamErr, io, uniqueId, pc, put⟩⟩

/-! ## An ingest overlapping a sync -/

/-- A bucket holding the archive `[1]` of keyspace `a`. -/
def staleRemote (key : Bytes) : Option Bytes := if key = archiveKey [97] then some [1] else none

/-- A sync of `a` (call 0) downloads `[1]`, and its `Put` (call 0 of the local store) opens the
file; an ingest of `[2]` (call 1) then installs it, uploads it and returns; the sync's `Put` renames
`[1]` over it, and the sync returns; a second sync (call 2) follows. -/
def staleRun : List ArStoreLabel :=
  [.sync [97], .run 0 true ⟨0⟩ false putAllOk, .run 0 true ⟨0⟩ false putAllOk] ++
    List.replicate 3 (.runLocal 0) ++ [.ingest [97] [2], .run 1 true ⟨0⟩ false putAllOk] ++
    List.replicate 5 (.runLocal 1) ++ List.replicate 3 (.run 1 true ⟨0⟩ false putAllOk) ++
    List.replicate 2 (.runLocal 0) ++ List.replicate 2 (.run 0 true ⟨0⟩ false putAllOk) ++
    [.sync [97], .run 2 true ⟨0⟩ false putAllOk]

theorem arStoreRun_published_stale :
    ∃ w, arStoreRun wholeFileReader (ArStoreWorld.init (fun _ => none) 0 staleRemote) staleRun =
        some w ∧
      ∀ keyspace b, w.remote (archiveKey keyspace) = some b →
        Published wholeFileReader staleRemote w keyspace b :=
  ⟨_, rfl, @arStoreRun_published wholeFileReader (fun _ => none) 0 staleRemote staleRun _ rfl⟩

theorem arStoreRun_installed_stale :
    ∃ w, arStoreRun wholeFileReader (ArStoreWorld.init (fun _ => none) 0 staleRemote) staleRun =
        some w ∧
      ∀ keyspace b, w.store.store.files (.archive keyspace) = some b →
        (fun _ => none : ArPath → Option Bytes) (.archive keyspace) = some b ∨
          (∃ r, wholeFileReader b = some r) ∧ (Published wholeFileReader staleRemote w keyspace b ∨
            ∃ i pc, w.calls i = some (.ingest keyspace b pc)) :=
  ⟨_, rfl, @arStoreRun_installed wholeFileReader (fun _ => none) 0 staleRemote staleRun _ rfl⟩

/- In `staleRun` every call succeeds; the bucket holds the ingested archive `[2]` while the local
store holds and serves the old `[1]`, and the second sync skips without downloading, since the
keyspace was marked as synced. -/
example :
    ∃ w, arStoreRun wholeFileReader (ArStoreWorld.init (fun _ => none) 0 staleRemote) staleRun =
        some w ∧
      w.calls 0 = some (.sync [97] (.done (.ok ()))) ∧
      w.calls 1 = some (.ingest [97] [2] (.done (.ok ()))) ∧
      w.calls 2 = some (.sync [97] (.done (.ok ()))) ∧ w.store.next = 2 ∧
      w.remote (archiveKey [97]) = some [2] ∧ w.store.store.files (.archive [97]) = some [1] ∧
      w.store.store.get [97] = wholeFileReader [1] :=
  ⟨_, rfl, rfl, rfl, rfl, rfl, rfl, rfl, rfl⟩

end Gscache
