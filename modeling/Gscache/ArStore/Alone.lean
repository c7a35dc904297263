import Gscache.ArStore

/-!
# The archive store's calls, one at a time

`ArStore` models `SyncFromRemote` and `IngestNewArchive` as goroutines that interleave with each
other and with the calls of the local store. Here the same two functions of `ar.go` are written as
sequential code, over the store's state (the local store, the bucket and `lastSyncAt`), and the
concurrent model is shown to refine them: a call made on any world and run alone until it returns
leaves the state the sequential function computes and returns what it returns, with the other calls
untouched. Interleaved calls do not compose this way (the example at the end of `ArStore`).

Results:
1. `arStoreRun_syncAlone`: `SyncFromRemote` run alone is `ArStore.syncFromRemote`.
2. `arStoreRun_ingestAlone`: `IngestNewArchive` run alone is `ArStore.ingestNewArchive`.
-/

namespace Gscache

open ArLocalStore (ArCall)

/-! ## The sequential functions -/

/-- The archive store's state: the local store, the bucket's objects by key, and `lastSyncAt`. -/
structure ArStore where
  store : ArLocalStore
  remote : Bytes → Option Bytes
  lastSyncAt : Bytes → Option Time

namespace ArStore

/-- `SyncFromRemote(keyspace)`; `readOk` is the outcome of `NewReader` other than `NotFound`. -/
def syncFromRemote (newArReader : Bytes → Option ArReader) (s : ArStore) (keyspace : Bytes)
    (readOk : Bool) (now : Time) (streamErr : Bool) (io : PutIO) : ArStore × Except SyncError Unit :=
  if syncedRecently (s.lastSyncAt keyspace) now then (s, .ok ())
  else if !readOk then (s, .error .read)
  else match s.remote (archiveKey keyspace) with
    | none => (s, .ok ())
    | some b =>
      match s.store.put newArReader keyspace b streamErr io with
      | (store, .error e) => ({ s with store }, .error (.put e))
      | (store, .ok ()) =>
        ({ s with
          store
          lastSyncAt := Function.update s.lastSyncAt keyspace (some now) }, .ok ())

/-- `IngestNewArchive(keyspace, localFilePath)` of a file holding `file`; `openOk` and `uploadOk`
are the outcomes of `os.Open` and `Remote.Upload`. -/
def ingestNewArchive (newArReader : Bytes → Option ArReader) (s : ArStore) (keyspace file : Bytes)
    (openOk uploadOk : Bool) (now : Time) (streamErr : Bool) (io : PutIO) :
    ArStore × Except IngestError Unit :=
  if !openOk then (s, .error .openFile)
  else match s.store.put newArReader keyspace file streamErr io with
    | (store, .error e) => ({ s with store }, .error (.put e))
    | (store, .ok ()) =>
      if !uploadOk then ({ s with store }, .error .upload)
      else
        ({ s with
          store
          remote := Function.update s.remote (archiveKey keyspace) (some file)
          lastSyncAt := Function.update s.lastSyncAt keyspace (some now) }, .ok ())

end ArStore

/-! ## What each call does -/

section Calls

variable {newArReader : Bytes → Option ArReader} {s s' : ArStore} {keyspace : Bytes} {now : Time}
  {streamErr : Bool} {io : PutIO}

/-- `SyncFromRemote` leaves the bucket as it was, and leaves the reader of the keyspace as it was
or installs the reader of the bucket's archive object and returns success. -/
theorem ArStore.syncFromRemote_installs {readOk : Bool} {r : Except SyncError Unit}
    (h : s.syncFromRemote newArReader keyspace readOk now streamErr io = (s', r)) :
    s'.remote = s.remote ∧ (s'.store.get keyspace = s.store.get keyspace ∨
      r = .ok () ∧ ∃ reader, (s.remote (archiveKey keyspace)).bind newArReader = some reader ∧
        s'.store.get keyspace = some reader) := by
  unfold ArStore.syncFromRemote at h
  split at h
  · cases h; exact ⟨rfl, .inl rfl⟩
  split at h
  · cases h; exact ⟨rfl, .inl rfl⟩
  split at h
  · cases h; exact ⟨rfl, .inl rfl⟩
  · rename_i b found
    rcases ArLocalStore.put_cases newArReader s.store keyspace b streamErr io with
      ⟨reader, accepted, put⟩ | ⟨e, files, put, -⟩ <;> rw [put] at h <;> cases h
    · exact ⟨rfl, .inr ⟨rfl, reader, by rw [found, Option.some_bind, accepted],
        Function.update_same _ _ _⟩⟩
    · exact ⟨rfl, .inl rfl⟩

/-- `IngestNewArchive` installs the reader of its file when `os.Open` and the `Put` succeed,
uploads the file when the upload succeeds too, and returns success exactly then; otherwise it
leaves the reader of the keyspace and the bucket as they were. -/
theorem ArStore.ingestNewArchive_installs {file : Bytes} {openOk uploadOk : Bool}
    {r : Except IngestError Unit}
    (h : s.ingestNewArchive newArReader keyspace file openOk uploadOk now streamErr io = (s', r)) :
    ∃ ok, s'.store.get keyspace = (if ok then newArReader file else s.store.get keyspace) ∧
      s'.remote = (if ok && uploadOk then Function.update s.remote (archiveKey keyspace) (some file)
        else s.remote) ∧
      (r = .ok () ↔ (ok && uploadOk) = true) := by
  unfold ArStore.ingestNewArchive at h
  split at h
  · cases h; exact ⟨false, rfl, rfl, by simp⟩
  rcases ArLocalStore.put_cases newArReader s.store keyspace file streamErr io with
    ⟨reader, accepted, put⟩ | ⟨e, files, put, -⟩ <;> rw [put] at h
  · have installed : (Function.update s.store.readers keyspace (some reader)) keyspace =
        newArReader file := by rw [Function.update_same, accepted]
    cases uploadOk <;> cases h <;> exact ⟨true, installed, rfl, by simp⟩
  · cases h; exact ⟨false, rfl, rfl, by simp⟩

end Calls

/-- The state of the archive store in a world. -/
def ArStoreWorld.state (w : ArStoreWorld) : ArStore := ⟨w.store.store, w.remote, w.lastSyncAt⟩

/-! ## Schedules that run one call alone -/

/-- The schedule that makes `SyncFromRemote(keyspace)` on `w`, as call `w.next`, and runs it alone
until it returns; the `Put` it makes, if it does, is call `w.store.next` of the local store and
returns after five steps. -/
def syncAlone (newArReader : Bytes → Option ArReader) (w : ArStoreWorld) (keyspace : Bytes)
    (readOk : Bool) (now : Time) (streamErr : Bool) (io : PutIO) : List ArStoreLabel :=
  .sync keyspace :: .run w.next true now streamErr io ::
    if syncedRecently (w.lastSyncAt keyspace) now then []
    else .run w.next readOk now streamErr io ::
      match readOk, w.remote (archiveKey keyspace) with
      | true, some b =>
        List.replicate 5 (.runLocal w.store.next) ++ .run w.next true now streamErr io ::
          if (w.store.store.put newArReader keyspace b streamErr io).2.isOk then
            [.run w.next true now streamErr io]
          else []
      | _, _ => []

/-- The schedule that makes `IngestNewArchive(keyspace, localFilePath)` on `w`, as call `w.next`,
of a file holding `file`, and runs it alone until it returns. -/
def ingestAlone (newArReader : Bytes → Option ArReader) (w : ArStoreWorld) (keyspace file : Bytes)
    (openOk uploadOk : Bool) (now : Time) (streamErr : Bool) (io : PutIO) : List ArStoreLabel :=
  .ingest keyspace file :: .run w.next openOk now streamErr io ::
    if openOk then
      List.replicate 5 (.runLocal w.store.next) ++ .run w.next true now streamErr io ::
        if (w.store.store.put newArReader keyspace file streamErr io).2.isOk then
          .run w.next uploadOk now streamErr io ::
            if uploadOk then [.run w.next true now streamErr io] else []
        else []
    else []

/-! ## A call run alone -/

section Alone

variable {newArReader : Bytes → Option ArReader}

theorem arStoreRun_append (w : ArStoreWorld) (ls ls' : List ArStoreLabel) :
    arStoreRun newArReader w (ls ++ ls') =
      (arStoreRun newArReader w ls).bind (arStoreRun newArReader · ls') := by
  induction ls generalizing w with
  | nil => rfl
  | cons l ls ih =>
    simp only [List.cons_append, arStoreRun]
    cases arStoreStep newArReader w l with
    | none => rfl
    | some w' => exact ih w'

/-- Steps of the local store's calls, as the archive store schedules them. -/
theorem arStoreRun_runLocal : ∀ {ts : List Nat} {w : ArStoreWorld} {store : ArWorld},
    arRun newArReader w.store (ts.map .run) = some store →
    arStoreRun newArReader w (ts.map .runLocal) = some { w with store }
  | [], _, _, ran => by cases ran; rfl
  | _ :: _, _, _, ran => by
    obtain ⟨_, stepped, rest⟩ := Option.bind_eq_some.mp ran
    simp only [List.map_cons, arStoreRun, arStoreStep, stepped, Option.map_some', Option.some_bind]
    exact arStoreRun_runLocal rest

/-- The `Put` a call has made, call `store.next` of the local store, run to its return. -/
theorem arStoreRun_put {w : ArStoreWorld} {store : ArWorld} {keyspace stream : Bytes}
    {streamErr : Bool} {io : PutIO}
    (spawned : w.store = store.spawn (.put keyspace stream streamErr io)) :
    arStoreRun newArReader w (List.replicate 5 (.runLocal store.next)) =
      some { w with store := ⟨(store.store.put newArReader keyspace stream streamErr io).1,
        Function.update store.tasks store.next (some (.put keyspace stream streamErr io
          store.store.nextId (.done (store.store.put newArReader keyspace stream streamErr io).2))),
        store.next + 1⟩ } := by
  rw [← List.map_replicate]
  apply arStoreRun_runLocal
  rw [List.map_replicate, spawned]
  exact arRun_call_alone store (.put keyspace stream streamErr io)

theorem arStoreRun_cons (w : ArStoreWorld) (l : ArStoreLabel) (ls : List ArStoreLabel) :
    arStoreRun newArReader w (l :: ls) = (arStoreStep newArReader w l).bind (arStoreRun newArReader · ls) :=
  rfl

/-- The `Put` a call has just made, run to its return, then the steps `rest`. -/
theorem arStoreRun_localPut (store : ArWorld) (remote : Bytes → Option Bytes)
    (lastSyncAt : Bytes → Option Time) (calls : Nat → Option ArStoreCall) (next : Nat)
    (keyspace stream : Bytes) (streamErr : Bool) (io : PutIO) (rest : List ArStoreLabel) :
    arStoreRun newArReader ⟨store.spawn (.put keyspace stream streamErr io), remote, lastSyncAt, calls, next⟩
        (List.replicate 5 (.runLocal store.next) ++ rest) =
      arStoreRun newArReader ⟨⟨(store.store.put newArReader keyspace stream streamErr io).1,
        Function.update store.tasks store.next (some (.put keyspace stream streamErr io
          store.store.nextId (.done (store.store.put newArReader keyspace stream streamErr io).2))),
        store.next + 1⟩, remote, lastSyncAt, calls, next⟩ rest := by
  rw [arStoreRun_append, arStoreRun_put rfl, Option.some_bind]

theorem ArWorld.putResult_update (s : ArLocalStore) (tasks : Nat → Option ArTask) (t n : Nat)
    (keyspace stream : Bytes) (streamErr : Bool) (io : PutIO) (uniqueId : Nat)
    (r : Except ArPutError Unit) :
    ArWorld.putResult ⟨s, Function.update tasks t
      (some (.put keyspace stream streamErr io uniqueId (.done r))), n⟩ t = some r := by
  simp [ArWorld.putResult]

/-- `SyncFromRemote` made on any world and run alone returns, leaving the state that
`ArStore.syncFromRemote` computes and returning what it returns; no other call moves. -/
theorem arStoreRun_syncAlone (w : ArStoreWorld) (keyspace : Bytes) (readOk : Bool) (now : Time)
    (streamErr : Bool) (io : PutIO) :
    ∃ w', arStoreRun newArReader w (syncAlone newArReader w keyspace readOk now streamErr io) =
        some w' ∧
      w'.state = (w.state.syncFromRemote newArReader keyspace readOk now streamErr io).1 ∧
      w'.calls = Function.update w.calls w.next
        (some (.sync keyspace (.done (w.state.syncFromRemote newArReader keyspace readOk now streamErr io).2))) := by
  unfold syncAlone ArStore.syncFromRemote
  by_cases recent : syncedRecently (w.lastSyncAt keyspace) now
  · simp [arStoreRun, arStoreStep, stepSync, recent, ArStoreWorld.state, ArStoreWorld.setCall,
      ArStoreWorld.spawn, Function.update_idem]
  cases readOk
  · simp [arStoreRun, arStoreStep, stepSync, recent, ArStoreWorld.state, ArStoreWorld.setCall,
      ArStoreWorld.spawn, Function.update_idem]
  cases found : w.remote (archiveKey keyspace) with
  | none => simp [arStoreRun, arStoreStep, stepSync, recent, found, ArStoreWorld.state,
      ArStoreWorld.setCall, ArStoreWorld.spawn, Function.update_idem]
  | some b =>
    cases put : w.store.store.put newArReader keyspace b streamErr io with
    | mk S r =>
      cases r <;>
      simp only [arStoreRun_cons, arStoreRun_localPut, arStoreStep, stepSync, recent, found, put,
        ArStoreWorld.setCall, ArStoreWorld.spawn, ArStoreWorld.localCall, Function.update_same,
        ArWorld.putResult_update, Option.some_bind, Option.map_some', Bool.not_true,
        Bool.false_eq_true, if_false] <;>
      simp [arStoreRun, arStoreStep, stepSync, recent, found, put, ArStoreWorld.state,
        ArStoreWorld.setCall, ArStoreWorld.recordSync, Function.update_idem, Except.isOk,
        Except.toBool]

/-- `IngestNewArchive` made on any world and run alone returns, leaving the state that
`ArStore.ingestNewArchive` computes and returning what it returns; no other call moves. -/
theorem arStoreRun_ingestAlone (w : ArStoreWorld) (keyspace file : Bytes) (openOk uploadOk : Bool)
    (now : Time) (streamErr : Bool) (io : PutIO) :
    ∃ w', arStoreRun newArReader w
          (ingestAlone newArReader w keyspace file openOk uploadOk now streamErr io) = some w' ∧
      w'.state =
        (w.state.ingestNewArchive newArReader keyspace file openOk uploadOk now streamErr io).1 ∧
      w'.calls = Function.update w.calls w.next (some (.ingest keyspace file
        (.done (w.state.ingestNewArchive newArReader keyspace file openOk uploadOk now streamErr io).2))) := by
  unfold ingestAlone ArStore.ingestNewArchive
  cases openOk
  · simp [arStoreRun, arStoreStep, stepIngest, ArStoreWorld.state, ArStoreWorld.setCall,
      ArStoreWorld.spawn, Function.update_idem]
  cases put : w.store.store.put newArReader keyspace file streamErr io with
  | mk S r =>
    cases r <;> cases uploadOk <;>
    simp only [arStoreRun_cons, arStoreRun_localPut, arStoreStep, stepIngest, put,
      ArStoreWorld.setCall, ArStoreWorld.spawn, ArStoreWorld.localCall, Function.update_same,
      ArWorld.putResult_update, Option.some_bind, Option.map_some', Bool.not_true,
      Bool.false_eq_true, if_false, if_true] <;>
    simp [arStoreRun, arStoreStep, stepIngest, put, ArStoreWorld.state, ArStoreWorld.setCall,
      ArStoreWorld.recordSync, Function.update_idem, Except.isOk, Except.toBool]

end Alone

end Gscache
