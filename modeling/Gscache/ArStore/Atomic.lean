import Gscache.ArStore.Alone
import Gscache.ArStore.Footprint

/-!
# Calls on one keyspace are atomic

`BlobBackend.Compact` runs the compaction jobs of all keyspaces at once, so the archive store's
calls on different keyspaces interleave, down to the steps of their `Put`s. Each call is still
atomic: a `SyncFromRemote` or an `IngestNewArchive` on `k`, made when every earlier call on `k`
has returned (as the initial sync of `NewArStore` has before a compaction job starts, and a job's
sync before its ingest), returns what the sequential call (`ArStore.syncFromRemote`,
`ArStore.ingestNewArchive`) returns on the state it was made on, for some outcome of its
operations, and leaves the reader and the bucket object of `k` as that sequential call leaves
them, whatever the calls on other keyspaces do meanwhile.

The call is followed through its program points, with one invariant per point (`SyncPc.Atomic`,
`IngestPc.Atomic`): before its `Put` the slice of `k` is as it was; while the `Put` runs it is the
only call of the local store on `k` that has not returned, and its progress (`ArPutPc.Progress`)
fixes its outcome, which does not depend on the store (`putOutcome`); once it has returned, the
reader it leaves is the sequential one. `OnlyCallOn.run` carries the invariant over the run.

Without the premise that the earlier calls on `k` have returned, this fails: in the example at the
end of `ArStore`, an ingest overlapping a sync of the same keyspace returns success, and the sync
then installs the old archive over it.

Results:
1. `syncFromRemote_atomic`: a `SyncFromRemote`, interleaved with calls on other keyspaces.
2. `ingestNewArchive_atomic`: an `IngestNewArchive`, interleaved with calls on other keyspaces.
-/

namespace Gscache

/-- What `Put` of `stream` returns: it depends on the outcomes of its file operations and on
whether `NewArReader` accepts the stream, not on the store. -/
def putOutcome (newArReader : Bytes → Option ArReader) (stream : Bytes) (streamErr : Bool)
    (io : PutIO) : Except ArPutError Unit :=
  if !io.createOk then .error .create
  else if streamErr || !io.copyOk then .error .write
  else if !io.openOk || (newArReader stream).isNone then .error .invalid
  else if !io.renameOk then .error .rename
  else .ok ()

section Put

variable {newArReader : Bytes → Option ArReader} {s s' : ArLocalStore} {keyspace stream : Bytes}
  {streamErr : Bool} {io : PutIO}

theorem ArLocalStore.put_outcome :
    (s.put newArReader keyspace stream streamErr io).2 = putOutcome newArReader stream streamErr io := by
  unfold ArLocalStore.put putOutcome
  simp only [ArLocalStore.openReader, Function.update_same, Option.some_bind]
  repeat' split
  all_goals simp_all

/-- `Put` installs the reader of its stream exactly when it succeeds. -/
theorem ArLocalStore.put_readers :
    (s.put newArReader keyspace stream streamErr io).1.readers keyspace =
      if (putOutcome newArReader stream streamErr io).isOk then newArReader stream
      else s.readers keyspace := by
  rw [← @ArLocalStore.put_outcome newArReader s keyspace]
  rcases ArLocalStore.put_cases newArReader s keyspace stream streamErr io with
    ⟨reader, accepted, put⟩ | ⟨e, files, put, -⟩ <;> rw [put]
  · simp [accepted, Except.isOk, Except.toBool]
  · rfl

/-- The sequential `Put` with the outcome `r`. -/
theorem ArLocalStore.put_of_outcome (s : ArLocalStore) (keyspace : Bytes) {stream : Bytes}
    {streamErr : Bool} {io : PutIO} {r : Except ArPutError Unit}
    (outcome : putOutcome newArReader stream streamErr io = r) :
    ∃ S, s.put newArReader keyspace stream streamErr io = (S, r) ∧
      S.readers keyspace = if r.isOk then newArReader stream else s.readers keyspace := by
  refine ⟨_, Prod.ext rfl ((@ArLocalStore.put_outcome newArReader s keyspace stream streamErr io).trans
    outcome), ?_⟩
  rw [ArLocalStore.put_readers, outcome]

/-- How far a `Put` of `stream` on `keyspace`, with temporary file `uniqueId`, has come in store
`s`, where the keyspace's reader was `reader₀` when it started: the outcomes of the operations it
has passed, what its temporary file holds where it reads it back, and the reader of the keyspace,
which changes only when it installs its own. -/
def ArPutPc.Progress (newArReader : Bytes → Option ArReader) (s : ArLocalStore)
    (keyspace stream : Bytes) (streamErr : Bool) (io : PutIO) (uniqueId : Nat)
    (reader₀ : Option ArReader) : ArPutPc → Prop
  | .create => s.readers keyspace = reader₀
  | .copy => io.createOk = true ∧ s.readers keyspace = reader₀
  | .openTmp => io.createOk = true ∧ (streamErr || !io.copyOk) = false ∧
      s.files (.tmp keyspace uniqueId) = some stream ∧ s.readers keyspace = reader₀
  | .rename reader => io.createOk = true ∧ (streamErr || !io.copyOk) = false ∧ io.openOk = true ∧
      newArReader stream = some reader ∧ s.files (.tmp keyspace uniqueId) = some stream ∧
      s.readers keyspace = reader₀
  | .set reader => putOutcome newArReader stream streamErr io = .ok () ∧
      newArReader stream = some reader ∧ s.readers keyspace = reader₀
  | .cleanup e => putOutcome newArReader stream streamErr io = .error e ∧
      s.readers keyspace = reader₀
  | .done r => putOutcome newArReader stream streamErr io = r ∧
      s.readers keyspace = if r.isOk then newArReader stream else reader₀

variable {uniqueId : Nat} {reader₀ : Option ArReader} {pc pc' : ArPutPc}

theorem ArPutPc.Progress.step
    (progress : pc.Progress newArReader s keyspace stream streamErr io uniqueId reader₀)
    (h : s.putStep newArReader keyspace stream streamErr io uniqueId pc = some (s', pc')) :
    pc'.Progress newArReader s' keyspace stream streamErr io uniqueId reader₀ := by
  cases pc with
  | create =>
    cases created : io.createOk <;> simp only [ArLocalStore.putStep, created, Bool.not_false,
      Bool.not_true, if_true, if_false, Bool.false_eq_true, Option.some.injEq, Prod.mk.injEq] at h <;>
      obtain ⟨rfl, rfl⟩ := h
    · exact ⟨by simp [putOutcome, created], by simpa [Except.isOk, Except.toBool] using progress⟩
    · exact ⟨created, progress⟩
  | copy =>
    obtain ⟨created, readers⟩ := progress
    cases copied : (streamErr || !io.copyOk) <;> simp only [ArLocalStore.putStep, copied, if_true,
      if_false, Bool.false_eq_true, Option.some.injEq, Prod.mk.injEq] at h <;> obtain ⟨rfl, rfl⟩ := h
    · exact ⟨created, copied, Function.update_same _ _ _, readers⟩
    · exact ⟨by simp [putOutcome, created, copied], readers⟩
  | openTmp =>
    obtain ⟨created, copied, file, readers⟩ := progress
    simp only [ArLocalStore.putStep, ArLocalStore.openReader, file, Option.some_bind] at h
    split at h <;> cases h
    · refine ⟨?_, readers⟩
      split at ‹_› <;> simp_all [putOutcome]
    · split at ‹_›
      · exact ⟨created, copied, ‹_›, ‹_›, file, readers⟩
      · cases ‹none = _›
  | rename reader =>
    obtain ⟨created, copied, opened, accepted, file, readers⟩ := progress
    simp only [ArLocalStore.putStep, ArLocalStore.rename, file, Option.map_some'] at h
    split at h <;> cases h
    · split at ‹_›
      · cases ‹some _ = none›
      · exact ⟨by simp_all [putOutcome], readers⟩
    · split at ‹_›
      · cases ‹some _ = some _›
        exact ⟨by simp_all [putOutcome], accepted, readers⟩
      · cases ‹none = some _›
  | set reader =>
    obtain ⟨outcome, accepted, -⟩ := progress
    cases h
    exact ⟨outcome, by simp [ArLocalStore.set, outcome, accepted, Except.isOk, Except.toBool]⟩
  | cleanup e =>
    obtain ⟨outcome, readers⟩ := progress
    cases h
    refine ⟨outcome, ?_⟩
    rw [(@ArLocalStore.cleanup_store s _ io.removeOk).2.1]
    simpa [Except.isOk, Except.toBool] using readers
  | done r => cases h

theorem ArPutPc.Progress.of_slice
    (progress : pc.Progress newArReader s keyspace stream streamErr io uniqueId reader₀)
    (same : s'.slice keyspace = s.slice keyspace) :
    pc.Progress newArReader s' keyspace stream streamErr io uniqueId reader₀ := by
  have files : s'.files (.tmp keyspace uniqueId) = s.files (.tmp keyspace uniqueId) :=
    congrFun (congrArg (fun slice => slice.2.1) same) uniqueId
  have readers : s'.readers keyspace = s.readers keyspace := congrArg (fun slice => slice.2.2) same
  cases pc <;> simpa only [ArPutPc.Progress, files, readers] using progress

/-- A step of a `Put` keeps its progress, and changes no other call of the local store. -/
theorem ArPutPc.Progress.taskStep {w store : ArWorld} {child : Nat}
    (task : w.tasks child = some (.put keyspace stream streamErr io uniqueId pc))
    (progress : pc.Progress newArReader w.store keyspace stream streamErr io uniqueId reader₀)
    (h : arStep newArReader w (.run child) = some store) :
    ∃ q, store.tasks child = some (.put keyspace stream streamErr io uniqueId q) ∧
      q.Progress newArReader store.store keyspace stream streamErr io uniqueId reader₀ ∧
      (∀ t, t ≠ child → store.tasks t = w.tasks t) ∧ store.next = w.next := by
  simp only [arStep, task, Option.map_some', Option.some.injEq] at h
  subst h
  split
  · exact ⟨pc, task, progress, fun _ _ => rfl, rfl⟩
  · rename_i s' task' moved
    obtain ⟨⟨s'', q⟩, stepped, moved'⟩ := Option.map_eq_some'.mp moved
    cases moved'
    exact ⟨q, Function.update_same _ _ _, progress.step stepped,
      fun t here => Function.update_noteq here _ _, rfl⟩

end Put

/-- What holds of a `SyncFromRemote` of `k` at each program point, in world `u`, when it was made on
`w₀` and it has been the only call on `k` since: the slice of `k` is as in `w₀` until its `Put`
runs; the `Put` is the only call of the local store on `k` that has not returned, and makes
progress; and once it has
returned, its result and the reader and bucket object of `k` are those of the sequential
`SyncFromRemote` on the state of `w₀`, for some outcome of its operations. -/
def SyncPc.Atomic (newArReader : Bytes → Option ArReader) (w₀ : ArStoreWorld) (k : Bytes)
    (u : ArStoreWorld) : SyncPc → Prop
  | .check => u.slice k = w₀.slice k ∧ ReturnedOn k u
  | .download => u.slice k = w₀.slice k ∧ ReturnedOn k u ∧
      ∃ now, syncedRecently (w₀.lastSyncAt k) now = false
  | .put child => u.remote (archiveKey k) = w₀.remote (archiveKey k) ∧ OnlyTaskOn k child u ∧
      ∃ now b streamErr io uniqueId pc, syncedRecently (w₀.lastSyncAt k) now = false ∧
        w₀.remote (archiveKey k) = some b ∧
        u.store.tasks child = some (.put k b streamErr io uniqueId pc) ∧
        pc.Progress newArReader u.store.store k b streamErr io uniqueId (w₀.store.store.readers k)
  | .record => u.remote (archiveKey k) = w₀.remote (archiveKey k) ∧ ReturnedOn k u ∧
      ∃ now b streamErr io, syncedRecently (w₀.lastSyncAt k) now = false ∧
        w₀.remote (archiveKey k) = some b ∧ putOutcome newArReader b streamErr io = .ok () ∧
        u.store.store.readers k = newArReader b
  | .done r => ReturnedOn k u ∧ ∃ readOk now streamErr io,
      (w₀.state.syncFromRemote newArReader k readOk now streamErr io).2 = r ∧
      u.store.store.readers k =
        (w₀.state.syncFromRemote newArReader k readOk now streamErr io).1.store.readers k ∧
      u.remote (archiveKey k) =
        (w₀.state.syncFromRemote newArReader k readOk now streamErr io).1.remote (archiveKey k)

section Sync

variable {newArReader : Bytes → Option ArReader} {w₀ u u' : ArStoreWorld} {k : Bytes}

/-- Steps on other keyspaces keep `SyncPc.Atomic`. -/
theorem SyncPc.Atomic.keep {pc : SyncPc} (inv : pc.Atomic newArReader w₀ k u)
    (keeps : KeepsKeyspace k u u') : pc.Atomic newArReader w₀ k u' := by
  cases pc with
  | check => exact ⟨keeps.slice.trans inv.1, inv.2.keep keeps⟩
  | download => exact ⟨keeps.slice.trans inv.1, inv.2.1.keep keeps, inv.2.2⟩
  | put child =>
    obtain ⟨remote, only, now, b, streamErr, io, uniqueId, pc, recent, found, task, progress⟩ := inv
    exact ⟨keeps.remote.trans remote, only.keep keeps, now, b, streamErr, io, uniqueId, pc, recent,
      found, keeps.taskKept _ _ only.1 task rfl, progress.of_slice keeps.storeSlice⟩
  | record =>
    obtain ⟨remote, returned, now, b, streamErr, io, recent, found, outcome, readers⟩ := inv
    exact ⟨keeps.remote.trans remote, returned.keep keeps, now, b, streamErr, io, recent, found,
      outcome, keeps.readers.trans readers⟩
  | done r =>
    obtain ⟨returned, readOk, now, streamErr, io, result, readers, remote⟩ := inv
    exact ⟨returned.keep keeps, readOk, now, streamErr, io, result, keeps.readers.trans readers,
      keeps.remote.trans remote⟩

/-- A step of the `SyncFromRemote` itself keeps `SyncPc.Atomic`, and changes no other call. -/
theorem SyncPc.Atomic.step {i : Nat} {ok : Bool} {now : Time} {streamErr : Bool} {io : PutIO}
    {pc : SyncPc} (inv : pc.Atomic newArReader w₀ k u)
    (h : stepSync u i k ok now streamErr io pc = some u') :
    ∃ pc', u'.calls = Function.update u.calls i (some (.sync k pc')) ∧ u'.next = u.next ∧
      pc'.Atomic newArReader w₀ k u' := by
  cases pc with
  | check =>
    obtain ⟨slice, returned⟩ := inv
    simp only [stepSync, ArStoreWorld.lastSyncAt_of_slice slice] at h
    split at h <;> cases h
    · refine ⟨_, rfl, rfl, returned, ok, now, streamErr, io, ?_⟩
      simp [ArStore.syncFromRemote, ArStoreWorld.state, ArStoreWorld.setCall, *,
        ArStoreWorld.readers_of_slice slice, ArStoreWorld.remote_of_slice slice]
    · exact ⟨_, rfl, rfl, slice, returned, now, Bool.eq_false_iff.mpr ‹_›⟩
  | download =>
    obtain ⟨slice, returned, now₀, recent⟩ := inv
    simp only [stepSync, ArStoreWorld.remote_of_slice slice] at h
    cases ok
    · cases h
      refine ⟨_, rfl, rfl, returned, false, now₀, streamErr, io, ?_⟩
      simp [ArStore.syncFromRemote, ArStoreWorld.state, ArStoreWorld.setCall, recent,
        ArStoreWorld.readers_of_slice slice, ArStoreWorld.remote_of_slice slice]
    cases found : w₀.remote (archiveKey k) with
    | none =>
      simp only [found, Bool.not_true, Bool.false_eq_true, if_false, Option.some.injEq] at h
      subst h
      refine ⟨_, rfl, rfl, returned, true, now₀, streamErr, io, ?_⟩
      simp [ArStore.syncFromRemote, ArStoreWorld.state, ArStoreWorld.setCall, recent, found,
        ArStoreWorld.readers_of_slice slice, ArStoreWorld.remote_of_slice slice]
    | some b =>
      simp only [found, Bool.not_true, Bool.false_eq_true, if_false, Option.some.injEq] at h
      subst h
      exact ⟨_, rfl, rfl, ArStoreWorld.remote_of_slice slice, returned.localPut b streamErr io, now₀, b,
        streamErr, io, _, .create, recent, found, Function.update_same _ _ _,
        ArStoreWorld.readers_of_slice slice⟩
  | put child =>
    obtain ⟨remote, only, now₀, b, streamErr₀, io₀, uniqueId, q, recent, found, task, progress⟩ :=
      inv
    obtain ⟨r, result, rfl⟩ := Option.map_eq_some'.mp h
    simp only [ArWorld.putResult, task] at result
    cases q with
    | done r' =>
      cases result
      obtain ⟨outcome, readers⟩ := progress
      have returned := only.returned task trivial
      cases r with
      | ok =>
        exact ⟨_, rfl, rfl, remote, returned, now₀, b, streamErr₀, io₀, recent, found, outcome,
          by simpa [Except.isOk, Except.toBool] using readers⟩
      | error e =>
        obtain ⟨S, put, readers₀⟩ := w₀.store.store.put_of_outcome k outcome
        simp only [Except.isOk, Except.toBool] at readers readers₀
        refine ⟨_, rfl, rfl, returned, true, now₀, streamErr₀, io₀, ?_⟩
        simp [ArStore.syncFromRemote, ArStoreWorld.state, ArStoreWorld.setCall, recent, found,
          put, readers, readers₀, remote]
    | _ => cases result
  | record =>
    obtain ⟨remote, returned, now₀, b, streamErr₀, io₀, recent, found, outcome, readers⟩ := inv
    obtain ⟨S, put, readers₀⟩ := w₀.store.store.put_of_outcome k outcome
    simp only [Except.isOk, Except.toBool, if_true] at readers₀
    cases h
    refine ⟨_, rfl, rfl, returned, true, now₀, streamErr₀, io₀, ?_⟩
    simp [ArStore.syncFromRemote, ArStoreWorld.state, ArStoreWorld.setCall,
      ArStoreWorld.recordSync, recent, found, put, readers, readers₀, remote]
  | done => cases h

/-- A step of the `Put` the `SyncFromRemote` waits for keeps `SyncPc.Atomic`. -/
theorem SyncPc.Atomic.taskStep {child : Nat} {store : ArWorld}
    (inv : (SyncPc.put child).Atomic newArReader w₀ k u)
    (h : arStep newArReader u.store (.run child) = some store) :
    (SyncPc.put child).Atomic newArReader w₀ k { u with store } :=
  let ⟨remote, only, now, b, streamErr, io, uniqueId, _, recent, found, task, progress⟩ := inv
  let ⟨q, task', progress', others, next⟩ := progress.taskStep task h
  ⟨remote, only.frame others next, now, b, streamErr, io, uniqueId, q, recent, found, task',
    progress'⟩

/-- What holds of call `c` when it is a `SyncFromRemote` of `k` made on `w₀`. -/
def SyncAtomic (newArReader : Bytes → Option ArReader) (w₀ : ArStoreWorld) (k : Bytes)
    (c : ArStoreCall) (u : ArStoreWorld) : Prop :=
  ∃ pc, c = .sync k pc ∧ pc.Atomic newArReader w₀ k u

theorem SyncAtomic.keep {c : ArStoreCall} (inv : SyncAtomic newArReader w₀ k c u)
    (keeps : KeepsKeyspace k u u') : SyncAtomic newArReader w₀ k c u' :=
  let ⟨pc, call, atomic⟩ := inv
  ⟨pc, call, atomic.keep keeps⟩

theorem SyncAtomic.own {i : Nat} {c : ArStoreCall} {ok : Bool} {now : Time} {streamErr : Bool}
    {io : PutIO} (inv : SyncAtomic newArReader w₀ k c u) (found : u.calls i = some c)
    (h : arStoreStep newArReader u (.run i ok now streamErr io) = some u') :
    ∃ c', u'.calls = Function.update u.calls i (some c') ∧ c'.keyspace = k ∧ u'.next = u.next ∧
      SyncAtomic newArReader w₀ k c' u' := by
  obtain ⟨pc, rfl, atomic⟩ := inv
  simp only [arStoreStep, found] at h
  obtain ⟨pc', calls, next, atomic'⟩ := atomic.step h
  exact ⟨_, calls, rfl, next, pc', rfl, atomic'⟩

theorem SyncAtomic.taskStep {i t : Nat} {c : ArStoreCall} {store : ArWorld}
    (inv : SyncAtomic newArReader w₀ k c u) (found : u.calls i = some c)
    (onK : (u.store.tasks t).map ArTask.keyspace = some k)
    (h : arStep newArReader u.store (.run t) = some store) :
    SyncAtomic newArReader w₀ k c { u with store } := by
  obtain ⟨pc, rfl, atomic⟩ := inv
  obtain ⟨task, present, keyspace⟩ := Option.map_eq_some'.mp onK
  have unchanged : task.Returned → SyncAtomic newArReader w₀ k (.sync k pc) { u with store } :=
    fun returned => by
      cases (arStep_returned present returned).symm.trans h
      exact ⟨pc, rfl, atomic⟩
  cases pc with
  | check => exact unchanged (atomic.2 t task present keyspace)
  | download => exact unchanged (atomic.2.1 t task present keyspace)
  | put child =>
    rcases atomic.2.1.2 t task present keyspace with rfl | returned
    · exact ⟨_, rfl, atomic.taskStep h⟩
    · exact unchanged returned
  | record => exact unchanged (atomic.2.1 t task present keyspace)
  | done r => exact unchanged (atomic.1 t task present keyspace)

end Sync

/-- A `SyncFromRemote(k)` made when every call on `k` has returned, and interleaved with steps of
calls on other keyspaces only, has, once it has returned, the invariant of `.done`. -/
theorem SyncPc.Atomic.of_run {newArReader : Bytes → Option ArReader} {w w' : ArStoreWorld}
    {k : Bytes} {ls : List ArStoreLabel}
    (quiet : ∀ j c, w.calls j = some c → c.keyspace = k → c.Returned) (quietLocal : ReturnedOn k w)
    (ran : arStoreRun newArReader w (.sync k :: ls) = some w')
    (alone : ls.all (fun l => !l.makesCallOn k) = true) {r : Except SyncError Unit}
    (returned : w'.calls w.next = some (.sync k (.done r))) :
    (SyncPc.done r).Atomic newArReader w k w' := by
  have start : OnlyCallOn k w.next (SyncAtomic newArReader w k) (w.spawn (.sync k .check)) :=
    OnlyCallOn.spawn quiet rfl ⟨.check, rfl, rfl, quietLocal⟩
  obtain ⟨-, -, c, found, -, pc, rfl, atomic⟩ :=
    @OnlyCallOn.run newArReader k w.next (SyncAtomic newArReader w k)
      (fun _ _ _ inv keeps => inv.keep keeps) (fun _ _ _ _ _ _ _ inv found h => inv.own found h)
      (fun _ _ _ _ inv found onK h => inv.taskStep found onK h) ls _ _ start ran alone
  cases returned.symm.trans found
  exact atomic

/-- `SyncFromRemote(k)` made when every call on `k` has returned, then interleaved with steps of
calls on other keyspaces only, once it has returned: its result, and the reader and bucket object
of `k`, are those of the sequential `SyncFromRemote` on the state it was made on, for some outcome
of its operations. -/
theorem syncFromRemote_atomic {newArReader : Bytes → Option ArReader} {w w' : ArStoreWorld}
    {k : Bytes} {ls : List ArStoreLabel}
    (quiet : ∀ j c, w.calls j = some c → c.keyspace = k → c.Returned) (quietLocal : ReturnedOn k w)
    (ran : arStoreRun newArReader w (.sync k :: ls) = some w')
    (alone : ls.all (fun l => !l.makesCallOn k) = true) {r : Except SyncError Unit}
    (returned : w'.calls w.next = some (.sync k (.done r))) :
    ∃ readOk now streamErr io,
      (w.state.syncFromRemote newArReader k readOk now streamErr io).2 = r ∧
      w'.store.store.readers k =
        (w.state.syncFromRemote newArReader k readOk now streamErr io).1.store.readers k ∧
      w'.remote (archiveKey k) =
        (w.state.syncFromRemote newArReader k readOk now streamErr io).1.remote (archiveKey k) :=
  (SyncPc.Atomic.of_run quiet quietLocal ran alone returned).2

/-- A sync of `a` (call 0) beside an ingest of `[2]` into `b` (call 1): both download or open,
their `Put`s (calls 1 and 0 of the local store) take turns, and both return. -/
def syncBesideIngest : List ArStoreLabel :=
  [.ingest [98] [2], .run 0 true ⟨0⟩ false putAllOk, .run 1 true ⟨0⟩ false putAllOk,
    .run 0 true ⟨0⟩ false putAllOk] ++
    List.replicate 3 (.runLocal 0) ++ List.replicate 5 (.runLocal 1) ++
    List.replicate 2 (.runLocal 0) ++
    [.run 1 true ⟨0⟩ false putAllOk, .run 0 true ⟨0⟩ false putAllOk, .run 1 true ⟨0⟩ false putAllOk,
      .run 0 true ⟨0⟩ false putAllOk, .run 1 true ⟨0⟩ false putAllOk]

theorem syncFromRemote_atomic_besideIngest :
    ∃ w', arStoreRun wholeFileReader (ArStoreWorld.init (fun _ => none) 0 staleRemote)
        (.sync [97] :: syncBesideIngest) = some w' ∧
      syncBesideIngest.all (fun l => !l.makesCallOn [97]) = true ∧
      w'.calls 0 = some (.sync [97] (.done (.ok ()))) ∧
      ∃ readOk now streamErr io,
        ((ArStoreWorld.init (fun _ => none) 0 staleRemote).state.syncFromRemote wholeFileReader [97]
          readOk now streamErr io).2 = .ok () ∧
        w'.store.store.readers [97] = ((ArStoreWorld.init (fun _ => none) 0 staleRemote).state.syncFromRemote
          wholeFileReader [97] readOk now streamErr io).1.store.readers [97] ∧
        w'.remote (archiveKey [97]) = ((ArStoreWorld.init (fun _ => none) 0 staleRemote).state.syncFromRemote
          wholeFileReader [97] readOk now streamErr io).1.remote (archiveKey [97]) :=
  have ran : ∃ w', arStoreRun wholeFileReader (ArStoreWorld.init (fun _ => none) 0 staleRemote)
      (.sync [97] :: syncBesideIngest) = some w' ∧ w'.calls 0 = some (.sync [97] (.done (.ok ()))) :=
    ⟨_, rfl, rfl⟩
  let ⟨w', run, returned⟩ := ran
  ⟨w', run, rfl, returned,
    syncFromRemote_atomic (fun _ _ present _ => Option.noConfusion present)
      (fun _ _ present _ => Option.noConfusion present)
      run rfl returned⟩

/-- What holds of an `IngestNewArchive` of `file` into `k` at each program point, in world `u`, when
it was made on `w₀` and it has been the only call on `k` since, as `SyncPc.Atomic` says of a sync. -/
def IngestPc.Atomic (newArReader : Bytes → Option ArReader) (w₀ : ArStoreWorld) (k file : Bytes)
    (u : ArStoreWorld) : IngestPc → Prop
  | .openFile => u.slice k = w₀.slice k ∧ ReturnedOn k u
  | .put child => u.remote (archiveKey k) = w₀.remote (archiveKey k) ∧ OnlyTaskOn k child u ∧
      ∃ streamErr io uniqueId pc, u.store.tasks child = some (.put k file streamErr io uniqueId pc) ∧
        pc.Progress newArReader u.store.store k file streamErr io uniqueId (w₀.store.store.readers k)
  | .upload => u.remote (archiveKey k) = w₀.remote (archiveKey k) ∧ ReturnedOn k u ∧
      ∃ streamErr io, putOutcome newArReader file streamErr io = .ok () ∧
        u.store.store.readers k = newArReader file
  | .record => u.remote (archiveKey k) = some file ∧ ReturnedOn k u ∧
      ∃ streamErr io, putOutcome newArReader file streamErr io = .ok () ∧
        u.store.store.readers k = newArReader file
  | .done r => ReturnedOn k u ∧ ∃ openOk uploadOk now streamErr io,
      (w₀.state.ingestNewArchive newArReader k file openOk uploadOk now streamErr io).2 = r ∧
      u.store.store.readers k = (w₀.state.ingestNewArchive newArReader k file openOk uploadOk now
        streamErr io).1.store.readers k ∧
      u.remote (archiveKey k) = (w₀.state.ingestNewArchive newArReader k file openOk uploadOk now
        streamErr io).1.remote (archiveKey k)

section Ingest

variable {newArReader : Bytes → Option ArReader} {w₀ u u' : ArStoreWorld} {k file : Bytes}

theorem IngestPc.Atomic.keep {pc : IngestPc} (inv : pc.Atomic newArReader w₀ k file u)
    (keeps : KeepsKeyspace k u u') : pc.Atomic newArReader w₀ k file u' := by
  cases pc with
  | openFile => exact ⟨keeps.slice.trans inv.1, inv.2.keep keeps⟩
  | put child =>
    obtain ⟨remote, only, streamErr, io, uniqueId, pc, task, progress⟩ := inv
    exact ⟨keeps.remote.trans remote, only.keep keeps, streamErr, io, uniqueId, pc,
      keeps.taskKept _ _ only.1 task rfl, progress.of_slice keeps.storeSlice⟩
  | upload =>
    obtain ⟨remote, returned, streamErr, io, outcome, readers⟩ := inv
    exact ⟨keeps.remote.trans remote, returned.keep keeps, streamErr, io, outcome,
      keeps.readers.trans readers⟩
  | record =>
    obtain ⟨remote, returned, streamErr, io, outcome, readers⟩ := inv
    exact ⟨keeps.remote.trans remote, returned.keep keeps, streamErr, io, outcome,
      keeps.readers.trans readers⟩
  | done r =>
    obtain ⟨returned, openOk, uploadOk, now, streamErr, io, result, readers, remote⟩ := inv
    exact ⟨returned.keep keeps, openOk, uploadOk, now, streamErr, io, result,
      keeps.readers.trans readers, keeps.remote.trans remote⟩

/-- A step of the `IngestNewArchive` itself keeps `IngestPc.Atomic`, and changes no other call. -/
theorem IngestPc.Atomic.step {i : Nat} {ok : Bool} {now : Time} {streamErr : Bool} {io : PutIO}
    {pc : IngestPc} (inv : pc.Atomic newArReader w₀ k file u)
    (h : stepIngest u i k file ok now streamErr io pc = some u') :
    ∃ pc', u'.calls = Function.update u.calls i (some (.ingest k file pc')) ∧ u'.next = u.next ∧
      pc'.Atomic newArReader w₀ k file u' := by
  cases pc with
  | openFile =>
    obtain ⟨slice, returned⟩ := inv
    simp only [stepIngest] at h
    cases ok
    · cases h
      refine ⟨_, rfl, rfl, returned, false, true, now, streamErr, io, ?_⟩
      simp [ArStore.ingestNewArchive, ArStoreWorld.state, ArStoreWorld.setCall,
        ArStoreWorld.readers_of_slice slice, ArStoreWorld.remote_of_slice slice]
    · cases h
      exact ⟨_, rfl, rfl, ArStoreWorld.remote_of_slice slice, returned.localPut file streamErr io,
        streamErr, io, _, .create, Function.update_same _ _ _, ArStoreWorld.readers_of_slice slice⟩
  | put child =>
    obtain ⟨remote, only, streamErr₀, io₀, uniqueId, q, task, progress⟩ := inv
    obtain ⟨r, result, rfl⟩ := Option.map_eq_some'.mp h
    simp only [ArWorld.putResult, task] at result
    cases q with
    | done r' =>
      cases result
      obtain ⟨outcome, readers⟩ := progress
      have returned := only.returned task trivial
      cases r with
      | ok =>
        exact ⟨_, rfl, rfl, remote, returned, streamErr₀, io₀, outcome,
          by simpa [Except.isOk, Except.toBool] using readers⟩
      | error e =>
        obtain ⟨S, put, readers₀⟩ := w₀.store.store.put_of_outcome k outcome
        simp only [Except.isOk, Except.toBool] at readers readers₀
        refine ⟨_, rfl, rfl, returned, true, true, now, streamErr₀, io₀, ?_⟩
        simp [ArStore.ingestNewArchive, put, readers, readers₀, remote, ArStoreWorld.setCall,
          ArStoreWorld.state]
    | _ => cases result
  | upload =>
    obtain ⟨remote, returned, streamErr₀, io₀, outcome, readers⟩ := inv
    obtain ⟨S, put, readers₀⟩ := w₀.store.store.put_of_outcome k outcome
    simp only [Except.isOk, Except.toBool, if_true] at readers₀
    simp only [stepIngest] at h
    cases ok
    · cases h
      refine ⟨_, rfl, rfl, returned, true, false, now, streamErr₀, io₀, ?_⟩
      simp [ArStore.ingestNewArchive, put, readers, readers₀, remote, ArStoreWorld.setCall,
        ArStoreWorld.state]
    · cases h
      exact ⟨_, rfl, rfl, Function.update_same _ _ _, returned, streamErr₀, io₀, outcome, readers⟩
  | record =>
    obtain ⟨remote, returned, streamErr₀, io₀, outcome, readers⟩ := inv
    obtain ⟨S, put, readers₀⟩ := w₀.store.store.put_of_outcome k outcome
    simp only [Except.isOk, Except.toBool, if_true] at readers₀
    cases h
    refine ⟨_, rfl, rfl, returned, true, true, now, streamErr₀, io₀, ?_⟩
    simp [ArStore.ingestNewArchive, put, readers, readers₀, remote, ArStoreWorld.setCall,
      ArStoreWorld.recordSync, ArStoreWorld.state]
  | done => cases h

/-- A step of the `Put` the `IngestNewArchive` waits for keeps `IngestPc.Atomic`. -/
theorem IngestPc.Atomic.taskStep {child : Nat} {store : ArWorld}
    (inv : (IngestPc.put child).Atomic newArReader w₀ k file u)
    (h : arStep newArReader u.store (.run child) = some store) :
    (IngestPc.put child).Atomic newArReader w₀ k file { u with store } :=
  let ⟨remote, only, streamErr, io, uniqueId, _, task, progress⟩ := inv
  let ⟨q, task', progress', others, next⟩ := progress.taskStep task h
  ⟨remote, only.frame others next, streamErr, io, uniqueId, q, task', progress'⟩

/-- What holds of call `c` when it is an `IngestNewArchive` of `file` into `k` made on `w₀`. -/
def IngestAtomic (newArReader : Bytes → Option ArReader) (w₀ : ArStoreWorld) (k file : Bytes)
    (c : ArStoreCall) (u : ArStoreWorld) : Prop :=
  ∃ pc, c = .ingest k file pc ∧ pc.Atomic newArReader w₀ k file u

theorem IngestAtomic.keep {c : ArStoreCall} (inv : IngestAtomic newArReader w₀ k file c u)
    (keeps : KeepsKeyspace k u u') : IngestAtomic newArReader w₀ k file c u' :=
  let ⟨pc, call, atomic⟩ := inv
  ⟨pc, call, atomic.keep keeps⟩

theorem IngestAtomic.own {i : Nat} {c : ArStoreCall} {ok : Bool} {now : Time} {streamErr : Bool}
    {io : PutIO} (inv : IngestAtomic newArReader w₀ k file c u) (found : u.calls i = some c)
    (h : arStoreStep newArReader u (.run i ok now streamErr io) = some u') :
    ∃ c', u'.calls = Function.update u.calls i (some c') ∧ c'.keyspace = k ∧ u'.next = u.next ∧
      IngestAtomic newArReader w₀ k file c' u' := by
  obtain ⟨pc, rfl, atomic⟩ := inv
  simp only [arStoreStep, found] at h
  obtain ⟨pc', calls, next, atomic'⟩ := atomic.step h
  exact ⟨_, calls, rfl, next, pc', rfl, atomic'⟩

theorem IngestAtomic.taskStep {i t : Nat} {c : ArStoreCall} {store : ArWorld}
    (inv : IngestAtomic newArReader w₀ k file c u) (found : u.calls i = some c)
    (onK : (u.store.tasks t).map ArTask.keyspace = some k)
    (h : arStep newArReader u.store (.run t) = some store) :
    IngestAtomic newArReader w₀ k file c { u with store } := by
  obtain ⟨pc, rfl, atomic⟩ := inv
  obtain ⟨task, present, keyspace⟩ := Option.map_eq_some'.mp onK
  have unchanged : task.Returned →
      IngestAtomic newArReader w₀ k file (.ingest k file pc) { u with store } := fun returned => by
    cases (arStep_returned present returned).symm.trans h
    exact ⟨pc, rfl, atomic⟩
  cases pc with
  | openFile => exact unchanged (atomic.2 t task present keyspace)
  | put child =>
    rcases atomic.2.1.2 t task present keyspace with rfl | returned
    · exact ⟨_, rfl, atomic.taskStep h⟩
    · exact unchanged returned
  | upload => exact unchanged (atomic.2.1 t task present keyspace)
  | record => exact unchanged (atomic.2.1 t task present keyspace)
  | done r => exact unchanged (atomic.1 t task present keyspace)

end Ingest

/-- An `IngestNewArchive(k, localFilePath)` made when every call on `k` has returned, and
interleaved with steps of calls on other keyspaces only, has, once it has returned, the invariant
of `.done`. -/
theorem IngestPc.Atomic.of_run {newArReader : Bytes → Option ArReader} {w w' : ArStoreWorld}
    {k file : Bytes} {ls : List ArStoreLabel}
    (quiet : ∀ j c, w.calls j = some c → c.keyspace = k → c.Returned) (quietLocal : ReturnedOn k w)
    (ran : arStoreRun newArReader w (.ingest k file :: ls) = some w')
    (alone : ls.all (fun l => !l.makesCallOn k) = true) {r : Except IngestError Unit}
    (returned : w'.calls w.next = some (.ingest k file (.done r))) :
    (IngestPc.done r).Atomic newArReader w k file w' := by
  have start : OnlyCallOn k w.next (IngestAtomic newArReader w k file)
      (w.spawn (.ingest k file .openFile)) :=
    OnlyCallOn.spawn quiet rfl ⟨.openFile, rfl, rfl, quietLocal⟩
  obtain ⟨-, -, c, found, -, pc, rfl, atomic⟩ :=
    @OnlyCallOn.run newArReader k w.next (IngestAtomic newArReader w k file)
      (fun _ _ _ inv keeps => inv.keep keeps) (fun _ _ _ _ _ _ _ inv found h => inv.own found h)
      (fun _ _ _ _ inv found onK h => inv.taskStep found onK h) ls _ _ start ran alone
  cases returned.symm.trans found
  exact atomic

/-- `IngestNewArchive(k, localFilePath)` made when every call on `k` has returned, then interleaved
with steps of calls on other keyspaces only, once it has returned: its result, and the reader and
bucket object of `k`, are those of the sequential `IngestNewArchive` on the state it was made on,
for some outcome of its operations. -/
theorem ingestNewArchive_atomic {newArReader : Bytes → Option ArReader} {w w' : ArStoreWorld}
    {k file : Bytes} {ls : List ArStoreLabel}
    (quiet : ∀ j c, w.calls j = some c → c.keyspace = k → c.Returned) (quietLocal : ReturnedOn k w)
    (ran : arStoreRun newArReader w (.ingest k file :: ls) = some w')
    (alone : ls.all (fun l => !l.makesCallOn k) = true) {r : Except IngestError Unit}
    (returned : w'.calls w.next = some (.ingest k file (.done r))) :
    ∃ openOk uploadOk now streamErr io,
      (w.state.ingestNewArchive newArReader k file openOk uploadOk now streamErr io).2 = r ∧
      w'.store.store.readers k = (w.state.ingestNewArchive newArReader k file openOk uploadOk now
        streamErr io).1.store.readers k ∧
      w'.remote (archiveKey k) = (w.state.ingestNewArchive newArReader k file openOk uploadOk now
        streamErr io).1.remote (archiveKey k) :=
  (IngestPc.Atomic.of_run quiet quietLocal ran alone returned).2

/-- An ingest of `[2]` into `b` (call 0) beside a sync of `a` (call 1), their `Put`s taking turns. -/
def ingestBesideSync : List ArStoreLabel :=
  [.sync [97], .run 0 true ⟨0⟩ false putAllOk, .run 1 true ⟨0⟩ false putAllOk,
    .run 1 true ⟨0⟩ false putAllOk] ++
    List.replicate 3 (.runLocal 1) ++ List.replicate 5 (.runLocal 0) ++
    List.replicate 2 (.runLocal 1) ++
    [.run 0 true ⟨0⟩ false putAllOk, .run 1 true ⟨0⟩ false putAllOk, .run 0 true ⟨0⟩ false putAllOk,
      .run 1 true ⟨0⟩ false putAllOk, .run 0 true ⟨0⟩ false putAllOk]

theorem ingestNewArchive_atomic_besideSync :
    ∃ w', arStoreRun wholeFileReader (ArStoreWorld.init (fun _ => none) 0 staleRemote)
        (.ingest [98] [2] :: ingestBesideSync) = some w' ∧
      ingestBesideSync.all (fun l => !l.makesCallOn [98]) = true ∧
      w'.calls 0 = some (.ingest [98] [2] (.done (.ok ()))) ∧
      ∃ openOk uploadOk now streamErr io,
        ((ArStoreWorld.init (fun _ => none) 0 staleRemote).state.ingestNewArchive wholeFileReader [98]
          [2] openOk uploadOk now streamErr io).2 = .ok () ∧
        w'.store.store.readers [98] = ((ArStoreWorld.init (fun _ => none) 0 staleRemote).state.ingestNewArchive
          wholeFileReader [98] [2] openOk uploadOk now streamErr io).1.store.readers [98] ∧
        w'.remote (archiveKey [98]) = ((ArStoreWorld.init (fun _ => none) 0 staleRemote).state.ingestNewArchive
          wholeFileReader [98] [2] openOk uploadOk now streamErr io).1.remote (archiveKey [98]) :=
  have ran : ∃ w', arStoreRun wholeFileReader (ArStoreWorld.init (fun _ => none) 0 staleRemote)
      (.ingest [98] [2] :: ingestBesideSync) = some w' ∧
      w'.calls 0 = some (.ingest [98] [2] (.done (.ok ()))) :=
    ⟨_, rfl, rfl⟩
  let ⟨w', run, returned⟩ := ran
  ⟨w', run, rfl, returned,
    ingestNewArchive_atomic (fun _ _ present _ => Option.noConfusion present)
      (fun _ _ present _ => Option.noConfusion present)
      run rfl returned⟩

end Gscache
