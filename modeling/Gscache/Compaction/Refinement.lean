import Gscache.ArStore.Alone
import Gscache.Compaction

/-!
# The compaction job's calls into the archive store

The compaction job (`Compaction`) calls the archive store twice: `SyncFromRemote` before step 1,
and `IngestNewArchive` in step 3. The job model takes each as steps that change what the job sees
of the store, the archive installed for its keyspace and the one in the bucket: `.sync installs`
installs the bucket's archive or leaves the store as it was, and `.ingest ok`, then `.upload ok`,
install and publish the archive the job wrote. Here the archive store's model (`ArStore`), where
each call is a goroutine whose `Put` is a call of the local store, is shown to implement those
steps: the call made on any world whose view matches the job's, and run alone until it returns,
leaves a world whose view matches the job's after the corresponding steps. The ingest's premise is
that `NewArReader` reads back, from the closed file, the entries the job wrote (the zip format is
not modelled).

Running alone is needed: in the example at the end of `ArStore`, an ingest overlapping a sync
returns success while the local store keeps the old archive.

Results:
1. `syncFromRemote_refines_job`: `SyncFromRemote` run alone implements the job's `.sync` step.
2. `ingestNewArchive_refines_job`: `IngestNewArchive` run alone implements the job's `.ingest` and
   `.upload` steps, and returns success exactly when the job finishes with success.
-/

namespace Gscache

/-- What the compaction job of `keyspace` sees of the archive store: the reader `GetArchive`
returns, and the reader of the bucket's archive object. -/
def ArStoreWorld.jobView (newArReader : Bytes → Option ArReader) (w : ArStoreWorld)
    (keyspace : Bytes) : Option ArReader × Option ArReader :=
  (w.store.store.get keyspace, (w.remote (archiveKey keyspace)).bind newArReader)

/-- The same, of the state of the archive store. -/
def ArStore.jobView (newArReader : Bytes → Option ArReader) (s : ArStore) (keyspace : Bytes) :
    Option ArReader × Option ArReader :=
  (s.store.get keyspace, (s.remote (archiveKey keyspace)).bind newArReader)

/-- What the job records of the same. -/
def Job.view (j : Job) : Option ArReader × Option ArReader := (j.installed, j.remote)

/-- The job's steps for `IngestNewArchive`: the local `Put`, with outcome `ok`, and the upload
after it succeeds. -/
def ingestLabels (ok uploadOk : Bool) : List JobLabel :=
  .ingest ok :: if ok then [.upload uploadOk] else []

section Job

variable {j : Job}

theorem jobRun_sync (phase : j.phase = .sync) (installs : Bool) :
    ∃ j', jobRun j [.sync installs] = some j' ∧
      j'.view = (if installs then j.remote.or j.installed else j.installed, j.remote) := by
  cases installs <;> cases remote : j.remote <;> simp [jobRun, jobStep, phase, remote, Job.view]

theorem jobRun_ingestLabels {entries : List ArEntry} (phase : j.phase = .ingest entries)
    (ok uploadOk : Bool) :
    ∃ j', jobRun j (ingestLabels ok uploadOk) = some j' ∧
      j'.view = (if ok then some ⟨entries⟩ else j.installed,
        if ok && uploadOk then some ⟨entries⟩ else j.remote) ∧
      (j'.phase = .finished .succeeded ↔ (ok && uploadOk) = true) := by
  cases ok <;> cases uploadOk <;> simp [ingestLabels, jobRun, jobStep, phase, Job.view]

end Job

/-! ## Refinement -/

section Refinement

variable {newArReader : Bytes → Option ArReader} {w : ArStoreWorld} {j : Job} {keyspace : Bytes}

theorem ArStoreWorld.jobView_of_state {w' : ArStoreWorld} {s' : ArStore} (state : w'.state = s') :
    w'.jobView newArReader keyspace = s'.jobView newArReader keyspace := by
  subst state; rfl

/-- The view depends only on the reader and the bucket object of the keyspace. -/
theorem ArStoreWorld.jobView_eq {w' : ArStoreWorld} {s' : ArStore}
    (readers : w'.store.store.readers keyspace = s'.store.readers keyspace)
    (remote : w'.remote (archiveKey keyspace) = s'.remote (archiveKey keyspace)) :
    w'.jobView newArReader keyspace = s'.jobView newArReader keyspace :=
  Prod.ext readers (congrArg (fun b => Option.bind b newArReader) remote)

/-- The sequential `SyncFromRemote` implements the job's `.sync` step on the view. -/
theorem ArStore.syncFromRemote_job {s : ArStore} (phase : j.phase = .sync)
    (view : s.jobView newArReader keyspace = j.view) (readOk : Bool) (now : Time) (streamErr : Bool)
    (io : PutIO) :
    ∃ installs j', jobRun j [.sync installs] = some j' ∧
      (s.syncFromRemote newArReader keyspace readOk now streamErr io).1.jobView newArReader keyspace =
        j'.view := by
  generalize called : s.syncFromRemote newArReader keyspace readOk now streamErr io = out
  obtain ⟨s', r⟩ := out
  obtain ⟨installed, remote⟩ := Prod.mk.inj_iff.mp view
  obtain ⟨remote', installs⟩ := ArStore.syncFromRemote_installs called
  have bucket : (s'.remote (archiveKey keyspace)).bind newArReader = j.remote := by
    rw [remote']; exact remote
  rcases installs with kept | ⟨-, reader, found, fresh⟩
  · obtain ⟨j', jobRan, jobView⟩ := jobRun_sync phase false
    refine ⟨false, j', jobRan, ?_⟩
    rw [jobView]
    exact Prod.ext (kept.trans installed) bucket
  · obtain ⟨j', jobRan, jobView⟩ := jobRun_sync phase true
    refine ⟨true, j', jobRan, ?_⟩
    rw [jobView]
    exact Prod.ext (fresh.trans (by rw [← remote, found]; rfl)) bucket

/-- The sequential `IngestNewArchive` of the file the job closed implements the job's `.ingest` and
`.upload` steps on the view, and returns success exactly when the job finishes with success. -/
theorem ArStore.ingestNewArchive_job {s : ArStore} {file : Bytes} {entries : List ArEntry}
    (phase : j.phase = .ingest entries) (readable : newArReader file = some ⟨entries⟩)
    (view : s.jobView newArReader keyspace = j.view) (openOk uploadOk : Bool) (now : Time)
    (streamErr : Bool) (io : PutIO) :
    ∃ ok j', jobRun j (ingestLabels ok uploadOk) = some j' ∧
      (s.ingestNewArchive newArReader keyspace file openOk uploadOk now streamErr io).1.jobView
        newArReader keyspace = j'.view ∧
      ((s.ingestNewArchive newArReader keyspace file openOk uploadOk now streamErr io).2 = .ok () ↔
        j'.phase = .finished .succeeded) := by
  generalize called : s.ingestNewArchive newArReader keyspace file openOk uploadOk now streamErr io =
    out
  obtain ⟨s', r⟩ := out
  obtain ⟨installed, remote⟩ := Prod.mk.inj_iff.mp view
  obtain ⟨ok, installed', remote', result⟩ := ArStore.ingestNewArchive_installs called
  obtain ⟨j', jobRan, jobView, succeeded⟩ := jobRun_ingestLabels phase ok uploadOk
  refine ⟨ok, j', jobRan, ?_, result.trans succeeded.symm⟩
  rw [jobView, ArStore.jobView, installed', remote']
  cases ok <;> cases uploadOk <;> simp [readable, ← installed, ← remote, ArStore.jobView]

/-- `SyncFromRemote`, made on a world whose view matches the job's and run alone until it returns,
implements the job's `.sync` step: some outcome of that step leaves the job with the view of the
world the call leaves. -/
theorem syncFromRemote_refines_job (phase : j.phase = .sync)
    (view : w.jobView newArReader keyspace = j.view) (readOk : Bool) (now : Time) (streamErr : Bool)
    (io : PutIO) :
    ∃ w' r, arStoreRun newArReader w (syncAlone newArReader w keyspace readOk now streamErr io) =
        some w' ∧ w'.calls w.next = some (.sync keyspace (.done r)) ∧
      ∃ installs j', jobRun j [.sync installs] = some j' ∧
        w'.jobView newArReader keyspace = j'.view := by
  obtain ⟨w', ran, state, calls⟩ := @arStoreRun_syncAlone newArReader w keyspace readOk now streamErr io
  obtain ⟨installs, j', jobRan, jobView⟩ :=
    ArStore.syncFromRemote_job phase (show w.state.jobView newArReader keyspace = j.view from view) readOk
      now streamErr io
  exact ⟨w', _, ran, by rw [calls, Function.update_same], installs, j', jobRan,
    (ArStoreWorld.jobView_of_state state).trans jobView⟩

/-- A job of keyspace `a` that has seen the archive `[1]` in the bucket of `staleRemote`. -/
def bucketJob (phase : Phase) : Job := ⟨phase, false, false, none, wholeFileReader [1], []⟩

theorem syncFromRemote_refines_job_bucket :
    (bucketJob .sync).phase = .sync ∧
      (ArStoreWorld.init (fun _ => none) 0 staleRemote).jobView wholeFileReader [97] =
        (bucketJob .sync).view ∧
      ∃ w' r, arStoreRun wholeFileReader (ArStoreWorld.init (fun _ => none) 0 staleRemote)
          (syncAlone wholeFileReader (ArStoreWorld.init (fun _ => none) 0 staleRemote) [97] true ⟨0⟩
            false putAllOk) = some w' ∧ w'.calls 0 = some (.sync [97] (.done r)) ∧
        ∃ installs j', jobRun (bucketJob .sync) [.sync installs] = some j' ∧
          w'.jobView wholeFileReader [97] = j'.view :=
  ⟨rfl, rfl, @syncFromRemote_refines_job wholeFileReader (ArStoreWorld.init (fun _ => none) 0 staleRemote)
    (bucketJob .sync) [97] rfl rfl true ⟨0⟩ false putAllOk⟩

/-- `IngestNewArchive` of the file the job closed, made on a world whose view matches the job's and
run alone until it returns, implements the job's `.ingest` and `.upload` steps: some outcome of the
local `Put` leaves the job with the view of the world the call leaves, and the call returns success
exactly when the job finishes with success. -/
theorem ingestNewArchive_refines_job {file : Bytes} {entries : List ArEntry}
    (phase : j.phase = .ingest entries) (readable : newArReader file = some ⟨entries⟩)
    (view : w.jobView newArReader keyspace = j.view) (openOk uploadOk : Bool) (now : Time)
    (streamErr : Bool) (io : PutIO) :
    ∃ w' r, arStoreRun newArReader w
          (ingestAlone newArReader w keyspace file openOk uploadOk now streamErr io) = some w' ∧
        w'.calls w.next = some (.ingest keyspace file (.done r)) ∧
      ∃ ok j', jobRun j (ingestLabels ok uploadOk) = some j' ∧
        w'.jobView newArReader keyspace = j'.view ∧ (r = .ok () ↔ j'.phase = .finished .succeeded) := by
  obtain ⟨w', ran, state, calls⟩ :=
    @arStoreRun_ingestAlone newArReader w keyspace file openOk uploadOk now streamErr io
  obtain ⟨ok, j', jobRan, jobView, succeeded⟩ :=
    ArStore.ingestNewArchive_job phase readable
      (show w.state.jobView newArReader keyspace = j.view from view) openOk uploadOk now streamErr io
  exact ⟨w', _, ran, by rw [calls, Function.update_same], ok, j', jobRan,
    (ArStoreWorld.jobView_of_state state).trans jobView, succeeded⟩

/-- The entries `wholeFileReader` reads from the file `[2]`. -/
def newEntries : List ArEntry := [⟨[2], ⟨[], [], Int64.wrap 0, ⟨0⟩⟩, []⟩]

theorem ingestNewArchive_refines_job_bucket :
    (bucketJob (.ingest newEntries)).phase = .ingest newEntries ∧
      wholeFileReader [2] = some ⟨newEntries⟩ ∧
      (ArStoreWorld.init (fun _ => none) 0 staleRemote).jobView wholeFileReader [97] =
        (bucketJob (.ingest newEntries)).view ∧
      ∃ w' r, arStoreRun wholeFileReader (ArStoreWorld.init (fun _ => none) 0 staleRemote)
          (ingestAlone wholeFileReader (ArStoreWorld.init (fun _ => none) 0 staleRemote) [97] [2]
            true true ⟨0⟩ false putAllOk) = some w' ∧
        w'.calls 0 = some (.ingest [97] [2] (.done r)) ∧
        ∃ ok j', jobRun (bucketJob (.ingest newEntries)) (ingestLabels ok true) = some j' ∧
          w'.jobView wholeFileReader [97] = j'.view ∧ (r = .ok () ↔ j'.phase = .finished .succeeded) :=
  ⟨rfl, rfl, rfl, @ingestNewArchive_refines_job wholeFileReader
    (ArStoreWorld.init (fun _ => none) 0 staleRemote) (bucketJob (.ingest newEntries)) [97] [2]
    newEntries rfl rfl rfl true true ⟨0⟩ false putAllOk⟩

end Refinement

end Gscache
