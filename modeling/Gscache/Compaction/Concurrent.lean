import Gscache.ArStore.Atomic
import Gscache.Compaction.Refinement

/-!
# The compaction jobs of all keyspaces at once

`BlobBackend.Compact` starts one compaction job per keyspace and runs them all at once. Each job
calls the archive store twice on its own keyspace, `SyncFromRemote` before step 1 and
`IngestNewArchive` in step 3, each once the call before it has returned; meanwhile the other jobs'
calls on their keyspaces run, and their steps, and those of their `Put`s, interleave with the
job's own.

Each of the job's calls still implements the job's steps, as it does run alone
(`Compaction.Refinement`): the call is atomic among calls on other keyspaces (`ArStore.Atomic`),
and the sequential call implements the job's steps on what the job sees.

Results:
1. `compact_sync_refines_job`: the job's `SyncFromRemote`, interleaved with the other jobs'
   calls, implements its `.sync` step.
2. `compact_ingest_refines_job`: the job's `IngestNewArchive`, interleaved with the other jobs'
   calls, implements its `.ingest` and `.upload` steps, and returns success exactly when the job
   finishes with success.
-/

namespace Gscache

section Compact

variable {newArReader : Bytes → Option ArReader} {w w' : ArStoreWorld} {j : Job} {k : Bytes}
  {ls : List ArStoreLabel}

/-- The job's `SyncFromRemote(k)`, made on a world whose view matches the job's when every earlier
call on `k` has returned, and interleaved with steps of calls on other keyspaces only, once it has
returned, implements the job's `.sync` step: some outcome of that step leaves the job with the view
of the world the call leaves. -/
theorem compact_sync_refines_job (phase : j.phase = .sync) (view : w.jobView newArReader k = j.view)
    (quiet : ∀ i c, w.calls i = some c → c.keyspace = k → c.Returned) (quietLocal : ReturnedOn k w)
    (ran : arStoreRun newArReader w (.sync k :: ls) = some w')
    (alone : ls.all (fun l => !l.makesCallOn k) = true) {r : Except SyncError Unit}
    (returned : w'.calls w.next = some (.sync k (.done r))) :
    ∃ installs j', jobRun j [.sync installs] = some j' ∧ w'.jobView newArReader k = j'.view := by
  obtain ⟨-, readOk, now, streamErr, io, -, readers, remote⟩ :=
    SyncPc.Atomic.of_run quiet quietLocal ran alone returned
  obtain ⟨installs, j', jobRan, jobView⟩ := ArStore.syncFromRemote_job phase
    (show w.state.jobView newArReader k = j.view from view) readOk now streamErr io
  exact ⟨installs, j', jobRan, (ArStoreWorld.jobView_eq readers remote).trans jobView⟩

theorem compact_sync_refines_job_besideIngest :
    (bucketJob .sync).phase = .sync ∧
      (ArStoreWorld.init (fun _ => none) 0 staleRemote).jobView wholeFileReader [97] =
        (bucketJob .sync).view ∧
      ∃ w', arStoreRun wholeFileReader (ArStoreWorld.init (fun _ => none) 0 staleRemote)
          (.sync [97] :: syncBesideIngest) = some w' ∧
        syncBesideIngest.all (fun l => !l.makesCallOn [97]) = true ∧
        w'.calls 0 = some (.sync [97] (.done (.ok ()))) ∧
        ∃ installs j', jobRun (bucketJob .sync) [.sync installs] = some j' ∧
          w'.jobView wholeFileReader [97] = j'.view :=
  have ran : ∃ w', arStoreRun wholeFileReader (ArStoreWorld.init (fun _ => none) 0 staleRemote)
      (.sync [97] :: syncBesideIngest) = some w' ∧ w'.calls 0 = some (.sync [97] (.done (.ok ()))) :=
    ⟨_, rfl, rfl⟩
  let ⟨w', run, returned⟩ := ran
  ⟨rfl, rfl, w', run, rfl, returned,
    @compact_sync_refines_job wholeFileReader (ArStoreWorld.init (fun _ => none) 0 staleRemote) w'
      (bucketJob .sync) [97] syncBesideIngest rfl rfl
      (fun _ _ present _ => Option.noConfusion present)
      (fun _ _ present _ => Option.noConfusion present) run rfl _ returned⟩

/-- The job's `IngestNewArchive(k, localFilePath)` of the file it closed, made on a world whose view
matches the job's when every earlier call on `k` has returned, and interleaved with steps of calls
on other keyspaces only, once it has returned, implements the job's `.ingest` and `.upload` steps:
some outcome of them leaves the job with the view of the world the call leaves, and the call
returns success exactly when the job finishes with success. -/
theorem compact_ingest_refines_job {file : Bytes} {entries : List ArEntry}
    (phase : j.phase = .ingest entries) (readable : newArReader file = some ⟨entries⟩)
    (view : w.jobView newArReader k = j.view)
    (quiet : ∀ i c, w.calls i = some c → c.keyspace = k → c.Returned) (quietLocal : ReturnedOn k w)
    (ran : arStoreRun newArReader w (.ingest k file :: ls) = some w')
    (alone : ls.all (fun l => !l.makesCallOn k) = true) {r : Except IngestError Unit}
    (returned : w'.calls w.next = some (.ingest k file (.done r))) :
    ∃ ok uploadOk j', jobRun j (ingestLabels ok uploadOk) = some j' ∧
      w'.jobView newArReader k = j'.view ∧ (r = .ok () ↔ j'.phase = .finished .succeeded) := by
  obtain ⟨-, openOk, uploadOk, now, streamErr, io, result, readers, remote⟩ :=
    IngestPc.Atomic.of_run quiet quietLocal ran alone returned
  obtain ⟨ok, j', jobRan, jobView, succeeded⟩ := ArStore.ingestNewArchive_job phase readable
    (show w.state.jobView newArReader k = j.view from view) openOk uploadOk now streamErr io
  exact ⟨ok, uploadOk, j', jobRan, (ArStoreWorld.jobView_eq readers remote).trans jobView,
    result ▸ succeeded⟩

/-- A job of keyspace `b`, which has nothing installed and nothing in the bucket. -/
def emptyJob (phase : Phase) : Job := ⟨phase, false, false, none, none, []⟩

theorem compact_ingest_refines_job_besideSync :
    (emptyJob (.ingest newEntries)).phase = .ingest newEntries ∧
      wholeFileReader [2] = some ⟨newEntries⟩ ∧
      (ArStoreWorld.init (fun _ => none) 0 staleRemote).jobView wholeFileReader [98] =
        (emptyJob (.ingest newEntries)).view ∧
      ∃ w', arStoreRun wholeFileReader (ArStoreWorld.init (fun _ => none) 0 staleRemote)
          (.ingest [98] [2] :: ingestBesideSync) = some w' ∧
        ingestBesideSync.all (fun l => !l.makesCallOn [98]) = true ∧
        w'.calls 0 = some (.ingest [98] [2] (.done (.ok ()))) ∧
        ∃ ok uploadOk j', jobRun (emptyJob (.ingest newEntries)) (ingestLabels ok uploadOk) =
            some j' ∧
          w'.jobView wholeFileReader [98] = j'.view ∧
          ((.ok () : Except IngestError Unit) = .ok () ↔ j'.phase = .finished .succeeded) :=
  have ran : ∃ w', arStoreRun wholeFileReader (ArStoreWorld.init (fun _ => none) 0 staleRemote)
      (.ingest [98] [2] :: ingestBesideSync) = some w' ∧
      w'.calls 0 = some (.ingest [98] [2] (.done (.ok ()))) :=
    ⟨_, rfl, rfl⟩
  let ⟨w', run, returned⟩ := ran
  ⟨rfl, rfl, rfl, w', run, rfl, returned,
    @compact_ingest_refines_job wholeFileReader (ArStoreWorld.init (fun _ => none) 0 staleRemote) w'
      (emptyJob (.ingest newEntries)) [98] ingestBesideSync [2] newEntries rfl rfl rfl
      (fun _ _ present _ => Option.noConfusion present)
      (fun _ _ present _ => Option.noConfusion present) run rfl _ returned⟩

end Compact

end Gscache
