import Gscache.ArStore

/-!
# Keyspaces do not interfere

`BlobBackend.Compact` runs one compaction job per keyspace, all at once, over one archive store.
Every call of the archive store and of its local store works on one keyspace: its files are the
keyspace's archive and temporary files, its reader is the keyspace's, its bucket object is
`ArchiveKey(keyspace)` and its sync time is the keyspace's. So no step of a call on another
keyspace changes what belongs to keyspace `k`, over any interleaving; a job's calls see only what
the calls of its own keyspace did.

Results:
1. `arStoreRun_keyspace_untouched`: a run whose steps are all on keyspaces other than `k` leaves
   the slice of `k` as it was.
-/

namespace Gscache

/-- The keyspace of a call of the local store. -/
def ArTask.keyspace : ArTask → Bytes
  | .put keyspace .. | .loadLocal keyspace .. => keyspace

/-- The keyspace of a call of the archive store. -/
def ArStoreCall.keyspace : ArStoreCall → Bytes
  | .sync keyspace _ | .ingest keyspace _ _ => keyspace

/-- The keyspace a label works on: that of the call it makes, or of the call that takes the
step. -/
def ArStoreWorld.labelKeyspace (w : ArStoreWorld) : ArStoreLabel → Option Bytes
  | .sync keyspace | .ingest keyspace _ | .loadLocal keyspace _ _ => some keyspace
  | .runLocal t => (w.store.tasks t).map ArTask.keyspace
  | .run i _ _ _ _ => (w.calls i).map ArStoreCall.keyspace

/-- What of the local store belongs to keyspace `k`: its archive file, its temporary files and its
reader. -/
def ArLocalStore.slice (s : ArLocalStore) (k : Bytes) :
    Option Bytes × (Nat → Option Bytes) × Option ArReader :=
  (s.files (.archive k), fun uniqueId => s.files (.tmp k uniqueId), s.readers k)

/-- What of the archive store belongs to keyspace `k`: that of the local store, its archive object
in the bucket and its last sync. -/
def ArStoreWorld.slice (w : ArStoreWorld) (k : Bytes) :
    (Option Bytes × (Nat → Option Bytes) × Option ArReader) × Option Bytes × Option Time :=
  (w.store.store.slice k, w.remote (archiveKey k), w.lastSyncAt k)

/-- Every step of the run of `ls` from `w` is on a keyspace other than `k`. -/
def avoids (newArReader : Bytes → Option ArReader) (k : Bytes) :
    ArStoreWorld → List ArStoreLabel → Bool
  | _, [] => true
  | w, l :: ls => w.labelKeyspace l != some k &&
    match arStoreStep newArReader w l with
    | some w' => avoids newArReader k w' ls
    | none => true

section Slices

variable {newArReader : Bytes → Option ArReader} {k : Bytes}

/-- A step of a call of the local store on another keyspace keeps the slice of `k`. -/
theorem ArTask.step_slice {s s' : ArLocalStore} {task task' : ArTask}
    (h : task.step newArReader s = some (s', task')) (other : task.keyspace ≠ k) :
    s'.slice k = s.slice k := by
  cases task with
  | put keyspace stream streamErr io uniqueId pc =>
    change keyspace ≠ k at other
    obtain ⟨⟨s'', pc'⟩, stepped, moved⟩ := Option.map_eq_some'.mp h
    cases moved
    obtain ⟨-, files, -, readers⟩ := ArLocalStore.putStep_store stepped
    have archive : ArPath.archive k ≠ .archive keyspace := fun same => other (by cases same; rfl)
    have tmp : ∀ u, ArPath.tmp k u ≠ .tmp keyspace uniqueId := fun u same =>
      other (by cases same; rfl)
    refine Prod.ext (files _ nofun archive) (Prod.ext (funext fun u => files _ (tmp u) nofun) ?_)
    show s'.readers k = s.readers k
    rcases readers with same | ⟨reader, -, -, update⟩
    · rw [same]
    · rw [update, Function.update_noteq (Ne.symm other)]
  | loadLocal keyspace statOk openOk pc =>
    change keyspace ≠ k at other
    obtain ⟨⟨s'', pc'⟩, stepped, moved⟩ := Option.map_eq_some'.mp h
    cases moved
    obtain ⟨files, -, readers⟩ := ArLocalStore.loadStep_store stepped
    refine Prod.ext (congrFun files _) (Prod.ext (funext fun u => congrFun files _) ?_)
    show s'.readers k = s.readers k
    rcases readers with same | ⟨reader, -, update⟩
    · rw [same]
    · rw [update, Function.update_noteq (Ne.symm other)]

theorem arStep_slice {w w' : ArWorld} {t : Nat} (h : arStep newArReader w (.run t) = some w')
    (other : (w.tasks t).map ArTask.keyspace ≠ some k) : w'.store.slice k = w.store.slice k := by
  obtain ⟨task, found, stepped⟩ := Option.map_eq_some'.mp h
  rw [found, Option.map_some', ne_eq, Option.some.injEq] at other
  split at stepped
  · cases stepped; rfl
  · cases stepped; exact ArTask.step_slice ‹_› other

/-- `lastSyncAt[keyspace] = time.Now()` on another keyspace keeps the slice of `k`. -/
theorem ArStoreWorld.recordSync_slice (w : ArStoreWorld) {keyspace : Bytes} (other : keyspace ≠ k)
    (now : Time) : (w.recordSync keyspace now).slice k = w.slice k :=
  Prod.ext rfl (Prod.ext rfl (Function.update_noteq (Ne.symm other) _ _))

theorem stepSync_slice {w w' : ArStoreWorld} {i : Nat} {keyspace : Bytes} {ok : Bool} {now : Time}
    {streamErr : Bool} {io : PutIO} {pc : SyncPc}
    (h : stepSync w i keyspace ok now streamErr io pc = some w') (other : keyspace ≠ k) :
    w'.slice k = w.slice k := by
  cases pc with
  | put child =>
    obtain ⟨r, -, rfl⟩ := Option.map_eq_some'.mp h
    split <;> rfl
  | record => cases h; exact w.recordSync_slice other now
  | done => cases h
  | _ => simp only [stepSync] at h; (repeat' split at h) <;> cases h <;> rfl

theorem stepIngest_slice {w w' : ArStoreWorld} {i : Nat} {keyspace file : Bytes} {ok : Bool}
    {now : Time} {streamErr : Bool} {io : PutIO} {pc : IngestPc}
    (h : stepIngest w i keyspace file ok now streamErr io pc = some w') (other : keyspace ≠ k) :
    w'.slice k = w.slice k := by
  cases pc with
  | put child =>
    obtain ⟨r, -, rfl⟩ := Option.map_eq_some'.mp h
    split <;> rfl
  | upload =>
    simp only [stepIngest] at h
    split at h <;> cases h
    · rfl
    · exact Prod.ext rfl (Prod.ext (Function.update_noteq
        (fun same => other (archiveKey_injective same).symm) _ _) rfl)
  | record => cases h; exact w.recordSync_slice other now
  | done => cases h
  | openFile => simp only [stepIngest] at h; split at h <;> cases h <;> rfl

/-- A step on a keyspace other than `k` keeps the slice of `k`. -/
theorem arStoreStep_slice {w w' : ArStoreWorld} {l : ArStoreLabel}
    (h : arStoreStep newArReader w l = some w') (other : w.labelKeyspace l ≠ some k) :
    w'.slice k = w.slice k := by
  cases l with
  | sync | ingest | loadLocal => cases h; rfl
  | runLocal t =>
    obtain ⟨store, stepped, rfl⟩ := Option.map_eq_some'.mp h
    exact Prod.ext (arStep_slice stepped other) rfl
  | run i ok now streamErr io =>
    simp only [arStoreStep] at h
    split at h
    all_goals simp only [ArStoreWorld.labelKeyspace, ArStoreCall.keyspace, Option.map_some', *,
      ne_eq, Option.some.injEq] at other
    · exact stepSync_slice h other
    · exact stepIngest_slice h other
    · cases h

/-- Over any interleaving whose steps are all on keyspaces other than `k`, the archive file,
temporary files, reader, bucket object and last sync of `k` stay as they were. -/
theorem arStoreRun_keyspace_untouched : ∀ {ls : List ArStoreLabel} {w w' : ArStoreWorld},
    arStoreRun newArReader w ls = some w' → avoids newArReader k w ls = true →
      w'.slice k = w.slice k
  | [], _, _, ran, _ => by cases ran; rfl
  | _ :: _, _, _, ran, avoided => by
    obtain ⟨_, stepped, rest⟩ := Option.bind_eq_some.mp ran
    simp only [avoids, stepped, Bool.and_eq_true, bne_iff_ne] at avoided
    exact (arStoreRun_keyspace_untouched rest avoided.2).trans (arStoreStep_slice stepped avoided.1)

/-- An ingest of the archive `[2]` into keyspace `b`, run to its return, on the store of
`staleRemote`, whose bucket holds the archive of keyspace `a`. -/
def ingestOther : List ArStoreLabel :=
  [.ingest [98] [2], .run 0 true ⟨0⟩ false putAllOk] ++ List.replicate 5 (.runLocal 0) ++
    List.replicate 3 (.run 0 true ⟨0⟩ false putAllOk)

theorem arStoreRun_keyspace_untouched_ingestOther :
    ∃ w, arStoreRun wholeFileReader (ArStoreWorld.init (fun _ => none) 0 staleRemote) ingestOther =
        some w ∧
      avoids wholeFileReader [97] (ArStoreWorld.init (fun _ => none) 0 staleRemote) ingestOther ∧
      w.slice [97] = (ArStoreWorld.init (fun _ => none) 0 staleRemote).slice [97] :=
  have ran : ∃ w, arStoreRun wholeFileReader (ArStoreWorld.init (fun _ => none) 0 staleRemote)
      ingestOther = some w ∧
      avoids wholeFileReader [97] (ArStoreWorld.init (fun _ => none) 0 staleRemote) ingestOther :=
    ⟨_, rfl, rfl⟩
  let ⟨w, run, avoided⟩ := ran
  ⟨w, run, avoided, arStoreRun_keyspace_untouched run avoided⟩

end Slices

end Gscache
