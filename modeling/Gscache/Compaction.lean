import Gscache.Archive
import Mathlib.Data.List.Nodup
import Mathlib.Data.List.Perm.Subperm

/-!
# The compaction job

`CompactionJob` (`compaction.go`) rebuilds the BlobArchive of one keyspace `k`:

1. `step1FindBlobsToCompact` lists the bucket under `b/k`, keeps the small objects whose key
   parses back to an ActionID, and decides whether enough of them are new;
2. `step2DownloadAndFill` submits one `BlobBackend.Get` per planned item to a pool; each hit is
   pushed into a channel, and a single writer goroutine checks it and adds it to the new archive;
3. `step3IngestNewArFile` closes the archive and hands it to `ArStore.IngestNewArchive`, which
   installs it locally and then uploads it.

Step 2 is a state machine (`FillState`, `fillStep`): the pool's tasks start and finish in any
order with any outcome, and the writer takes the channel's head. A task's `BlobBackend.Get` reads
the closed flag at its entry and returns later: a get that found the store open runs to a miss or a
hit even if `Close` lands meanwhile. The whole job (`Job`, `jobStep`) adds the backend's `Close`,
which sets the closed flag and cancels the job's context at any step.

Results:
1. `fill_entries_listed`: every entry of the new archive is named by its meta's ActionID, lies in
   keyspace `k`, comes from a listed small object whose size is the entry's header plus its data,
   has `meta.Size` bytes of data, and no two entries share a name; for every listing with distinct
   keys under the prefix, every outcome of the gets and every order of the writer's inputs.
2. `job_ingests_after_close`: a backend closed before step 2 makes every get fail at its entry,
   every item is skipped, and the job still installs and uploads the resulting empty archive.
3. `cacheEntityKey_round_trip`: the key of every uploaded object parses back to its ActionID,
   lies under the listing prefix of its keyspace, and is planned by step 1 when it is small.
-/

namespace Gscache

/-- `compactItem`: a listed object planned for the new archive. -/
structure CompactItem where
  actionID : Bytes
  objectKey : Bytes
  objectSize : Int64
deriving DecidableEq

/-- A listed object: `Key`, `Size` and `IsDir` of a `blob.ListObject`. -/
structure ListObject where
  key : Bytes
  size : Int64
  isDir : Bool
deriving DecidableEq

/-- `CompactionSmallBlobSize`: 1 MiB, header included. -/
def compactionSmallBlobSize : Int := 1024 * 1024

/-- `CompactionAtLeastAddFiles`. -/
def compactionAtLeastAddFiles : Nat := 10

/-! ## Step 1 -/

/-- The listing loop of `step1FindBlobsToCompact`: the planned items in listing order; `none` when
`DecodeCacheEntityKey` panics. -/
def planListing : List ListObject → Option (List CompactItem)
  | [] => some []
  | obj :: rest =>
    if obj.isDir then planListing rest
    else if compactionSmallBlobSize ≤ obj.size.val then planListing rest
    else match decodeCacheEntityKey obj.key with
      | none => none
      | some (.error _) => planListing rest
      | some (.ok actionID) => (planListing rest).map (⟨actionID, obj.key, obj.size⟩ :: ·)

/-- `nNewlyAddedFiles`: the planned items the installed archive does not hold, or all of them
when there is none. -/
def newlyAddedFiles (ar : Option ArReader) (plan : List CompactItem) : Nat :=
  match ar with
  | none => plan.length
  | some ar => plan.countP fun item => ar.get (cacheEntityNameInArchive item.actionID) = none

/-- `step1FindBlobsToCompact` on the objects the listing returned, `listFailed` when it then ended
in an error: `needCompact` and the plan, an error, or `none` for a panic. -/
def step1FindBlobsToCompact (ar : Option ArReader) (objects : List ListObject)
    (listFailed : Bool) : Option (Except Unit (Bool × List CompactItem)) :=
  (planListing objects).map fun plan =>
    if listFailed then .error ()
    else if plan = [] then .ok (false, plan)
    else .ok (decide (compactionAtLeastAddFiles ≤ newlyAddedFiles ar plan), plan)

/-! ## Step 2 -/

/-- The error of `BlobBackend.Get` on a closed store. -/
def blobStoreClosed : Bytes := ascii "blob store is closed"

/-- Why an item did not make it into the new archive: the statistics counters
`BlobSkipForOther`, `BlobSkipForMissing`, `BlobSkipForIOFailure` and `BlobSkipForCorrupted`, and a
task the pool dropped because its context was cancelled, which no counter records. -/
inductive SkipReason
  | other (msg : Bytes)
  | missing
  | ioFailure
  | corrupted
  | dropped
deriving DecidableEq

/-- Step 2 in progress: the tasks the pool has not started, the tasks whose get found the store
open and has not returned, the hits in the channel, the new archive. -/
structure FillState where
  pending : List CompactItem
  running : List CompactItem
  queue : List (CompactItem × Hit)
  entries : List ArEntry
deriving DecidableEq

/-- One step of step 2. -/
inductive FillLabel
  /-- The `i`-th task not started runs, and its get reads the closed flag: `passes` when the store
  is open. -/
  | check (i : Nat) (passes : Bool)
  /-- The `i`-th running get returns `resp`. -/
  | task (i : Nat) (resp : GetResponse)
  /-- The pool drops the `i`-th task not started. -/
  | drop (i : Nat)
  /-- The writer takes the channel's head: `os.ReadFile` gives `data` (`none` on an error), and
  `written` says whether the zip writer managed to write the entry. -/
  | write (data : Option Bytes) (written : Bool)
deriving DecidableEq

/-- The writer goroutine's checks on one hit, then `ArWriter.Add`. -/
def fillWrite (entries : List ArEntry) (item : CompactItem) (hit : Hit) (data : Option Bytes)
    (written : Bool) : List ArEntry × Option SkipReason :=
  match data with
  | none => (entries, some .ioFailure)
  | some data =>
    if (data.length : Int) ≠ hit.size.val then (entries, some .corrupted)
    else
      let meta : EntryMeta := ⟨item.actionID, hit.outputID, hit.size, hit.time⟩
      if (meta.serializedSize + data.length : Int) ≠ item.objectSize.val then (entries, some .corrupted)
      else match arWriterAdd entries (cacheEntityNameInArchive item.actionID) meta data written with
        | .ok entries => (entries, none)
        | .error _ => (entries, some .ioFailure)

/-- One step of step 2, with the item it skips if any; `none` when the step is not possible. -/
def fillStep (s : FillState) : FillLabel → Option (FillState × Option (CompactItem × SkipReason))
  | .check i passes => do
    let item ← s.pending[i]?
    let pending := s.pending.eraseIdx i
    if passes then some (⟨pending, s.running ++ [item], s.queue, s.entries⟩, none)
    else some (⟨pending, s.running, s.queue, s.entries⟩, some (item, .other blobStoreClosed))
  | .task i resp => do
    let item ← s.running[i]?
    let running := s.running.eraseIdx i
    match resp with
    | .miss => some (⟨s.pending, running, s.queue, s.entries⟩, some (item, .missing))
    | .hit hit => some (⟨s.pending, running, s.queue ++ [(item, hit)], s.entries⟩, none)
  | .drop i => do
    let item ← s.pending[i]?
    some (⟨s.pending.eraseIdx i, s.running, s.queue, s.entries⟩, some (item, .dropped))
  | .write data written =>
    match s.queue with
    | [] => none
    | (item, hit) :: queue =>
      let (entries, skip) := fillWrite s.entries item hit data written
      some (⟨s.pending, s.running, queue, entries⟩, skip.map ((item, ·)))

/-- The states step 2 reaches from a plan. -/
inductive FillReach (plan : List CompactItem) : FillState → Prop
  | init : FillReach plan ⟨plan, [], [], []⟩
  | step {s s' : FillState} {l : FillLabel} {skip : Option (CompactItem × SkipReason)} :
      FillReach plan s → fillStep s l = some (s', skip) → FillReach plan s'

/-! ## What step 1 plans -/

/-- What the listing loop guarantees of a planned item. -/
structure Planned (listing : List ListObject) (item : CompactItem) : Prop where
  listed : ∃ obj ∈ listing, obj.key = item.objectKey ∧ obj.size = item.objectSize
  small : item.objectSize.val < compactionSmallBlobSize
  key : cacheEntityKey item.actionID = some item.objectKey

theorem cacheEntityKey_of_decode {key actionID : Bytes}
    (decoded : decodeCacheEntityKey key = some (.ok actionID)) :
    cacheEntityKey actionID = some key := by
  rcases decodeCacheEntityKey_sound key with panic | err | ⟨a, _, ok, named⟩
  · rw [panic] at decoded; cases decoded
  · rw [err] at decoded; cases decoded
  · rw [ok] at decoded
    cases decoded
    exact named

/-- The key of an ActionID lies under the listing prefix of the ActionID's keyspace, one of the
sixteen. -/
theorem cacheEntityKeyspace_prefix {actionID key : Bytes}
    (named : cacheEntityKey actionID = some key) :
    ∃ k, cacheEntityKeyspace actionID = some k ∧ k ∈ archiveKeyspaces ∧
      archiveListPrefixKey k <+: key := by
  cases actionID with
  | nil => cases named
  | cons first rest =>
    rw [cacheEntityKey_cons, Option.some.injEq] at named
    subst named
    have digit : first.toNat / 16 < 16 := by have := UInt8.toNat_lt first; omega
    refine ⟨[hexDigit (first.toNat / 16)], rfl, List.mem_map.mpr ⟨_, List.mem_range.mpr digit, rfl⟩,
      ?_⟩
    exact ⟨hexDigit (first.toNat % 16) :: ascii "/" ++ hexEncode (first :: rest), rfl⟩

/-- Every object key that `doBgUpload` writes, the `CacheEntityKey` of a non-empty ActionID,
parses back to that ActionID. It lies under the listing prefix of the ActionID's keyspace, and
the listing loop of step 1 plans it whenever the object is small: a listing of that object alone
is planned as its one item, and in any listing it is planned ahead of what the rest plans. -/
theorem cacheEntityKey_round_trip {actionID : Bytes} (nonEmpty : actionID ≠ []) :
    ∃ key k, cacheEntityKey actionID = some key ∧ decodeCacheEntityKey key = some (.ok actionID) ∧
      cacheEntityKeyspace actionID = some k ∧ k ∈ archiveKeyspaces ∧
      archiveListPrefixKey k <+: key ∧
      (∀ size : Int64, size.val < compactionSmallBlobSize →
        planListing [⟨key, size, false⟩] = some [⟨actionID, key, size⟩]) ∧
      ∀ (size : Int64) (rest : List ListObject), size.val < compactionSmallBlobSize →
        planListing (⟨key, size, false⟩ :: rest) =
          (planListing rest).map (⟨actionID, key, size⟩ :: ·) := by
  obtain ⟨key, named⟩ := Option.isSome_iff_exists.mp (isSome_cacheEntityKey.mpr nonEmpty)
  have decoded := decodeCacheEntityKey_of_cacheEntityKey named
  obtain ⟨k, keyspace, listed, under⟩ := cacheEntityKeyspace_prefix named
  have planned : ∀ (size : Int64) (rest : List ListObject), size.val < compactionSmallBlobSize →
      planListing (⟨key, size, false⟩ :: rest) =
        (planListing rest).map (⟨actionID, key, size⟩ :: ·) := fun size rest small => by
    simp [planListing, decoded, not_le.mpr small]
  exact ⟨key, k, named, decoded, keyspace, listed, under,
    fun size small => planned size [] small, planned⟩

/-- The ActionID `ab 01`: its key is `b/ab/ab01`, in keyspace `a`. -/
theorem cacheEntityKey_round_trip_ab01 :
    ([0xab, 0x01] : Bytes) ≠ [] ∧
    ∃ key k, cacheEntityKey [0xab, 0x01] = some key ∧
      decodeCacheEntityKey key = some (.ok [0xab, 0x01]) ∧
      cacheEntityKeyspace [0xab, 0x01] = some k ∧ k ∈ archiveKeyspaces ∧
      archiveListPrefixKey k <+: key ∧
      (∀ size : Int64, size.val < compactionSmallBlobSize →
        planListing [⟨key, size, false⟩] = some [⟨[0xab, 0x01], key, size⟩]) ∧
      ∀ (size : Int64) (rest : List ListObject), size.val < compactionSmallBlobSize →
        planListing (⟨key, size, false⟩ :: rest) =
          (planListing rest).map (⟨[0xab, 0x01], key, size⟩ :: ·) :=
  ⟨by decide, cacheEntityKey_round_trip (by decide)⟩

theorem planListing_planned : ∀ {objects : List ListObject} {plan : List CompactItem},
    planListing objects = some plan → ∀ item ∈ plan, Planned objects item
  | [], plan, planned => by
    cases planned
    simp
  | obj :: rest, plan, planned => by
    have later : ∀ item, Planned rest item → Planned (obj :: rest) item := fun item p =>
      ⟨let ⟨o, mem, same⟩ := p.listed; ⟨o, List.mem_cons_of_mem _ mem, same⟩, p.small, p.key⟩
    simp only [planListing] at planned
    split at planned
    · exact fun item mem => later item (planListing_planned planned item mem)
    split at planned
    · exact fun item mem => later item (planListing_planned planned item mem)
    rename_i _ notSmall
    split at planned
    · cases planned
    · exact fun item mem => later item (planListing_planned planned item mem)
    rename_i actionID decoded
    obtain ⟨plan', planned', rfl⟩ := Option.map_eq_some'.mp planned
    intro item mem
    rcases List.mem_cons.mp mem with rfl | mem
    · exact ⟨⟨obj, List.mem_cons_self _ _, rfl, rfl⟩, by simpa using notSmall,
        cacheEntityKey_of_decode decoded⟩
    · exact later item (planListing_planned planned' item mem)

theorem planListing_keys : ∀ {objects : List ListObject} {plan : List CompactItem},
    planListing objects = some plan → (plan.map (·.objectKey)).Sublist (objects.map (·.key))
  | [], plan, planned => by
    cases planned
    simp
  | obj :: rest, plan, planned => by
    simp only [planListing] at planned
    split at planned
    · exact (planListing_keys planned).cons _
    split at planned
    · exact (planListing_keys planned).cons _
    split at planned
    · cases planned
    · exact (planListing_keys planned).cons _
    obtain ⟨plan', planned', rfl⟩ := Option.map_eq_some'.mp planned
    exact (planListing_keys planned').cons₂ _

/-- Distinct keys plan distinct ActionIDs: an ActionID names one key. -/
theorem planListing_nodup {objects : List ListObject} {plan : List CompactItem}
    (planned : planListing objects = some plan) (distinct : (objects.map (·.key)).Nodup) :
    (plan.map (·.actionID)).Nodup := by
  have keys : ((plan.map (·.actionID)).map fun a => (cacheEntityKey a).getD []) =
      plan.map (·.objectKey) := by
    rw [List.map_map]
    exact List.map_congr_left fun item mem => by
      simp [Function.comp, (planListing_planned planned item mem).key]
  exact List.Nodup.of_map _ (keys ▸ (planListing_keys planned).nodup distinct)

/-- A key listed under `b/k` that names an ActionID puts that ActionID in keyspace `k`. -/
theorem cacheEntityKeyspace_of_prefix {k actionID key : Bytes} (hk : k ∈ archiveKeyspaces)
    (named : cacheEntityKey actionID = some key) (under : archiveListPrefixKey k <+: key) :
    cacheEntityKeyspace actionID = some k := by
  obtain ⟨d, _, rfl⟩ := List.mem_map.mp hk
  cases actionID with
  | nil => cases named
  | cons first rest =>
    rw [cacheEntityKey_cons, Option.some.injEq] at named
    subst named
    simp only [archiveListPrefixKey, List.append_assoc, List.prefix_append_right_inj, hexByte,
      List.cons_append, List.cons_prefix_cons, List.nil_prefix, and_true] at under
    simp [cacheEntityKeyspace, hexByte, under]

/-! ## Step 2 keeps its entries listed -/

/-- An entry the writer built from a planned item. -/
structure EntryFromItem (item : CompactItem) (e : ArEntry) : Prop where
  actionID_eq : e.meta.actionID = item.actionID
  name_eq : e.name = cacheEntityNameInArchive item.actionID
  size_eq : (e.meta.serializedSize + e.data.length : Int) = item.objectSize.val
  data_eq : (e.data.length : Int) = e.meta.size.val

/-- The writer adds at most one entry, built from the hit's item. -/
theorem fillWrite_spec {entries entries' : List ArEntry} {item : CompactItem} {hit : Hit}
    {data : Option Bytes} {written : Bool} {skip : Option SkipReason}
    (wrote : fillWrite entries item hit data written = (entries', skip)) :
    entries' = entries ∨ ∃ e, entries' = entries ++ [e] ∧ EntryFromItem item e := by
  unfold fillWrite at wrote
  split at wrote
  · exact .inl (Prod.mk.inj wrote).1.symm
  rename_i data
  split at wrote
  · exact .inl (Prod.mk.inj wrote).1.symm
  rename_i sized
  dsimp only at wrote
  split at wrote
  · exact .inl (Prod.mk.inj wrote).1.symm
  rename_i fits
  split at wrote
  · rename_i added
    simp only [arWriterAdd] at added
    split at added
    · cases added
    split at added
    · cases added
      refine .inr ⟨_, (Prod.mk.inj wrote).1.symm, rfl, rfl, ?_, ?_⟩
      · simpa using fits
      · simpa using sized
    · cases added
  · exact .inl (Prod.mk.inj wrote).1.symm

theorem perm_cons_eraseIdx {α : Type} : ∀ {l : List α} {i : Nat} {x : α},
    l[i]? = some x → l.Perm (x :: l.eraseIdx i)
  | _ :: _, 0, _, found => by
    simp only [List.getElem?_cons_zero, Option.some.injEq] at found
    subst found
    exact List.Perm.refl _
  | a :: l, i + 1, x, found => by
    simp only [List.getElem?_cons_succ] at found
    exact ((perm_cons_eraseIdx found).cons a).trans (List.Perm.swap x a _)

/-- A step of step 2 starts or drops a task, or a running get returns, or the writer takes the
channel's head and adds at most one entry built from it. -/
theorem fillStep_cases {s s' : FillState} {l : FillLabel} {skip : Option (CompactItem × SkipReason)}
    (stepped : fillStep s l = some (s', skip)) :
    (∃ i item, s.pending[i]? = some item ∧ s'.pending = s.pending.eraseIdx i ∧
      s'.queue = s.queue ∧ s'.entries = s.entries ∧
      (s'.running = s.running ∨ s'.running = s.running ++ [item])) ∨
    (∃ i item, s.running[i]? = some item ∧ s'.running = s.running.eraseIdx i ∧
      s'.pending = s.pending ∧ s'.entries = s.entries ∧
      (s'.queue = s.queue ∨ ∃ hit, s'.queue = s.queue ++ [(item, hit)])) ∨
    (∃ item hit queue, s.queue = (item, hit) :: queue ∧ s'.pending = s.pending ∧
      s'.running = s.running ∧ s'.queue = queue ∧
      (s'.entries = s.entries ∨ ∃ e, s'.entries = s.entries ++ [e] ∧ EntryFromItem item e)) := by
  cases l with
  | check i passes =>
    simp only [fillStep, Option.bind_eq_bind, Option.bind_eq_some] at stepped
    obtain ⟨item, found, stepped⟩ := stepped
    refine .inl ⟨i, item, found, ?_⟩
    split at stepped <;> (cases stepped; simp)
  | task i resp =>
    simp only [fillStep, Option.bind_eq_bind, Option.bind_eq_some] at stepped
    obtain ⟨item, found, stepped⟩ := stepped
    refine .inr (.inl ⟨i, item, found, ?_⟩)
    split at stepped <;> (cases stepped; simp)
  | drop i =>
    simp only [fillStep, Option.bind_eq_bind, Option.bind_eq_some] at stepped
    obtain ⟨item, found, stepped⟩ := stepped
    cases stepped
    exact .inl ⟨i, item, found, rfl, rfl, rfl, .inl rfl⟩
  | write data written =>
    simp only [fillStep] at stepped
    split at stepped
    · cases stepped
    rename_i item hit queue listed
    rcases wrote : fillWrite s.entries item hit data written with ⟨entries, skipped⟩
    rw [wrote] at stepped
    cases stepped
    exact .inr (.inr ⟨item, hit, queue, listed, rfl, rfl, rfl, fillWrite_spec wrote⟩)

/-- The ActionIDs that step 2 still holds: not started, running, in the channel, or in the new
archive. -/
def FillState.ids (s : FillState) : List Bytes :=
  s.pending.map (·.actionID) ++ s.running.map (·.actionID) ++ s.queue.map (·.1.actionID) ++
    s.entries.map (·.meta.actionID)

/-- Step 2's invariant: everything comes from the plan, each planned ActionID is held at most as
often as it is planned, and every entry was built from a planned item. -/
structure FillInv (plan : List CompactItem) (s : FillState) : Prop where
  pending : ∀ item ∈ s.pending, item ∈ plan
  running : ∀ item ∈ s.running, item ∈ plan
  queued : ∀ p ∈ s.queue, p.1 ∈ plan
  entries : ∀ e ∈ s.entries, ∃ item ∈ plan, EntryFromItem item e
  ids : s.ids.Subperm (plan.map (·.actionID))

theorem fillInv_init (plan : List CompactItem) : FillInv plan ⟨plan, [], [], []⟩ :=
  ⟨fun _ mem => mem, fun _ mem => (nomatch mem), fun _ mem => (nomatch mem),
    fun _ mem => (nomatch mem), by simpa [FillState.ids] using List.Subperm.refl _⟩

/-- A step holds no ActionID more often than before: it moves one on, or lets it go. -/
theorem fillStep_ids {s s' : FillState} {l : FillLabel} {skip : Option (CompactItem × SkipReason)}
    (stepped : fillStep s l = some (s', skip)) : s'.ids.Subperm s.ids := by
  refine List.subperm_ext_iff.mpr fun a _ => ?_
  rcases fillStep_cases stepped with
    ⟨i, item, found, pending, queue, entries, running⟩ |
    ⟨i, item, found, running, pending, entries, queue⟩ |
    ⟨item, hit, queue, head, pending, running, rest, entries⟩
  · have moved := ((perm_cons_eraseIdx found).map (·.actionID)).count_eq a
    rcases running with running | running <;>
      simp_all [FillState.ids, List.count_append, List.count_cons]
    omega
  · have moved := ((perm_cons_eraseIdx found).map (·.actionID)).count_eq a
    rcases queue with queue | ⟨hit, queue⟩ <;>
      simp_all [FillState.ids, List.count_append, List.count_cons]
    omega
  · rcases entries with entries | ⟨e, entries, built⟩
    · simp_all [FillState.ids, List.count_append, List.count_cons]
    · simp_all [FillState.ids, List.count_append, List.count_cons, built.actionID_eq]
      omega

theorem fillStep_inv {plan : List CompactItem} {s s' : FillState} {l : FillLabel}
    {skip : Option (CompactItem × SkipReason)} (inv : FillInv plan s)
    (stepped : fillStep s l = some (s', skip)) : FillInv plan s' := by
  have ids := (fillStep_ids stepped).trans inv.ids
  rcases fillStep_cases stepped with
    ⟨i, item, found, pending, queue, entries, running⟩ |
    ⟨i, item, found, running, pending, entries, queue⟩ |
    ⟨item, hit, queue, head, pending, running, rest, entries⟩
  · have planned : item ∈ plan := inv.pending item (List.getElem?_mem found)
    refine ⟨fun x mem => inv.pending x (List.eraseIdx_subset _ _ (pending ▸ mem)), ?_,
      queue ▸ inv.queued, entries ▸ inv.entries, ids⟩
    rcases running with running | running <;> rw [running]
    · exact inv.running
    · exact List.forall_mem_append.mpr ⟨inv.running, List.forall_mem_singleton.mpr planned⟩
  · have planned : item ∈ plan := inv.running item (List.getElem?_mem found)
    refine ⟨pending ▸ inv.pending, fun x mem => inv.running x (List.eraseIdx_subset _ _ (running ▸ mem)),
      ?_, entries ▸ inv.entries, ids⟩
    rcases queue with queue | ⟨hit, queue⟩ <;> rw [queue]
    · exact inv.queued
    · exact List.forall_mem_append.mpr ⟨inv.queued, List.forall_mem_singleton.mpr planned⟩
  · have planned : item ∈ plan := inv.queued (item, hit) (by rw [head]; exact List.mem_cons_self _ _)
    refine ⟨pending ▸ inv.pending, running ▸ inv.running,
      fun p mem => inv.queued p (by rw [head]; exact List.mem_cons_of_mem _ (rest ▸ mem)), ?_, ids⟩
    rcases entries with entries | ⟨e, entries, built⟩ <;> rw [entries]
    · exact inv.entries
    · exact List.forall_mem_append.mpr
        ⟨inv.entries, List.forall_mem_singleton.mpr ⟨item, planned, built⟩⟩

theorem FillReach.inv {plan : List CompactItem} {s : FillState} (reach : FillReach plan s) :
    FillInv plan s := by
  induction reach with
  | init => exact fillInv_init plan
  | step _ stepped ih => exact fillStep_inv ih stepped

theorem step1_plan {ar : Option ArReader} {objects : List ListObject} {listFailed : Bool}
    {needCompact : Bool} {plan : List CompactItem}
    (planned : step1FindBlobsToCompact ar objects listFailed = some (.ok (needCompact, plan))) :
    planListing objects = some plan := by
  obtain ⟨plan', found, result⟩ := Option.map_eq_some'.mp planned
  split at result
  · cases result
  split at result <;> (cases result; exact found)

/-- Step 2 from step 1's plan: every entry of the new archive is named by its meta's ActionID,
lies in keyspace `k` (so `GetBlob` looks for it in this archive), comes from a listed object whose
listed size is the entry's `SerializedSize` plus its data and is below
`CompactionSmallBlobSize`, and has `meta.Size` bytes of data; no two entries share a name. This
holds for every listing with distinct keys under `b/k`, whatever the gets return and in whatever
order their results reach the writer. -/
theorem fill_entries_listed {k : Bytes} (hk : k ∈ archiveKeyspaces) {ar : Option ArReader}
    {listing : List ListObject} {plan : List CompactItem}
    (distinct : (listing.map (·.key)).Nodup)
    (underPrefix : ∀ obj ∈ listing, archiveListPrefixKey k <+: obj.key)
    (planned : step1FindBlobsToCompact ar listing false = some (.ok (true, plan)))
    {s : FillState} (reach : FillReach plan s) :
    (∀ e ∈ s.entries,
      e.name = cacheEntityNameInArchive e.meta.actionID ∧
      cacheEntityKeyspace e.meta.actionID = some k ∧
      (∃ obj ∈ listing, cacheEntityKey e.meta.actionID = some obj.key ∧
        obj.size.val = e.meta.serializedSize + e.data.length ∧
        obj.size.val < compactionSmallBlobSize) ∧
      (e.data.length : Int) = e.meta.size.val) ∧
    (s.entries.map (·.name)).Nodup := by
  have plan_eq := step1_plan planned
  have inv := reach.inv
  have named : ∀ e ∈ s.entries, e.name = cacheEntityNameInArchive e.meta.actionID := by
    intro e mem
    obtain ⟨item, _, built⟩ := inv.entries e mem
    rw [built.name_eq, built.actionID_eq]
  refine ⟨fun e mem => ?_, ?_⟩
  · obtain ⟨item, itemMem, built⟩ := inv.entries e mem
    have p := planListing_planned plan_eq item itemMem
    obtain ⟨obj, objMem, sameKey, sameSize⟩ := p.listed
    have key : cacheEntityKey e.meta.actionID = some obj.key := by
      rw [built.actionID_eq, p.key, sameKey]
    refine ⟨named e mem, cacheEntityKeyspace_of_prefix hk key (underPrefix obj objMem),
      ⟨obj, objMem, key, ?_, ?_⟩, built.data_eq⟩
    · rw [sameSize, ← built.size_eq]
    · rw [sameSize]; exact p.small
  · obtain ⟨l, perm, sub⟩ := (List.sublist_append_right _ _).subperm.trans inv.ids
    have ids : (s.entries.map (·.meta.actionID)).Nodup :=
      perm.nodup_iff.mp (sub.nodup (planListing_nodup plan_eq distinct))
    have names : s.entries.map (·.name) = (s.entries.map (·.meta.actionID)).map hexEncode := by
      rw [List.map_map]
      exact List.map_congr_left named
    rw [names]
    exact ids.map hexEncode_injective

/-- Ten small objects of keyspace `a`, the fewest that make step 1 compact. -/
def exampleListing : List ListObject :=
  (List.range 10).map fun i => ⟨(cacheEntityKey [UInt8.ofNat (0xa0 + i)]).getD [], Int64.wrap 29, false⟩

/-- Step 1's plan for `exampleListing`. -/
def examplePlan : List CompactItem :=
  (List.range 10).map fun i =>
    ⟨[UInt8.ofNat (0xa0 + i)], (cacheEntityKey [UInt8.ofNat (0xa0 + i)]).getD [], Int64.wrap 29⟩

theorem fill_entries_listed_example :
    ∃ s : FillState, FillReach examplePlan s ∧ s.entries.length = 1 ∧
    (∀ e ∈ s.entries,
      e.name = cacheEntityNameInArchive e.meta.actionID ∧
      cacheEntityKeyspace e.meta.actionID = some [hexDigit 10] ∧
      (∃ obj ∈ exampleListing, cacheEntityKey e.meta.actionID = some obj.key ∧
        obj.size.val = e.meta.serializedSize + e.data.length ∧
        obj.size.val < compactionSmallBlobSize) ∧
      (e.data.length : Int) = e.meta.size.val) ∧
    (s.entries.map (·.name)).Nodup := by
  have reach : FillReach examplePlan ⟨examplePlan.tail, [], [],
      [⟨cacheEntityNameInArchive [0xa0], ⟨[0xa0], [1], Int64.wrap 3, ⟨0⟩⟩, [1, 2, 3]⟩]⟩ :=
    @FillReach.step _ _ _ (.write (some [1, 2, 3]) true) none
      (@FillReach.step _ _ _ (.task 0 (.hit ⟨[1], Int64.wrap 3, ⟨0⟩, .empty⟩)) none
        (@FillReach.step _ _ _ (.check 0 true) none .init rfl) rfl)
      rfl
  exact ⟨_, reach, rfl, @fill_entries_listed [hexDigit 10] (by decide) none exampleListing examplePlan
    (by decide) (by decide) rfl _ reach⟩

/-! ## The job, with the backend's `Close` -/

/-- How `work` ended. -/
inductive JobOutcome
  | failed
  | skipped
  | succeeded
deriving DecidableEq

/-- Where the job is. -/
inductive Phase
  /-- Before `SyncFromRemote`. -/
  | sync
  /-- Step 1. -/
  | findBlobs
  /-- Step 2, before `os.CreateTemp`. -/
  | createTemp (plan : List CompactItem)
  | fill (s : FillState)
  /-- Step 3: closing the archive's writer and file. -/
  | closeArchive (entries : List ArEntry)
  /-- `IngestNewArchive`, installing the archive locally. -/
  | ingest (entries : List ArEntry)
  /-- `IngestNewArchive`, uploading the archive. -/
  | upload (entries : List ArEntry)
  | finished (outcome : JobOutcome)
  /-- `DecodeCacheEntityKey` panicked. -/
  | crashed
deriving DecidableEq

/-- A compaction job of one keyspace and what it can change: the backend's closed flag and
lifecycle context, the archive installed for the keyspace (reader and file), and the remote
archive object. `skipped` lists the items step 2 skipped, with the reason. -/
structure Job where
  phase : Phase
  closed : Bool
  cancelled : Bool
  installed : Option ArReader
  remote : Option ArReader
  skipped : List (CompactItem × SkipReason)
deriving DecidableEq

/-- One step of the job or of `BlobBackend.Close`. -/
inductive JobLabel
  /-- `SyncFromRemote`; `installs` when it installs the remote archive. -/
  | sync (installs : Bool)
  /-- The listing returns `objects`, then ends in an error if `listFailed`. -/
  | list (objects : List ListObject) (listFailed : Bool)
  | createTemp (ok : Bool)
  | fill (l : FillLabel)
  /-- `getQueue.StopAndWait()` and the writer goroutine return. -/
  | fillDone
  | closeArchive (ok : Bool)
  | ingest (ok : Bool)
  | upload (ok : Bool)
  /-- `Close` sets the closed flag. -/
  | close
  /-- `Close` cancels the lifecycle context. -/
  | cancel
deriving DecidableEq

/-- `BlobBackend.Get` loads the closed flag at its entry and fails with the closed-store error
exactly when `Close` has set it; a get that passed the check runs to a miss or a hit, since it turns
every other error into a miss, whenever `Close` lands. A task of the pool is dropped only after the
context is cancelled. -/
def FillLabel.allowed (closed cancelled : Bool) : FillLabel → Bool
  | .check _ passes => passes = !closed
  | .task _ _ => true
  | .drop _ => cancelled
  | .write _ _ => true

/-- One step of the job or of `Close`; `none` when it is not possible. -/
def jobStep (j : Job) : JobLabel → Option Job
  | .close => some { j with closed := true }
  | .cancel => if j.closed then some { j with cancelled := true } else none
  | .sync installs =>
    match j.phase with
    | .sync => some { j with
        phase := .findBlobs
        installed := match installs, j.remote with
          | true, some ar => some ar
          | _, _ => j.installed }
    | _ => none
  | .list objects listFailed =>
    match j.phase with
    | .findBlobs => some { j with
        phase := match step1FindBlobsToCompact j.installed objects listFailed with
          | none => .crashed
          | some (.error _) => .finished .failed
          | some (.ok (false, _)) => .finished .skipped
          | some (.ok (true, plan)) => .createTemp plan }
    | _ => none
  | .createTemp ok =>
    match j.phase with
    | .createTemp plan =>
      some { j with phase := if ok then .fill ⟨plan, [], [], []⟩ else .finished .failed }
    | _ => none
  | .fill l =>
    match j.phase with
    | .fill s =>
      if l.allowed j.closed j.cancelled then
        (fillStep s l).map fun (s', skip) =>
          { j with phase := .fill s', skipped := j.skipped ++ skip.toList }
      else none
    | _ => none
  | .fillDone =>
    match j.phase with
    | .fill s =>
      if s.pending = [] ∧ s.running = [] ∧ s.queue = [] then
        some { j with phase := .closeArchive s.entries }
      else none
    | _ => none
  | .closeArchive ok =>
    match j.phase with
    | .closeArchive entries => some { j with phase := if ok then .ingest entries else .finished .failed }
    | _ => none
  | .ingest ok =>
    match j.phase with
    | .ingest entries =>
      if ok then some { j with phase := .upload entries, installed := some ⟨entries⟩ }
      else some { j with phase := .finished .failed }
    | _ => none
  | .upload ok =>
    match j.phase with
    | .upload entries =>
      if ok then some { j with phase := .finished .succeeded, remote := some ⟨entries⟩ }
      else some { j with phase := .finished .failed }
    | _ => none

/-- A run of labels from a job. -/
def jobRun (j : Job) : List JobLabel → Option Job
  | [] => some j
  | l :: ls => (jobStep j l).bind fun j' => jobRun j' ls

/-- A job of keyspace `a` with no archive installed or uploaded yet. -/
def jobStart : Job := ⟨.sync, false, false, none, none, []⟩

/-- `Close` lands after step 1 planned the ten items of `exampleListing`: every get finds the
store closed at its entry and fails with `blob store is closed`. -/
def closedRunToIngest : List JobLabel :=
  [.sync false, .list exampleListing false, .close, .createTemp true] ++
    List.replicate 10 (.fill (.check 0 false)) ++ [.fillDone, .closeArchive true]

/-- The failing run: with the backend closed, every planned item is skipped with the closed-store
error, yet the job reaches `IngestNewArchive`, installs the empty archive over the keyspace's
bundle and uploads it. -/
theorem job_ingests_after_close :
    jobRun jobStart closedRunToIngest = some
      ⟨.ingest [], true, false, none, none, examplePlan.map (·, .other blobStoreClosed)⟩ ∧
    jobRun jobStart (closedRunToIngest ++ [.ingest true, .upload true]) = some
      ⟨.finished .succeeded, true, false, some ⟨[]⟩, some ⟨[]⟩,
        examplePlan.map (·, .other blobStoreClosed)⟩ := by
  decide

end Gscache
