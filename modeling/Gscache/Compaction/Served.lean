import Gscache.Compaction

/-!
# What the compaction job's archive serves

Once a compaction job has ingested its new archive, the blob backend reads the keyspace's small
blobs from it through `ArStore.GetBlob`, which looks an ActionID up by its entry name and drops an
entry whose meta names another ActionID; the zip reader keeps the last entry of a name. The job
builds the archive so that neither matters: every entry is named by its meta's ActionID and lies in
the job's keyspace, and no two entries share a name (`ArchiveWF`). So `GetBlob` on the installed
archive returns, for each ActionID, exactly the entry the job packed for it.

The job keeps this over every run (`Job.Builds`): from the listing, which the bucket gives with
distinct keys under the keyspace's prefix, through step 1's plan and step 2's entries, to
`IngestNewArchive`, which installs and then uploads them.

Results:
1. `getBlob_served`: `GetBlob` on a well-formed archive returns an entry exactly when the archive
   holds it under that ActionID.
2. `jobRun_serves_packed`: over every run of a job that finishes with success, the archive it
   installed and uploaded is well formed, so `GetBlob` serves exactly its entries.
-/

namespace Gscache

/-- An archive that `GetBlob` reads as written, for keyspace `k`. -/
structure ArchiveWF (k : Bytes) (entries : List ArEntry) : Prop where
  /-- Every entry is named by its meta's ActionID. -/
  named : ∀ e ∈ entries, e.name = cacheEntityNameInArchive e.meta.actionID
  /-- Every entry's ActionID lies in keyspace `k`, so `BlobBackend.Get` looks it up here. -/
  keyspace : ∀ e ∈ entries, cacheEntityKeyspace e.meta.actionID = some k
  /-- No two entries share a name. -/
  distinct : (entries.map (·.name)).Nodup

/-! ## Lookup -/

section Lookup

variable {entries : List ArEntry} {e : ArEntry}

/-- `ArReader.Get` returns an entry of the archive with the name asked for. -/
theorem ArReader.get_mem {name : Bytes} (found : (ArReader.mk entries).get name = some e) :
    e ∈ entries ∧ e.name = name := by
  unfold ArReader.get at found
  exact ⟨List.mem_reverse.mp (List.mem_of_find?_eq_some found),
    by simpa using List.find?_some found⟩

/-- With distinct names, `ArReader.Get` finds every entry by its name. -/
theorem ArReader.get_of_nodup (distinct : (entries.map (·.name)).Nodup) (mem : e ∈ entries) :
    (ArReader.mk entries).get e.name = some e := by
  have present : ((ArReader.mk entries).get e.name).isSome := by
    unfold ArReader.get
    exact List.find?_isSome.mpr ⟨e, List.mem_reverse.mpr mem, decide_eq_true rfl⟩
  obtain ⟨x, found⟩ := Option.isSome_iff_exists.mp present
  obtain ⟨present, named⟩ := ArReader.get_mem found
  exact found.trans (congrArg some (List.inj_on_of_nodup_map distinct present mem named))

/-- `GetBlob` on a well-formed archive of keyspace `k` returns an entry exactly when the archive
holds it under the ActionID asked for. -/
theorem getBlob_served {archives : Bytes → Option ArReader} {k : Bytes} (wf : ArchiveWF k entries)
    (installed : archives k = some ⟨entries⟩) (actionID : Bytes) (e : ArEntry) :
    getBlob archives k actionID = some e ↔ e ∈ entries ∧ e.meta.actionID = actionID := by
  constructor
  · intro found
    refine ⟨?_, getBlob_actionID found⟩
    simp only [getBlob, installed, Option.bind_eq_bind, Option.some_bind, Option.bind_eq_some,
      ite_not] at found
    obtain ⟨x, got, checked⟩ := found
    split at checked
    · cases checked
      exact (ArReader.get_mem got).1
    · cases checked
  · rintro ⟨mem, rfl⟩
    simp [getBlob, installed, ← wf.named e mem, ArReader.get_of_nodup wf.distinct mem]

end Lookup

/-! ## The job builds a well-formed archive -/

/-- A plan of step 1 for keyspace `k`: planned from a listing with distinct keys under the
keyspace's prefix, as the bucket lists them. -/
def PlannedFor (k : Bytes) (plan : List CompactItem) : Prop :=
  ∃ listing : List ListObject, (listing.map (·.key)).Nodup ∧
    (∀ obj ∈ listing, archiveListPrefixKey k <+: obj.key) ∧ planListing listing = some plan

/-- Step 2 from such a plan writes a well-formed archive. -/
theorem FillReach.archiveWF {k : Bytes} (hk : k ∈ archiveKeyspaces) {plan : List CompactItem}
    (planned : PlannedFor k plan) {s : FillState} (reach : FillReach plan s) :
    ArchiveWF k s.entries := by
  obtain ⟨listing, distinct, underPrefix, plan_eq⟩ := planned
  have inv := reach.inv
  have named : ∀ e ∈ s.entries, e.name = cacheEntityNameInArchive e.meta.actionID := by
    intro e mem
    obtain ⟨item, _, built⟩ := inv.entries e mem
    rw [built.name_eq, built.actionID_eq]
  refine ⟨named, fun e mem => ?_, ?_⟩
  · obtain ⟨item, itemMem, built⟩ := inv.entries e mem
    have p := planListing_planned plan_eq item itemMem
    obtain ⟨obj, objMem, sameKey, -⟩ := p.listed
    exact cacheEntityKeyspace_of_prefix hk (by rw [built.actionID_eq, p.key, sameKey])
      (underPrefix obj objMem)
  · obtain ⟨l, perm, sub⟩ := (List.sublist_append_right _ _).subperm.trans inv.ids
    have ids : (s.entries.map (·.meta.actionID)).Nodup :=
      perm.nodup_iff.mp (sub.nodup (planListing_nodup plan_eq distinct))
    rw [show s.entries.map (·.name) = (s.entries.map (·.meta.actionID)).map hexEncode by
      rw [List.map_map]; exact List.map_congr_left named]
    exact ids.map hexEncode_injective

/-- What the job of keyspace `k` holds of the archive it builds, at each phase: step 1's plan
comes from the listing, step 2's entries are well formed, and once `IngestNewArchive` has
installed them they are the job's installed archive, and once it has uploaded them its remote
one. -/
def Job.Builds (k : Bytes) (j : Job) : Prop :=
  match j.phase with
  | .createTemp plan => PlannedFor k plan
  | .fill s => ∃ plan, PlannedFor k plan ∧ FillReach plan s
  | .closeArchive entries | .ingest entries => ArchiveWF k entries
  | .upload entries => ArchiveWF k entries ∧ j.installed = some ⟨entries⟩
  | .finished .succeeded => ∃ entries, ArchiveWF k entries ∧ j.installed = some ⟨entries⟩ ∧
      j.remote = some ⟨entries⟩
  | _ => True

/-- The bucket's listing for keyspace `k`: distinct keys under the keyspace's prefix. -/
def ListedFor (k : Bytes) : JobLabel → Prop
  | .list objects _ =>
    (objects.map (·.key)).Nodup ∧ ∀ obj ∈ objects, archiveListPrefixKey k <+: obj.key
  | _ => True

instance ListedFor.decidable (k : Bytes) : (l : JobLabel) → Decidable (ListedFor k l)
  | .list _ _ => inferInstanceAs (Decidable (_ ∧ _))
  | .sync _ | .createTemp _ | .fill _ | .fillDone | .closeArchive _ | .ingest _ | .upload _
  | .close | .cancel => isTrue trivial

section Builds

variable {k : Bytes} {j j' : Job}

/-- Every step keeps `Job.Builds`. -/
theorem Job.Builds.step (hk : k ∈ archiveKeyspaces) (inv : j.Builds k) {l : JobLabel}
    (listed : ListedFor k l) (h : jobStep j l = some j') : j'.Builds k := by
  cases l with
  | close =>
    cases h
    exact inv
  | cancel =>
    simp only [jobStep] at h
    split at h
    · cases h
      exact inv
    · cases h
  | sync installs =>
    simp only [jobStep] at h
    split at h <;> cases h
    trivial
  | list objects listFailed =>
    simp only [jobStep] at h
    split at h <;> cases h
    cases planned : step1FindBlobsToCompact j.installed objects listFailed with
    | none => trivial
    | some result =>
      rcases result with _ | ⟨_ | _, plan⟩
      · trivial
      · trivial
      · exact ⟨objects, listed.1, listed.2, step1_plan planned⟩
  | createTemp ok =>
    simp only [jobStep] at h
    split at h
    · rename_i plan phase
      simp only [Job.Builds, phase] at inv
      cases ok <;> cases h
      · trivial
      · exact ⟨plan, inv, .init⟩
    · cases h
  | fill l =>
    simp only [jobStep] at h
    split at h
    · rename_i s phase
      simp only [Job.Builds, phase] at inv
      obtain ⟨plan, planned, reach⟩ := inv
      split at h
      · obtain ⟨⟨s', skip⟩, stepped, rfl⟩ := Option.map_eq_some'.mp h
        exact ⟨plan, planned, reach.step stepped⟩
      · cases h
    · cases h
  | fillDone =>
    simp only [jobStep] at h
    split at h
    · rename_i s phase
      simp only [Job.Builds, phase] at inv
      obtain ⟨plan, planned, reach⟩ := inv
      split at h
      · cases h
        exact reach.archiveWF hk planned
      · cases h
    · cases h
  | closeArchive ok =>
    simp only [jobStep] at h
    split at h
    · rename_i entries phase
      simp only [Job.Builds, phase] at inv
      cases ok <;> cases h
      · trivial
      · exact inv
    · cases h
  | ingest ok =>
    simp only [jobStep] at h
    split at h
    · rename_i entries phase
      simp only [Job.Builds, phase] at inv
      cases ok <;> cases h
      · trivial
      · exact ⟨inv, rfl⟩
    · cases h
  | upload ok =>
    simp only [jobStep] at h
    split at h
    · rename_i entries phase
      simp only [Job.Builds, phase] at inv
      cases ok <;> cases h
      · trivial
      · exact ⟨entries, inv.1, inv.2, rfl⟩
    · cases h

theorem Job.Builds.run (hk : k ∈ archiveKeyspaces) :
    ∀ {ls : List JobLabel} {j j' : Job}, j.Builds k → (∀ l ∈ ls, ListedFor k l) →
      jobRun j ls = some j' → j'.Builds k
  | [], _, _, inv, _, ran => by cases ran; exact inv
  | l :: ls, _, _, inv, listed, ran => by
    obtain ⟨_, stepped, rest⟩ := Option.bind_eq_some.mp ran
    exact Job.Builds.run hk (inv.step hk (listed l (List.mem_cons_self _ _)) stepped)
      (fun l' mem => listed l' (List.mem_cons_of_mem _ mem)) rest

end Builds

/-- Over every run of a compaction job of keyspace `k`, from its start and with the bucket listing
distinct keys under the keyspace's prefix: once the job has finished with success, the archive it
installed is the one it uploaded, it is well formed, and `GetBlob` on it returns an entry exactly
when the job packed it under the ActionID asked for. -/
theorem jobRun_serves_packed {k : Bytes} (hk : k ∈ archiveKeyspaces) {j j' : Job}
    {ls : List JobLabel} (start : j.phase = .sync) (listed : ∀ l ∈ ls, ListedFor k l)
    (ran : jobRun j ls = some j') (succeeded : j'.phase = .finished .succeeded) :
    ∃ entries, j'.installed = some ⟨entries⟩ ∧ j'.remote = some ⟨entries⟩ ∧ ArchiveWF k entries ∧
      ∀ archives : Bytes → Option ArReader, archives k = j'.installed →
        ∀ actionID e, getBlob archives k actionID = some e ↔
          e ∈ entries ∧ e.meta.actionID = actionID := by
  have built : j'.Builds k := Job.Builds.run hk (by simp [Job.Builds, start]) listed ran
  simp only [Job.Builds, succeeded] at built
  obtain ⟨entries, wf, installed, remote⟩ := built
  exact ⟨entries, installed, remote, wf, fun archives found =>
    getBlob_served wf (found.trans installed)⟩

/-- The job of keyspace `a` on `exampleListing`: the first planned item is a hit that the writer
packs, the nine others miss, and the job installs and uploads the archive of one entry. -/
def packRun : List JobLabel :=
  [.sync false, .list exampleListing false, .createTemp true, .fill (.check 0 true),
    .fill (.task 0 (.hit ⟨[1], Int64.wrap 3, ⟨0⟩, .empty⟩)), .fill (.write (some [1, 2, 3]) true)] ++
    List.replicate 9 (.fill (.check 0 true)) ++ List.replicate 9 (.fill (.task 0 .miss)) ++
    [.fillDone, .closeArchive true, .ingest true, .upload true]

theorem jobRun_serves_packed_packRun :
    [hexDigit 10] ∈ archiveKeyspaces ∧ jobStart.phase = .sync ∧
      (∀ l ∈ packRun, ListedFor [hexDigit 10] l) ∧
      ∃ j', jobRun jobStart packRun = some j' ∧ j'.phase = .finished .succeeded ∧
        ∃ entries, j'.installed = some ⟨entries⟩ ∧ j'.remote = some ⟨entries⟩ ∧
          ArchiveWF [hexDigit 10] entries ∧
          ∀ archives : Bytes → Option ArReader, archives [hexDigit 10] = j'.installed →
            ∀ actionID e, getBlob archives [hexDigit 10] actionID = some e ↔
              e ∈ entries ∧ e.meta.actionID = actionID :=
  have keyspace : [hexDigit 10] ∈ archiveKeyspaces := by decide
  have listed : ∀ l ∈ packRun, ListedFor [hexDigit 10] l := by decide
  have ran : ∃ j', jobRun jobStart packRun = some j' ∧ j'.phase = .finished .succeeded :=
    ⟨_, rfl, rfl⟩
  let ⟨j', run, succeeded⟩ := ran
  ⟨keyspace, rfl, listed, j', run, succeeded,
    jobRun_serves_packed keyspace rfl listed run succeeded⟩

end Gscache
