import Gscache.Archive

/-!
# The local archive store

`ArLocalStore` (`internal/cache/backends/blob/arlocalstore.go`) keeps one opened BlobArchive per
keyspace and the archive files under `<workDir>/blobar/`. `Put` writes a new archive to
`<keyspace>.zip.tmp.<uniqueId>`, opens it with `NewArReader`, renames it over `<keyspace>.zip`,
and only then installs the new reader; `LoadLocal` installs the archive file already there.

`NewArReader` (`zip.OpenReader` and the JSON meta of every entry comment) is a parameter,
`newArReader`: the bytes it accepts and the reader it builds from them. Every file operation can
fail, the `os.Remove` of the cleanup included, whose error `Put` ignores; `PutIO` and the flags of
`loadLocal` say which operations succeed. The `uniqueId` of `gonanoid.Must(8)` is a counter of
the store, and `Fresh` says that no temporary file has an id the counter has not reached yet.
The calls are taken one after another, as in the claim: `Put` holds no lock across its file
operations.

Results:
1. `put_leaves_tmp`: a `Put` whose copy fails and whose cleanup `os.Remove` fails leaves its
   temporary file in the archive directory.
2. `arLocalStore_atomic`: a successful `Put` leaves exactly the streamed bytes at the archive
   path, which `NewArReader` accepts, and installs their reader; a failed one leaves the readers
   and the archive file as they were, and the archive directory too unless its cleanup failed, in
   which case only its own temporary file was added. Over every sequence of `LoadLocal` and `Put`
   calls, the archive file of a keyspace stays absent or accepted by `NewArReader`, and its
   installed reader is the reader of the file.
-/

namespace Gscache

/-- A file of the archive directory. -/
inductive ArPath
  /-- `ArchiveFilePath(workDir, keyspace)`: `<keyspace>.zip`. -/
  | archive (keyspace : Bytes)
  /-- `<keyspace>.zip.tmp.<uniqueId>`. -/
  | tmp (keyspace : Bytes) (uniqueId : Nat)
deriving DecidableEq

/-- The store: the archive directory, the installed readers and the next `uniqueId`. -/
structure ArLocalStore where
  files : ArPath → Option Bytes
  readers : Bytes → Option ArReader
  nextId : Nat

/-- `NewArLocalStore`: no reader is installed yet. -/
def newArLocalStore (files : ArPath → Option Bytes) (nextId : Nat) : ArLocalStore :=
  ⟨files, fun _ => none, nextId⟩

/-- Which file operations of one `Put` succeed: `os.Create`, `io.Copy` (which has written
`copied` bytes when it fails), the open of `NewArReader`, `os.Rename`, and the `os.Remove` of the
cleanup. -/
structure PutIO where
  createOk : Bool
  copyOk : Bool
  copied : Nat
  openOk : Bool
  renameOk : Bool
  removeOk : Bool
deriving DecidableEq

/-- The errors of `Put`. -/
inductive ArPutError
  /-- `failed to create file`. -/
  | create
  /-- `failed to write to file`: the stream or the write failed. -/
  | write
  /-- `failed to read as BlobArchive`. -/
  | invalid
  /-- `failed to rename file`. -/
  | rename
deriving DecidableEq

/-- The errors of `LoadLocal`. -/
inductive ArLoadError
  /-- The error of `os.Stat` other than a missing file. -/
  | stat
  /-- `failed to read as BlobArchive`: the file is broken. -/
  | broken
deriving DecidableEq

namespace ArLocalStore

/-- `os.Remove` of the temporary file `tmp`, its error ignored. -/
def cleanup (s : ArLocalStore) (tmp : ArPath) (removeOk : Bool) : ArLocalStore :=
  if removeOk then { s with files := Function.update s.files tmp none } else s

/-- `NewArReader(path)` on the file at `path`. -/
def openReader (newArReader : Bytes → Option ArReader) (s : ArLocalStore) (path : ArPath)
    (openOk : Bool) : Option ArReader :=
  if openOk then (s.files path).bind newArReader else none

/-- `ArLocalStore.Put(keyspace, r)`, where `r` yields `stream` and then `EOF`, or an error if
`streamErr`. -/
def put (newArReader : Bytes → Option ArReader) (s : ArLocalStore) (keyspace stream : Bytes)
    (streamErr : Bool) (io : PutIO) : ArLocalStore × Except ArPutError Unit :=
  let tmp := ArPath.tmp keyspace s.nextId
  let s := { s with nextId := s.nextId + 1 }
  if !io.createOk then (s, .error .create)
  else if streamErr || !io.copyOk then
    ({ s with files := Function.update s.files tmp (some (stream.take io.copied)) }.cleanup tmp
      io.removeOk, .error .write)
  else
    let s := { s with files := Function.update s.files tmp (some stream) }
    match s.openReader newArReader tmp io.openOk with
    | none => (s.cleanup tmp io.removeOk, .error .invalid)
    | some reader =>
      if !io.renameOk then (s.cleanup tmp io.removeOk, .error .rename)
      else
        ({ s with
          files := Function.update (Function.update s.files tmp none) (.archive keyspace) (some stream)
          readers := Function.update s.readers keyspace (some reader) }, .ok ())

/-- `ArLocalStore.LoadLocal(keyspace)`: `statOk` says whether `os.Stat` answered, and `openOk`
whether `NewArReader` could read the file. -/
def loadLocal (newArReader : Bytes → Option ArReader) (s : ArLocalStore) (keyspace : Bytes)
    (statOk openOk : Bool) : ArLocalStore × Except ArLoadError Unit :=
  if !statOk then (s, .error .stat)
  else match s.files (.archive keyspace) with
    | none => (s, .ok ())
    | some _ =>
      match s.openReader newArReader (.archive keyspace) openOk with
      | none => (s, .error .broken)
      | some reader => ({ s with readers := Function.update s.readers keyspace (some reader) }, .ok ())

/-- `ArLocalStore.Get(keyspace)`. -/
def get (s : ArLocalStore) (keyspace : Bytes) : Option ArReader := s.readers keyspace

/-- No temporary file has an id that the counter has not reached. -/
def Fresh (s : ArLocalStore) : Prop := ∀ keyspace id, s.nextId ≤ id → s.files (.tmp keyspace id) = none

/-! ## What one call does -/

theorem openReader_some {newArReader : Bytes → Option ArReader} {s : ArLocalStore} {path : ArPath}
    {openOk : Bool} {reader : ArReader} (opened : s.openReader newArReader path openOk = some reader) :
    ∃ b, s.files path = some b ∧ newArReader b = some reader := by
  unfold openReader at opened
  split at opened
  · exact Option.bind_eq_some.mp opened
  · cases opened

/-- A failed `Put` removes its temporary file, unless the removal fails too. -/
theorem cleanup_written (s : ArLocalStore) (tmp : ArPath) (content : Bytes) (removeOk : Bool) :
    ∃ files, { s with files := Function.update s.files tmp (some content) }.cleanup tmp removeOk =
        ⟨files, s.readers, s.nextId⟩ ∧
      (files = Function.update s.files tmp none ∨
        (removeOk = false ∧ ∃ c, files = Function.update s.files tmp (some c))) := by
  cases removeOk
  · exact ⟨_, rfl, .inr ⟨rfl, content, rfl⟩⟩
  · exact ⟨_, rfl, .inl (Function.update_idem _ _ _)⟩

/-- Everything a `Put` can do: succeed, moving the streamed bytes, which `NewArReader` accepts,
from its temporary file to the archive path and installing their reader; or fail with the
readers as they were, and the archive directory as it was, or with its temporary file removed,
or, when the cleanup failed, with its temporary file left. -/
theorem put_cases (newArReader : Bytes → Option ArReader) (s : ArLocalStore)
    (keyspace stream : Bytes) (streamErr : Bool) (io : PutIO) :
    (∃ reader, newArReader stream = some reader ∧
      s.put newArReader keyspace stream streamErr io =
        (⟨Function.update (Function.update s.files (.tmp keyspace s.nextId) none)
          (.archive keyspace) (some stream),
          Function.update s.readers keyspace (some reader), s.nextId + 1⟩, .ok ())) ∨
    (∃ e files, s.put newArReader keyspace stream streamErr io =
        (⟨files, s.readers, s.nextId + 1⟩, .error e) ∧
      (files = s.files ∨ files = Function.update s.files (.tmp keyspace s.nextId) none ∨
        (io.removeOk = false ∧
          ∃ content, files = Function.update s.files (.tmp keyspace s.nextId) (some content)))) := by
  have failed : ∀ content (e : ArPutError), ∃ e' files,
      ({ { s with nextId := s.nextId + 1 } with
          files := Function.update s.files (.tmp keyspace s.nextId) (some content) }.cleanup
        (.tmp keyspace s.nextId) io.removeOk, (.error e : Except ArPutError Unit)) =
        (⟨files, s.readers, s.nextId + 1⟩, .error e') ∧
      (files = s.files ∨ files = Function.update s.files (.tmp keyspace s.nextId) none ∨
        (io.removeOk = false ∧
          ∃ content, files = Function.update s.files (.tmp keyspace s.nextId) (some content))) :=
    fun content e =>
      let ⟨files, cleaned, left⟩ := cleanup_written { s with nextId := s.nextId + 1 }
        (.tmp keyspace s.nextId) content io.removeOk
      ⟨e, files, congrArg (Prod.mk · _) cleaned, .inr left⟩
  unfold put
  dsimp only
  split
  · exact .inr ⟨_, _, rfl, .inl rfl⟩
  · split
    · exact .inr (failed _ _)
    · split
      · exact .inr (failed _ _)
      · rename_i reader opened
        split
        · exact .inr (failed _ _)
        · obtain ⟨b, written, accepted⟩ := openReader_some opened
          simp only [Function.update_same, Option.some.injEq] at written
          exact .inl ⟨reader, written ▸ accepted, by rw [Function.update_idem]⟩

/-- A `Put` writes only its temporary file and the archive of its keyspace. -/
theorem put_files_other (newArReader : Bytes → Option ArReader) (s : ArLocalStore)
    (keyspace stream : Bytes) (streamErr : Bool) (io : PutIO) {p : ArPath}
    (notTmp : p ≠ .tmp keyspace s.nextId) (notArchive : p ≠ .archive keyspace) :
    (s.put newArReader keyspace stream streamErr io).1.files p = s.files p := by
  rcases put_cases newArReader s keyspace stream streamErr io with
    ⟨_, _, put⟩ | ⟨_, files, put, left⟩ <;> rw [put]
  · simp [Function.update_noteq, notTmp, notArchive]
  · rcases left with rfl | rfl | ⟨_, _, rfl⟩ <;> simp [Function.update_noteq, notTmp]

/-- Every `Put` takes the next id, whether it succeeds or not. -/
theorem put_nextId (newArReader : Bytes → Option ArReader) (s : ArLocalStore)
    (keyspace stream : Bytes) (streamErr : Bool) (io : PutIO) :
    (s.put newArReader keyspace stream streamErr io).1.nextId = s.nextId + 1 := by
  rcases put_cases newArReader s keyspace stream streamErr io with
    ⟨_, _, put⟩ | ⟨_, _, put, _⟩ <;> rw [put]

/-- `Put` keeps the temporary files fresh: its own id is behind the counter afterwards. -/
theorem put_fresh {newArReader : Bytes → Option ArReader} {s : ArLocalStore} (fresh : s.Fresh)
    (keyspace stream : Bytes) (streamErr : Bool) (io : PutIO) :
    (s.put newArReader keyspace stream streamErr io).1.Fresh := by
  intro keyspace' id later
  rw [put_nextId] at later
  have notTmp : ArPath.tmp keyspace' id ≠ .tmp keyspace s.nextId := by
    intro same
    cases same
    omega
  rw [put_files_other newArReader s keyspace stream streamErr io notTmp nofun]
  exact fresh keyspace' id (by omega)

/-- `LoadLocal` changes nothing but the installed reader of its keyspace. -/
theorem loadLocal_files (newArReader : Bytes → Option ArReader) (s : ArLocalStore)
    (keyspace : Bytes) (statOk openOk : Bool) :
    (s.loadLocal newArReader keyspace statOk openOk).1.files = s.files ∧
      (s.loadLocal newArReader keyspace statOk openOk).1.nextId = s.nextId := by
  unfold loadLocal
  (repeat' split) <;> exact ⟨rfl, rfl⟩

/-! ## Runs of calls -/

/-- A call of the store: `Put` with its stream and the outcome of its file operations, or
`LoadLocal` with the outcomes of `os.Stat` and `NewArReader`. `Get` changes nothing. -/
inductive ArCall
  | put (keyspace stream : Bytes) (streamErr : Bool) (io : PutIO)
  | loadLocal (keyspace : Bytes) (statOk openOk : Bool)

/-- The store after one call. -/
def call (newArReader : Bytes → Option ArReader) (s : ArLocalStore) : ArCall → ArLocalStore
  | .put keyspace stream streamErr io => (s.put newArReader keyspace stream streamErr io).1
  | .loadLocal keyspace statOk openOk => (s.loadLocal newArReader keyspace statOk openOk).1

/-- The store after a sequence of calls. -/
def runCalls (newArReader : Bytes → Option ArReader) (s : ArLocalStore) (calls : List ArCall) :
    ArLocalStore :=
  calls.foldl (call newArReader) s

/-- The temporary files stay fresh over every sequence of calls. -/
theorem runCalls_fresh {newArReader : Bytes → Option ArReader} {s : ArLocalStore}
    (fresh : s.Fresh) (calls : List ArCall) : (runCalls newArReader s calls).Fresh := by
  induction calls generalizing s with
  | nil => exact fresh
  | cons c calls ih =>
    refine ih ?_
    cases c with
    | put keyspace stream streamErr io => exact put_fresh fresh keyspace stream streamErr io
    | loadLocal keyspace statOk openOk =>
      have ⟨files, next⟩ := loadLocal_files newArReader s keyspace statOk openOk
      intro keyspace' id later
      simp only [call, files] at later ⊢
      exact fresh keyspace' id (next ▸ later)

/-- The archive file of `keyspace` is absent or accepted by `NewArReader`, and the installed
reader is the reader of that file. -/
structure Complete (newArReader : Bytes → Option ArReader) (s : ArLocalStore) (keyspace : Bytes) :
    Prop where
  file : ∀ b, s.files (.archive keyspace) = some b → ∃ r, newArReader b = some r
  reader : ∀ r, s.get keyspace = some r →
    ∃ b, s.files (.archive keyspace) = some b ∧ newArReader b = some r

variable {newArReader : Bytes → Option ArReader} {s : ArLocalStore} {keyspace : Bytes}

/-- `Complete` reads only the archive file and the reader of its keyspace. -/
theorem Complete.of_same (complete : Complete newArReader s keyspace) {s' : ArLocalStore}
    (file : s'.files (.archive keyspace) = s.files (.archive keyspace))
    (reader : s'.readers keyspace = s.readers keyspace) : Complete newArReader s' keyspace :=
  ⟨file ▸ complete.file,
    fun r installed => file ▸ complete.reader r (reader.symm.trans installed)⟩

/-- Installing the reader of a file that the archive path holds. -/
theorem Complete.installed {b : Bytes} {r : ArReader} (file : s.files (.archive keyspace) = some b)
    (accepted : newArReader b = some r) (reader : s.readers keyspace = some r) :
    Complete newArReader s keyspace :=
  ⟨fun _ same => ⟨r, Option.some.inj (file.symm.trans same) ▸ accepted⟩,
    fun _ installed => ⟨b, file, accepted.trans (reader.symm.trans installed)⟩⟩

/-- A `Put` on any keyspace keeps `Complete`: a successful one on `keyspace` installs the reader
of the bytes it moved to the archive path; every other one leaves both as they were. -/
theorem put_complete (complete : Complete newArReader s keyspace) (keyspace' stream : Bytes)
    (streamErr : Bool) (io : PutIO) :
    Complete newArReader (s.put newArReader keyspace' stream streamErr io).1 keyspace := by
  rcases put_cases newArReader s keyspace' stream streamErr io with
    ⟨reader, accepted, put⟩ | ⟨_, files, put, left⟩ <;> rw [put]
  · by_cases same : keyspace' = keyspace
    · subst same
      exact .installed (by simp) accepted (by simp)
    · have other : ArPath.archive keyspace ≠ .archive keyspace' := fun h => same (by cases h; rfl)
      exact complete.of_same (by simp [Function.update_noteq, other])
        (Function.update_noteq (Ne.symm same) _ _)
  · exact complete.of_same (by rcases left with rfl | rfl | ⟨_, _, rfl⟩ <;> simp) rfl

theorem loadLocal_complete (complete : Complete newArReader s keyspace) (keyspace' : Bytes)
    (statOk openOk : Bool) :
    Complete newArReader (s.loadLocal newArReader keyspace' statOk openOk).1 keyspace := by
  unfold loadLocal
  split
  · exact complete
  · split
    · exact complete
    · split
      · exact complete
      · rename_i reader opened
        by_cases same : keyspace' = keyspace
        · subst same
          have ⟨_, file, accepted⟩ := openReader_some opened
          exact .installed file accepted (Function.update_same _ _ _)
        · exact complete.of_same rfl (Function.update_noteq (Ne.symm same) _ _)

/-- `Complete` holds after every sequence of calls from a store where it holds. -/
theorem runCalls_complete (complete : Complete newArReader s keyspace) (calls : List ArCall) :
    Complete newArReader (runCalls newArReader s calls) keyspace := by
  induction calls generalizing s with
  | nil => exact complete
  | cons c calls ih =>
    refine ih ?_
    cases c with
    | put keyspace' stream streamErr io => exact put_complete complete keyspace' stream streamErr io
    | loadLocal keyspace' statOk openOk => exact loadLocal_complete complete keyspace' statOk openOk

/-! ## Atomicity of `Put` -/

/-- The cleanup's `os.Remove` error is ignored: a `Put` whose copy fails after two bytes, and
whose removal of the temporary file fails too, returns its error and leaves
`a.zip.tmp.<uniqueId>`, with the two bytes in it, in an archive directory that was empty. -/
theorem put_leaves_tmp :
    ∃ s', (newArLocalStore (fun _ => none) 0).put (fun _ => none) [97] [1, 2, 3] false
        ⟨true, false, 2, true, true, false⟩ = (s', .error .write) ∧
      (newArLocalStore (fun _ => none) 0).files (.tmp [97] 0) = none ∧
      s'.files (.tmp [97] 0) = some [1, 2] :=
  ⟨_, rfl, rfl, rfl⟩

/-- A `Put` on a store whose temporary files are fresh succeeds, writing exactly the streamed
bytes, which `NewArReader` accepts, to the archive path and installing their reader, and changing
no other file or reader; or it fails, leaving the readers and the archive directory as they were,
except for its own temporary file when the cleanup's `os.Remove` failed. The temporary files stay
fresh. And from an archive directory where the archive of `keyspace` is absent or accepted by
`NewArReader`, after any sequence of `LoadLocal` and `Put` calls the archive file and the
installed reader of `keyspace` are the complete archive that `NewArReader` accepts. -/
theorem arLocalStore_atomic (newArReader : Bytes → Option ArReader) :
    (∀ (s : ArLocalStore) (keyspace stream : Bytes) (streamErr : Bool) (io : PutIO), s.Fresh →
      (s.put newArReader keyspace stream streamErr io).1.Fresh ∧
      ((∃ reader, newArReader stream = some reader ∧
        s.put newArReader keyspace stream streamErr io =
          (⟨Function.update s.files (.archive keyspace) (some stream),
            Function.update s.readers keyspace (some reader), s.nextId + 1⟩, .ok ())) ∨
      (∃ e files, s.put newArReader keyspace stream streamErr io =
          (⟨files, s.readers, s.nextId + 1⟩, .error e) ∧
        (files = s.files ∨ (io.removeOk = false ∧
          ∃ content, files = Function.update s.files (.tmp keyspace s.nextId) (some content)))))) ∧
    (∀ (files : ArPath → Option Bytes) (nextId : Nat) (keyspace : Bytes) (calls : List ArCall),
      (∀ b, files (.archive keyspace) = some b → ∃ r, newArReader b = some r) →
      Complete newArReader (runCalls newArReader (newArLocalStore files nextId) calls) keyspace) := by
  refine ⟨fun s keyspace stream streamErr io fresh => ⟨put_fresh fresh keyspace stream streamErr io, ?_⟩,
    fun files nextId keyspace calls accepted => runCalls_complete ⟨accepted, fun _ installed => Option.noConfusion installed⟩ calls⟩
  have unused : Function.update s.files (.tmp keyspace s.nextId) none = s.files :=
    Function.update_eq_self_iff.mpr (fresh keyspace s.nextId le_rfl).symm
  rcases put_cases newArReader s keyspace stream streamErr io with
    ⟨reader, accepted, put⟩ | ⟨e, files, put, left⟩
  · exact .inl ⟨reader, accepted, by rw [put, unused]⟩
  · refine .inr ⟨e, files, put, ?_⟩
    rcases left with same | removed | left
    · exact .inl same
    · exact .inl (removed.trans unused)
    · exact .inr left

/-- Witness: a `Put` on an empty archive directory, and a run of a `Put` and a `LoadLocal` from
it, with a `NewArReader` that accepts only `PK`. -/
theorem arLocalStore_atomic_pk :
    (newArLocalStore (fun _ => none) 0).Fresh ∧
    ((newArLocalStore (fun _ => none) 0).put (fun b => if b = [80, 75] then some ⟨[]⟩ else none)
      [97] [80, 75] false ⟨true, true, 2, true, true, true⟩).1.Fresh ∧
    (∀ b, (fun _ => none : ArPath → Option Bytes) (.archive [97]) = some b →
      ∃ r, (fun b => if b = [80, 75] then some (⟨[]⟩ : ArReader) else none) b = some r) ∧
    Complete (fun b => if b = [80, 75] then some ⟨[]⟩ else none)
      (runCalls (fun b => if b = [80, 75] then some ⟨[]⟩ else none)
        (newArLocalStore (fun _ => none) 0)
        [.put [97] [80, 75] false ⟨true, true, 2, true, true, true⟩, .loadLocal [97] true true])
      [97] :=
  have fresh : (newArLocalStore (fun _ => none) 0).Fresh := fun _ _ _ => rfl
  have accepted : ∀ b, (fun _ => none : ArPath → Option Bytes) (.archive [97]) = some b →
      ∃ r, (fun b => if b = [80, 75] then some (⟨[]⟩ : ArReader) else none) b = some r := nofun
  ⟨fresh, ((arLocalStore_atomic _).1 _ [97] [80, 75] false _ fresh).1, accepted,
    (arLocalStore_atomic _).2 _ 0 [97] _ accepted⟩

end ArLocalStore

end Gscache
