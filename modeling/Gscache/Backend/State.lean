import Gscache.Archive
import Mathlib.Logic.Function.Basic

/-!
# The backends as a concurrent system: state

A daemon serves the `Get` and `Put` calls of its clients through one backend: `LocalBackend`
(`internal/cache/backends/local/local.go`) alone, or `BlobBackend`, which reads and writes the
disk through a `LocalBackend` of its own (`diskStore`). Calls run concurrently.

The state holds the data directory, the bucket's standalone objects, the archives installed per
keyspace, the two closed flags, the four single-flight groups (`sfGet` and `sfPut` of the local
backend, `sfGet` and `sfUpload` of the blob backend) and every call with its program point. A
call is never removed: its last program point keeps what it returned. A nested call
(`diskStore.Get`, `diskStore.Put`, the upload that `Put` schedules) is a call of its own; its
caller waits for the nested call's last program point.

The bucket is keyed by object key. Every other object (archives, objects of other daemons) is
left out.

A panic in a request's goroutine does not end the daemon: the router's `gin.Recovery()`
(`Server.newRouter`) recovers it and answers 500. The panicking call ends there (`panicked`) and takes no
more steps. `singleflight`'s deferred cleanup deletes the flight the call leads, and the calls that
wait for it in `Do` panic in turn, as does a caller waiting for it in the same goroutine.
`crashed` records that some call has panicked.
-/

namespace Gscache

/-- The backend the daemon's clients call. -/
inductive BackendKind
  | localBackend
  | blobBackend
deriving DecidableEq

/-! ## Errors -/

/-- The errors `LocalBackend.get` returns; `Get` logs them and answers a miss. -/
inductive LocalGetError
  /-- `os.Open` of the action file failed, other than by not finding it. -/
  | openAction
  /-- `failed to read entry metadata`. -/
  | readMeta
  /-- `action ID mismatch`. -/
  | actionIDMismatch
  /-- `failed to prepare empty output file`. -/
  | emptyOutput
  /-- `failed to stat output file`. -/
  | statOutput
  /-- `output path is a directory, expected a file`. -/
  | outputIsDir
  /-- `output file size mismatch`. -/
  | outputSizeMismatch
deriving DecidableEq

/-- The errors `LocalBackend.put` returns. -/
inductive LocalPutError
  /-- `failed to create output file`. -/
  | createOutput
  /-- `failed to write output body`: reading the body failed. -/
  | writeOutput
  /-- `body size mismatch: expected <BodySize> according to meta, got <n>`. -/
  | bodySizeMismatch (expected : Int64) (got : Nat)
  /-- `failed to rename output file`. -/
  | renameOutput
  /-- `failed to prepare empty output file`. -/
  | emptyOutput
  /-- `failed to create action file`. -/
  | createAction
  /-- `failed to rename action file`. -/
  | renameAction
deriving DecidableEq

/-- The errors of the public `Get`: only a closed store. -/
inductive GetError
  /-- `local cache store is closed`. -/
  | localClosed
  /-- `blob store is closed`. -/
  | blobClosed
deriving DecidableEq

/-- The errors of the public `Put`. -/
inductive PutError
  /-- `local cache store is closed`. -/
  | localClosed
  /-- An error of `LocalBackend.put`. -/
  | localPut (e : LocalPutError)
  /-- `blob store is closed`. -/
  | blobClosed
  /-- `failed to put entry in disk store: <e>`. -/
  | diskStore (e : PutError)
deriving DecidableEq

/-- The errors `BlobBackend.get` returns; `Get` logs them and answers a miss. -/
inductive BlobGetError
  /-- `actionID must be specified in GetRequest`. -/
  | actionIDEmpty
  /-- `failed to prepare empty output file`. -/
  | emptyOutput
  /-- `diskStore.Get` failed. -/
  | diskGet (e : GetError)
  /-- `failed to open archive entry for keyspace`. -/
  | openEntry
  /-- `bucket.NewReader` failed other than by not finding the object. -/
  | download
  /-- `failed to read entry metadata`. -/
  | readMeta
  /-- `actionID mismatch`. -/
  | actionIDMismatch
  /-- `failed to put archive entry in disk store`, `failed to put entry in disk store`. -/
  | diskPut (e : PutError)
deriving DecidableEq

instance instDecidableEqExcept {ε α : Type} [DecidableEq ε] [DecidableEq α] :
    DecidableEq (Except ε α)
  | .error a, .error b =>
    if h : a = b then isTrue (h ▸ rfl) else isFalse fun same => h (Except.error.inj same)
  | .ok a, .ok b => if h : a = b then isTrue (h ▸ rfl) else isFalse fun same => h (Except.ok.inj same)
  | .error _, .ok _ => isFalse nofun
  | .ok _, .error _ => isFalse nofun

/-! ## Program points -/

/-- A program point of `LocalBackend.Get` and of the `get` it runs. -/
inductive LocalGetPc
  /-- Called: the closed check, then `sfGet.Do`. -/
  | call
  /-- Waiting for the flight led by call `leader`. -/
  | wait (leader : Nat)
  /-- Leading: `os.Open` of the action file and `ReadEntryMeta`. -/
  | openAction
  /-- `EnsureEmptyOutputFile` for an entry of Size 0. -/
  | ensureEmpty (meta : EntryMeta)
  /-- `os.Stat` of the output file. -/
  | statOutput (meta : EntryMeta)
  /-- `os.Remove` of the action file, and of the output file `output` if any, after a failed
  check; then the error. -/
  | remove (output : Option Bytes) (err : LocalGetError)
  /-- `get` returned; the flight is still registered. -/
  | finish (r : Except LocalGetError GetResponse)
  /-- `Get` returned. -/
  | done (r : Except GetError GetResponse)
deriving DecidableEq

/-- A program point of `LocalBackend.Put` and of the `put` it runs. -/
inductive LocalPutPc
  /-- Called: the closed check, then `sfPut.Do`. -/
  | call
  /-- Waiting for the flight led by call `leader`. -/
  | wait (leader : Nat)
  /-- Leading: `actionPath` and `outputPath`, then for `BodySize > 0` `os.Create` of
  `<outputPath>.tmp.<uniqueId>` and `io.Copy` of the body, else `EnsureEmptyOutputFile`. -/
  | writeOutput
  /-- `os.Rename` of the output's temporary file. -/
  | renameOutput
  /-- `os.Create` of `<actionPath>.tmp.<uniqueId>` and `WriteTo` of the meta; `diskPath` is the
  path `put` will return. -/
  | writeAction (diskPath : Path)
  /-- `os.Rename` of the action's temporary file. -/
  | renameAction (diskPath : Path)
  /-- `put` returned; the flight is still registered. -/
  | finish (r : Except LocalPutError PutResponse)
  /-- `Put` returned. -/
  | done (r : Except PutError PutResponse)
deriving DecidableEq

/-- A program point of `BlobBackend.Get` and of the `get` it runs. -/
inductive BlobGetPc
  /-- Called: the closed check, then `sfGet.Do`. -/
  | call
  /-- Waiting for the flight led by call `leader`. -/
  | wait (leader : Nat)
  /-- Leading: the ActionID check and `archiveStore.GetBlob`. -/
  | lookup
  /-- `EnsureEmptyOutputFile` for an archive entry of Size 0 (the fast path). -/
  | ensureEmpty (entry : ArEntry)
  /-- Waiting for `diskStore.Get`, call `child`; `entry` is the archive entry found, if any. -/
  | diskGet (child : Nat) (entry : Option ArEntry)
  /-- `arEntry.Open()` after a disk miss. -/
  | openEntry (entry : ArEntry)
  /-- `bucket.NewReader` of `CacheEntityKey(ActionID)` and `ReadEntryMeta`. -/
  | download
  /-- Waiting for `diskStore.Put`, call `child`, of the entry of `meta`. -/
  | diskPut (child : Nat) (meta : EntryMeta)
  /-- `get` returned; the flight is still registered. -/
  | finish (r : Except BlobGetError GetResponse)
  /-- `Get` returned. -/
  | done (r : Except GetError GetResponse)
deriving DecidableEq

/-- A program point of `BlobBackend.Put`. -/
inductive BlobPutPc
  /-- Called: the closed check, then `diskStore.Put`. -/
  | call
  /-- Waiting for `diskStore.Put`, call `child`. -/
  | diskPut (child : Nat)
  /-- `sfUpload.DoChan` of the upload of the body at `diskPath`. -/
  | schedule (diskPath : Path)
  /-- `Put` returned. -/
  | done (r : Except PutError PutResponse)
deriving DecidableEq

/-- A program point of the function `Put` hands to `sfUpload.DoChan`. -/
inductive UploadPc
  /-- `uploadQueue.Submit`. -/
  | submit
  /-- `doBgUpload`: the object name, the meta, and `os.Open` of the body's file. -/
  | read
  /-- `bucket.Upload` of `object` under `key`. -/
  | send (key object : Bytes)
  /-- The task is over: the function returns and its flight ends. -/
  | finish
  /-- The flight has ended. -/
  | done
deriving DecidableEq

/-- A call with its arguments and its program point. A body is the bytes its reader yields,
then `EOF`, or an error if `bodyErr`. -/
inductive Call
  | localGet (req : GetRequest) (pc : LocalGetPc)
  | localPut (req : PutRequest) (body : Bytes) (bodyErr : Bool) (override : Option Time)
      (pc : LocalPutPc)
  | blobGet (req : GetRequest) (pc : BlobGetPc)
  | blobPut (req : PutRequest) (body : Bytes) (bodyErr : Bool) (pc : BlobPutPc)
  /-- The upload `Put` schedules for its request, of the body at `diskPath`. -/
  | upload (req : PutRequest) (diskPath : Path) (pc : UploadPc)
deriving DecidableEq

/-- A call at its first program point. -/
def Call.Fresh : Call → Prop
  | .localGet _ .call | .localPut _ _ _ _ .call | .blobGet _ .call | .blobPut _ _ _ .call
  | .upload _ _ .submit => True
  | _ => False

/-- Two calls of the same kind with the same arguments, at any program points. -/
def Call.SameArgs : Call → Call → Prop
  | .localGet req _, .localGet req' _ => req = req'
  | .localPut req body bodyErr override _, .localPut req' body' bodyErr' override' _ =>
    req = req' ∧ body = body' ∧ bodyErr = bodyErr' ∧ override = override'
  | .blobGet req _, .blobGet req' _ => req = req'
  | .blobPut req body bodyErr _, .blobPut req' body' bodyErr' _ =>
    req = req' ∧ body = body' ∧ bodyErr = bodyErr'
  | .upload req diskPath _, .upload req' diskPath' _ => req = req' ∧ diskPath = diskPath'
  | _, _ => False

theorem Call.SameArgs.refl : ∀ c : Call, c.SameArgs c
  | .localGet .. | .blobGet .. => rfl
  | .localPut .. | .blobPut .. | .upload .. => by simp [Call.SameArgs]

/-! ## The state -/

/-- A single-flight group: the call leading the flight of each key. -/
abbrev Flights := Bytes → Option Nat

/-- The daemon's state. -/
structure World where
  backend : BackendKind
  /-- The data directory. -/
  fs : Path → Option Node
  /-- The bucket's objects, by key. -/
  remote : Bytes → Option Bytes
  /-- The archive installed for each keyspace. -/
  archives : Bytes → Option ArReader
  blobClosed : Bool
  localClosed : Bool
  calls : Nat → Option Call
  /-- The id of the next call, also its `uniqueId`. -/
  next : Nat
  getFlights : Flights
  putFlights : Flights
  blobGetFlights : Flights
  uploadFlights : Flights
  /-- Some call has panicked. -/
  crashed : Bool
  /-- The calls whose goroutine panicked. -/
  panicked : Nat → Bool

/-- A daemon that has just opened its backend: no call, no flight. -/
def World.init (backend : BackendKind) (fs : Path → Option Node) (remote : Bytes → Option Bytes)
    (archives : Bytes → Option ArReader) : World :=
  ⟨backend, fs, remote, archives, false, false, fun _ => none, 0, fun _ => none, fun _ => none,
    fun _ => none, fun _ => none, false, fun _ => false⟩

namespace World

/-- Call `i` moves to `c`. -/
def setCall (w : World) (i : Nat) (c : Call) : World :=
  { w with calls := Function.update w.calls i (some c) }

/-- A new call `c`, with id `w.next`. -/
def spawn (w : World) (c : Call) : World :=
  { w with calls := Function.update w.calls w.next (some c), next := w.next + 1 }

/-- The goroutine of call `i` panics, and `gin.Recovery` ends the call there. -/
def panic (w : World) (i : Nat) : World :=
  { w with crashed := true, panicked := Function.update w.panicked i true }

@[simp] theorem setCall_calls (w : World) (i : Nat) (c : Call) :
    (w.setCall i c).calls = Function.update w.calls i (some c) := rfl
@[simp] theorem setCall_fs (w : World) (i : Nat) (c : Call) : (w.setCall i c).fs = w.fs := rfl
@[simp] theorem setCall_next (w : World) (i : Nat) (c : Call) : (w.setCall i c).next = w.next := rfl
@[simp] theorem setCall_remote (w : World) (i : Nat) (c : Call) :
    (w.setCall i c).remote = w.remote := rfl
@[simp] theorem setCall_putFlights (w : World) (i : Nat) (c : Call) :
    (w.setCall i c).putFlights = w.putFlights := rfl
@[simp] theorem setCall_getFlights (w : World) (i : Nat) (c : Call) :
    (w.setCall i c).getFlights = w.getFlights := rfl
@[simp] theorem setCall_blobGetFlights (w : World) (i : Nat) (c : Call) :
    (w.setCall i c).blobGetFlights = w.blobGetFlights := rfl
@[simp] theorem setCall_uploadFlights (w : World) (i : Nat) (c : Call) :
    (w.setCall i c).uploadFlights = w.uploadFlights := rfl
@[simp] theorem setCall_crashed (w : World) (i : Nat) (c : Call) :
    (w.setCall i c).crashed = w.crashed := rfl
@[simp] theorem setCall_panicked (w : World) (i : Nat) (c : Call) :
    (w.setCall i c).panicked = w.panicked := rfl

@[simp] theorem spawn_calls (w : World) (c : Call) :
    (w.spawn c).calls = Function.update w.calls w.next (some c) := rfl
@[simp] theorem spawn_fs (w : World) (c : Call) : (w.spawn c).fs = w.fs := rfl
@[simp] theorem spawn_next (w : World) (c : Call) : (w.spawn c).next = w.next + 1 := rfl
@[simp] theorem spawn_remote (w : World) (c : Call) : (w.spawn c).remote = w.remote := rfl
@[simp] theorem spawn_putFlights (w : World) (c : Call) : (w.spawn c).putFlights = w.putFlights :=
  rfl
@[simp] theorem spawn_getFlights (w : World) (c : Call) : (w.spawn c).getFlights = w.getFlights :=
  rfl
@[simp] theorem spawn_blobGetFlights (w : World) (c : Call) :
    (w.spawn c).blobGetFlights = w.blobGetFlights := rfl
@[simp] theorem spawn_uploadFlights (w : World) (c : Call) :
    (w.spawn c).uploadFlights = w.uploadFlights := rfl
@[simp] theorem spawn_panicked (w : World) (c : Call) : (w.spawn c).panicked = w.panicked := rfl

@[simp] theorem panic_calls (w : World) (i : Nat) : (w.panic i).calls = w.calls := rfl
@[simp] theorem panic_fs (w : World) (i : Nat) : (w.panic i).fs = w.fs := rfl
@[simp] theorem panic_next (w : World) (i : Nat) : (w.panic i).next = w.next := rfl
@[simp] theorem panic_remote (w : World) (i : Nat) : (w.panic i).remote = w.remote := rfl
@[simp] theorem panic_putFlights (w : World) (i : Nat) :
    (w.panic i).putFlights = w.putFlights := rfl
@[simp] theorem panic_getFlights (w : World) (i : Nat) :
    (w.panic i).getFlights = w.getFlights := rfl
@[simp] theorem panic_blobGetFlights (w : World) (i : Nat) :
    (w.panic i).blobGetFlights = w.blobGetFlights := rfl
@[simp] theorem panic_uploadFlights (w : World) (i : Nat) :
    (w.panic i).uploadFlights = w.uploadFlights := rfl
@[simp] theorem panic_panicked (w : World) (i : Nat) :
    (w.panic i).panicked = Function.update w.panicked i true := rfl

end World

/-! ## File-system operations -/

/-- The path `put` returns: the output's path for a positive `BodySize`, the shared empty
output otherwise. -/
def putDiskPath (req : PutRequest) : Path :=
  if 0 < req.bodySize.val then .output req.outputID else .empty

/-- `EnsureEmptyOutputFile`: nothing to do if `_empty.output` is an empty file, else
`os.WriteFile`, which fails on a directory or when the file system fails (`ok = false`). -/
def ensureEmptyOutputFile (fs : Path → Option Node) (ok : Bool) : Option (Path → Option Node) :=
  if fs .empty = some (.file []) then some fs
  else if ok ∧ fs .empty ≠ some .dir then some (Function.update fs .empty (some (.file [])))
  else none

/-- `os.Rename` of a file: fails if there is no file at `src`, if `dst` is a directory, or when
the file system fails. -/
def rename (fs : Path → Option Node) (src dst : Path) (ok : Bool) : Option (Path → Option Node) :=
  match fs src with
  | some (.file content) =>
    if ok ∧ fs dst ≠ some .dir then
      some (Function.update (Function.update fs src none) dst (some (.file content)))
    else none
  | _ => none

/-- `os.Remove` of a path, ignoring errors. -/
def remove (fs : Path → Option Node) (p : Path) : Path → Option Node := Function.update fs p none

theorem ensureEmptyOutputFile_frame {fs fs' : Path → Option Node} {ok : Bool}
    (h : ensureEmptyOutputFile fs ok = some fs') (p : Path) (other : p ≠ .empty) : fs' p = fs p := by
  unfold ensureEmptyOutputFile at h
  split at h
  · cases h; rfl
  · split at h
    · cases h; exact Function.update_noteq other _ _
    · cases h

theorem ensureEmptyOutputFile_empty {fs fs' : Path → Option Node} {ok : Bool}
    (h : ensureEmptyOutputFile fs ok = some fs') : fs' .empty = some (.file []) := by
  unfold ensureEmptyOutputFile at h
  split at h
  · cases h; assumption
  · split at h
    · cases h; exact Function.update_same _ _ _
    · cases h

theorem rename_spec {fs fs' : Path → Option Node} {src dst : Path} {ok : Bool}
    (h : rename fs src dst ok = some fs') :
    ∃ content, fs src = some (.file content) ∧ fs' dst = some (.file content) ∧
      ∀ p, p ≠ src → p ≠ dst → fs' p = fs p := by
  unfold rename at h
  split at h
  · rename_i content found
    split at h
    · cases h
      refine ⟨content, found, Function.update_same _ _ _, fun p ne_src ne_dst => ?_⟩
      rw [Function.update_noteq ne_dst, Function.update_noteq ne_src]
    · cases h
  · cases h

/-- A rename leaves every path other than its source and destination. -/
theorem rename_other {fs fs' : Path → Option Node} {src dst : Path} {ok : Bool}
    (h : rename fs src dst ok = some fs') {p : Path} (notSrc : p ≠ src) (notDst : p ≠ dst) :
    fs' p = fs p :=
  let ⟨_, _, _, rest⟩ := rename_spec h
  rest p notSrc notDst

theorem tmp_ne_of_ne {target target' : Path} {u i : Nat} (other : u ≠ i) :
    Path.tmp target u ≠ .tmp target' i := fun same => other (Path.tmp.inj same).2

/-- Renaming a temporary file of call `i` into the data directory leaves the temporary files of
the other calls. -/
theorem rename_tmp_frame {fs fs' : Path → Option Node} {x dst : Path} {i : Nat} {ok : Bool}
    (h : rename fs (.tmp x i) dst ok = some fs') (notTmp : ∀ t v, dst ≠ .tmp t v) (target : Path)
    {u : Nat} (other : u ≠ i) : fs' (.tmp target u) = fs (.tmp target u) :=
  let ⟨_, _, _, rest⟩ := rename_spec h
  rest _ (tmp_ne_of_ne other) (notTmp _ _).symm

/-! ## What a step of one call leaves alone -/

/-- A step of call `i` from `w` to `w'` keeps the backend, keeps the arguments of call `i`,
leaves every other call as it was except for at most one call it spawns at `w.next`, and writes
no temporary file of another call. -/
structure Frame (i : Nat) (w w' : World) : Prop where
  backend : w'.backend = w.backend
  self : ∀ c, w.calls i = some c → ∃ c', w'.calls i = some c' ∧ c.SameArgs c'
  spawned : (w'.next = w.next ∧ ∀ k, k ≠ i → w'.calls k = w.calls k) ∨
    (w'.next = w.next + 1 ∧ ∃ c, c.Fresh ∧
      ∀ k, k ≠ i → w'.calls k = Function.update w.calls w.next (some c) k)
  tmp : ∀ target u, u ≠ i → w'.fs (.tmp target u) = w.fs (.tmp target u)

namespace Frame

variable {i : Nat} {w w₁ : World} {c c' : Call}

/-- A step that changes no call and no file, such as a panic. -/
theorem unchanged (backend : w₁.backend = w.backend) (calls : w₁.calls = w.calls)
    (next : w₁.next = w.next) (fs : w₁.fs = w.fs) : Frame i w w₁ :=
  ⟨backend, fun c found => ⟨c, calls ▸ found, .refl c⟩, .inl ⟨next, fun _ _ => by rw [calls]⟩,
    fun _ _ _ => by rw [fs]⟩

/-- Call `i` moves on, from a state `w₁` that differs from `w` only outside the calls and the
temporary files of other calls. -/
theorem setCall (found : w.calls i = some c) (same : c.SameArgs c')
    (backend : w₁.backend = w.backend) (calls : w₁.calls = w.calls) (next : w₁.next = w.next)
    (tmp : ∀ target u, u ≠ i → w₁.fs (.tmp target u) = w.fs (.tmp target u)) :
    Frame i w (w₁.setCall i c') where
  backend := backend
  self _ again := ⟨c', by simp, by rw [found] at again; cases again; exact same⟩
  spawned := .inl ⟨next, fun k other => by simp [Function.update_noteq other, calls]⟩
  tmp := tmp

/-- Call `i` spawns a fresh call and moves on. -/
theorem spawnSetCall (found : w.calls i = some c) (same : c.SameArgs c') {spawned : Call}
    (fresh : spawned.Fresh) (backend : w₁.backend = w.backend)
    (calls : w₁.calls = Function.update w.calls w.next (some spawned)) (next : w₁.next = w.next + 1)
    (fs : w₁.fs = w.fs) : Frame i w (w₁.setCall i c') where
  backend := backend
  self _ again := ⟨c', by simp, by rw [found] at again; cases again; exact same⟩
  spawned := .inr ⟨next, spawned, fresh, fun k other => by simp [Function.update_noteq other, calls]⟩
  tmp _ _ _ := by simp [fs]

/-- A new call at `w.next`. -/
theorem spawn (free : w.calls w.next = none) (fresh : c.Fresh) : Frame w.next w (w.spawn c) where
  backend := rfl
  self _ found := by rw [free] at found; cases found
  spawned := .inr ⟨rfl, c, fresh, fun _ _ => rfl⟩
  tmp _ _ _ := rfl

end Frame

end Gscache
