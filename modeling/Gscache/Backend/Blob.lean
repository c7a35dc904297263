import Gscache.Backend.Local

/-!
# `BlobBackend.Get`, `BlobBackend.Put` and the background upload, step by step

One step of a call of the blob backend (`BlobBackend` in `blob.go`): a move of `sfGet.Do` or
`sfUpload.DoChan`, a read of the installed archives, one bucket operation, one file operation, or
taking the result of a nested `diskStore` call. Statistics and logs are left out, except that the
log line of a failed `Get` formats `CacheEntityKey(ActionID)`, which panics on an empty ActionID.

The upload pool is non-blocking with an unbounded queue: `Submit` fails only once `Close` has
stopped the pool. The upload's meta carries `time.Now()`, since `Put`'s options carry no
override time.

`get` calls `diskStore.Get` and `diskStore.Put` in its own goroutine, so a panic of the nested
call is a panic of `get`, inside the `sfGet` flight. The pool recovers a panic of its task and
`Wait` returns it as an error, which the `sfUpload` function ignores: the upload then ends like
one that failed.
-/

namespace Gscache

namespace World

/-- Call `i`, a `BlobBackend.Get` of `req`, moves to `pc`. -/
def goBlobGet (w : World) (i : Nat) (req : GetRequest) (pc : BlobGetPc) : World :=
  w.setCall i (.blobGet req pc)

/-- Call `i`, a `BlobBackend.Put`, moves to `pc`. -/
def goBlobPut (w : World) (i : Nat) (req : PutRequest) (body : Bytes) (bodyErr : Bool)
    (pc : BlobPutPc) : World :=
  w.setCall i (.blobPut req body bodyErr pc)

/-- Call `i`, an upload, moves to `pc`. -/
def goUpload (w : World) (i : Nat) (req : PutRequest) (diskPath : Path) (pc : UploadPc) : World :=
  w.setCall i (.upload req diskPath pc)

/-- Call `i`, a `BlobBackend.Get` of `req`, panics inside `get`: the flight of its ActionID is
deleted, and the call ends. -/
def abortBlobGet (w : World) (i : Nat) (req : GetRequest) : World :=
  { w with blobGetFlights := Function.update w.blobGetFlights req.actionID none }.panic i

end World

/-- The `diskStore.Put` that materialises the entry of `meta` with the body `data`, keeping the
entry's time. -/
def materialise (meta : EntryMeta) (data : Bytes) : Call :=
  .localPut ⟨meta.actionID, meta.outputID, meta.size⟩ data false (some meta.time) .call

/-- One step of call `i`, a `BlobBackend.Get` of `req` at `pc`. -/
def stepBlobGet (w : World) (i : Nat) (req : GetRequest) (ok : Bool) : BlobGetPc → Option World
  | .call =>
    if w.blobClosed then some (w.goBlobGet i req (.done (.error .blobClosed)))
    else match w.blobGetFlights req.actionID with
      | some leader => some (w.goBlobGet i req (.wait leader))
      | none =>
        some ({ w with blobGetFlights := Function.update w.blobGetFlights req.actionID (some i) }
          |>.goBlobGet i req .lookup)
  | .wait leader =>
    match w.calls leader with
    | some (.blobGet _ (.done r)) => some (w.goBlobGet i req (.done r))
    | _ => if w.panicked leader then some (w.panic i) else none
  | .lookup =>
    match cacheEntityKeyspace req.actionID with
    | none => some (w.goBlobGet i req (.finish (.error .actionIDEmpty)))
    | some keyspace =>
      let entry := getBlob w.archives keyspace req.actionID
      match entry with
      | some found =>
        if found.meta.size.val = 0 then some (w.goBlobGet i req (.ensureEmpty found))
        else some ((w.spawn (.localGet req .call)).goBlobGet i req (.diskGet w.next entry))
      | none => some ((w.spawn (.localGet req .call)).goBlobGet i req (.diskGet w.next entry))
  | .ensureEmpty entry =>
    match ensureEmptyOutputFile w.fs ok with
    | none => some (w.goBlobGet i req (.finish (.error .emptyOutput)))
    | some fs => some ({ w with fs } |>.goBlobGet i req
        (.finish (.ok (.hit ⟨entry.meta.outputID, entry.meta.size, entry.meta.time, .empty⟩))))
  | .diskGet child entry =>
    match w.calls child with
    | some (.localGet _ (.done r)) =>
      match r, entry with
      | .error e, _ => some (w.goBlobGet i req (.finish (.error (.diskGet e))))
      | .ok (.hit h), _ => some (w.goBlobGet i req (.finish (.ok (.hit h))))
      | .ok .miss, some found => some (w.goBlobGet i req (.openEntry found))
      | .ok .miss, none => some (w.goBlobGet i req .download)
    | _ => if w.panicked child then some (w.abortBlobGet i req) else none
  | .openEntry entry =>
    if !ok then some (w.goBlobGet i req (.finish (.error .openEntry)))
    else some ((w.spawn (materialise entry.meta entry.data)).goBlobGet i req
      (.diskPut w.next entry.meta))
  | .download =>
    match cacheEntityKey req.actionID with
    | none => some (w.abortBlobGet i req)
    | some key =>
      if !ok then some (w.goBlobGet i req (.finish (.error .download)))
      else match w.remote key with
      | none => some (w.goBlobGet i req (.finish (.ok .miss)))
      | some object =>
        match readEntryMeta object with
        | .error _ => some (w.goBlobGet i req (.finish (.error .readMeta)))
        | .ok (meta, rest) =>
          if meta.actionID ≠ req.actionID then
            some (w.goBlobGet i req (.finish (.error .actionIDMismatch)))
          else some ((w.spawn (materialise meta rest)).goBlobGet i req (.diskPut w.next meta))
  | .diskPut child meta =>
    match w.calls child with
    | some (.localPut _ _ _ _ (.done r)) =>
      match r with
      | .error e => some (w.goBlobGet i req (.finish (.error (.diskPut e))))
      | .ok resp => some (w.goBlobGet i req
          (.finish (.ok (.hit ⟨meta.outputID, meta.size, meta.time, resp.diskPath⟩))))
    | _ => if w.panicked child then some (w.abortBlobGet i req) else none
  | .finish r =>
    let w := { w with blobGetFlights := Function.update w.blobGetFlights req.actionID none }
    match r with
    | .ok resp => some (w.goBlobGet i req (.done (.ok resp)))
    | .error _ =>
      if req.actionID = [] then some (w.panic i) else some (w.goBlobGet i req (.done (.ok .miss)))
  | .done _ => none

/-- One step of call `i`, a `BlobBackend.Put` of `req` with its body, at `pc`. -/
def stepBlobPut (w : World) (i : Nat) (req : PutRequest) (body : Bytes) (bodyErr : Bool) :
    BlobPutPc → Option World
  | .call =>
    if w.blobClosed then some (w.goBlobPut i req body bodyErr (.done (.error .blobClosed)))
    else some ((w.spawn (.localPut req body bodyErr none .call)).goBlobPut i req body bodyErr
      (.diskPut w.next))
  | .diskPut child =>
    match w.calls child with
    | some (.localPut _ _ _ _ (.done r)) =>
      match r with
      | .error e => some (w.goBlobPut i req body bodyErr (.done (.error (.diskStore e))))
      | .ok resp => some (w.goBlobPut i req body bodyErr (.schedule resp.diskPath))
    | _ => if w.panicked child then some (w.panic i) else none
  | .schedule diskPath =>
    match w.uploadFlights req.actionID with
    | some _ => some (w.goBlobPut i req body bodyErr (.done (.ok ⟨diskPath⟩)))
    | none =>
      some ({ w.spawn (.upload req diskPath .submit) with
          uploadFlights := Function.update w.uploadFlights req.actionID (some w.next) }
        |>.goBlobPut i req body bodyErr (.done (.ok ⟨diskPath⟩)))
  | .done _ => none

/-- One step of call `i`, the upload of `req`'s body from `diskPath`, at `pc`. -/
def stepUpload (w : World) (i : Nat) (req : PutRequest) (diskPath : Path) (ok : Bool) (now : Time) :
    UploadPc → Option World
  | .submit =>
    if w.blobClosed && !ok then some (w.goUpload i req diskPath .finish)
    else some (w.goUpload i req diskPath .read)
  | .read =>
    match cacheEntityKey req.actionID with
    | none => some (w.goUpload i req diskPath .finish)
    | some key =>
      let header := (EntryMeta.mk req.actionID req.outputID req.bodySize now).writeTo
      if 0 < req.bodySize.val then
        match w.fs diskPath with
        | some (.file content) =>
          if ok then some (w.goUpload i req diskPath (.send key (header ++ content)))
          else some (w.goUpload i req diskPath .finish)
        | _ => some (w.goUpload i req diskPath .finish)
      else some (w.goUpload i req diskPath (.send key header))
  | .send key object =>
    if ok then
      some ({ w with remote := Function.update w.remote key (some object) }
        |>.goUpload i req diskPath .finish)
    else some (w.goUpload i req diskPath .finish)
  | .finish =>
    some ({ w with uploadFlights := Function.update w.uploadFlights req.actionID none }
      |>.goUpload i req diskPath .done)
  | .done => none

/-! ## Frames -/

theorem stepBlobGet_frame {w w' : World} {i : Nat} {req : GetRequest} {ok : Bool}
    {pc : BlobGetPc} (found : w.calls i = some (.blobGet req pc))
    (h : stepBlobGet w i req ok pc = some w') : Frame i w w' := by
  have move : ∀ (w₁ : World) pc', w₁.backend = w.backend → w₁.calls = w.calls →
      w₁.next = w.next → (∀ target u, u ≠ i → w₁.fs (.tmp target u) = w.fs (.tmp target u)) →
      Frame i w (w₁.goBlobGet i req pc') := fun _ _ => Frame.setCall found rfl
  have spawn : ∀ (c : Call) pc', c.Fresh → Frame i w ((w.spawn c).goBlobGet i req pc') :=
    fun _ _ fresh => Frame.spawnSetCall found rfl fresh rfl rfl rfl rfl
  cases pc <;> simp only [stepBlobGet] at h <;> (repeat' split at h) <;> cases h <;>
    first
    | exact Frame.unchanged rfl rfl rfl rfl
    | exact move _ _ rfl rfl rfl fun _ _ _ => rfl
    | exact move _ _ rfl rfl rfl fun _ _ _ => ensureEmptyOutputFile_frame ‹_› _ nofun
    | exact spawn _ _ (by exact trivial)

theorem stepBlobPut_frame {w w' : World} {i : Nat} {req : PutRequest} {body : Bytes}
    {bodyErr : Bool} {pc : BlobPutPc} (found : w.calls i = some (.blobPut req body bodyErr pc))
    (h : stepBlobPut w i req body bodyErr pc = some w') : Frame i w w' := by
  have same : (Call.blobPut req body bodyErr pc).SameArgs (.blobPut req body bodyErr pc) :=
    .refl _
  cases pc <;> simp only [stepBlobPut] at h <;> (repeat' split at h) <;> cases h <;>
    first
    | exact Frame.unchanged rfl rfl rfl rfl
    | exact Frame.setCall found ⟨rfl, rfl, rfl⟩ rfl rfl rfl fun _ _ _ => rfl
    | exact Frame.spawnSetCall found ⟨rfl, rfl, rfl⟩ (by exact trivial) rfl rfl rfl rfl

theorem stepUpload_frame {w w' : World} {i : Nat} {req : PutRequest} {diskPath : Path}
    {ok : Bool} {now : Time} {pc : UploadPc} (found : w.calls i = some (.upload req diskPath pc))
    (h : stepUpload w i req diskPath ok now pc = some w') : Frame i w w' := by
  cases pc <;> simp only [stepUpload] at h <;> (repeat' split at h) <;> cases h <;>
    first
    | exact Frame.unchanged rfl rfl rfl rfl
    | exact Frame.setCall found ⟨rfl, rfl⟩ rfl rfl rfl fun _ _ _ => rfl
end Gscache
