import Gscache.Backend.Daemon

/-!
# What a failing call leaves

Results:
1. `emptyID_panics`: on a freshly opened backend, whatever its data directory, bucket and
   installed archives, a `Get` of the empty ActionID panics on both backends, and so does a `Put`
   of the empty OutputID, on both backends and also when it joins another put's flight.
2. `stepLocalPut_action`: a step of `LocalBackend.put` changes the action file of its ActionID
   only by the rename that ends a successful put.
3. `localPut_failure_leaves_tmp`: a local put whose body fails or has the wrong size returns the
   error and leaves its temporary output file, with the body in it, in the data directory.
-/

namespace Gscache

/-! ## Empty IDs -/

/-- `actionPath` and `outputPath` index `ID[0]`; so does `CacheEntityKey`, which the error log of
`BlobBackend.Get` formats. On every initial store, `LocalBackend.Get([])` panics in `get`,
`BlobBackend.Get([])` panics logging the error `get` returns, a `Put` with an empty OutputID
panics in `put` (through `diskStore.Put` on the blob backend), and a put that joins the flight of
another put for its ActionID panics in the log line after `sfPut.Do`. -/
theorem emptyID_panics (fs : Path → Option Node) (remote : Bytes → Option Bytes)
    (archives : Bytes → Option ArReader) :
    (∃ w, run (World.init .localBackend fs remote archives)
        [.get ⟨[]⟩, .run 0 true ⟨0⟩, .run 0 true ⟨0⟩] = some w ∧ w.crashed = true) ∧
    (∃ w, run (World.init .blobBackend fs remote archives)
        [.get ⟨[]⟩, .run 0 true ⟨0⟩, .run 0 true ⟨0⟩, .run 0 true ⟨0⟩] = some w ∧
      w.crashed = true) ∧
    (∀ actionID bodySize body, ∃ w, run (World.init .localBackend fs remote archives)
        [.put ⟨actionID, [], bodySize⟩ body false, .run 0 true ⟨0⟩, .run 0 true ⟨0⟩] = some w ∧
      w.crashed = true) ∧
    (∀ actionID bodySize body, ∃ w, run (World.init .blobBackend fs remote archives)
        [.put ⟨actionID, [], bodySize⟩ body false, .run 0 true ⟨0⟩, .run 1 true ⟨0⟩,
          .run 1 true ⟨0⟩] = some w ∧ w.crashed = true) ∧
    (∃ w, run (World.init .localBackend fs remote archives)
        [.put ⟨[1], [2], Int64.wrap 1⟩ [5] false, .put ⟨[1], [], Int64.wrap 1⟩ [5] false,
          .run 0 true ⟨0⟩, .run 1 true ⟨0⟩, .run 0 false ⟨0⟩, .run 0 true ⟨0⟩, .run 1 true ⟨0⟩] =
        some w ∧ w.crashed = true) := by
  refine ⟨⟨_, rfl, rfl⟩, ⟨_, rfl, rfl⟩, fun actionID _ _ => ?_, fun actionID _ _ => ?_,
    ⟨_, rfl, rfl⟩⟩ <;> cases actionID <;> exact ⟨_, rfl, rfl⟩

/-! ## Failed local puts -/

/-- A step of `LocalBackend.put` changes the action file of its ActionID only by the rename that
ends a successful put: the output's files, the empty output and the temporary files are other
paths. -/
theorem stepLocalPut_action {w w' : World} {i : Nat} {req : PutRequest} {body : Bytes}
    {bodyErr : Bool} {override : Option Time} {ok : Bool} {now : Time} {pc : LocalPutPc}
    (h : stepLocalPut w i req body bodyErr override ok now pc = some w') :
    w'.fs (.action req.actionID) = w.fs (.action req.actionID) ∨
      ∃ diskPath, pc = .renameAction diskPath ∧
        w'.calls i = some (.localPut req body bodyErr override (.finish (.ok ⟨diskPath⟩))) := by
  cases pc <;> simp only [stepLocalPut] at h <;> (repeat' split at h) <;> cases h <;>
    first
    | exact .inl rfl
    | exact .inr ⟨_, rfl, by simp [World.goLocalPut]⟩
    | exact .inl (Function.update_noteq nofun _ _)
    | exact .inl (ensureEmptyOutputFile_frame ‹_› (.action req.actionID) nofun)
    | (rename_i renamed; exact .inl (rename_other renamed nofun nofun))

/-- The body write of `put` fails after it has created the temporary output file and written the
body into it: the body read failed, or the body is not `BodySize` bytes long. -/
theorem stepLocalPut_writeOutput_fails {w : World} {i : Nat} {req : PutRequest} {body : Bytes}
    {bodyErr : Bool} {override : Option Time} {now : Time}
    (named : req.actionID ≠ [] ∧ req.outputID ≠ []) (positive : 0 < req.bodySize.val)
    (fails : bodyErr = true ∨ (body.length : Int) ≠ req.bodySize.val)
    (noDir : w.fs (.tmp (.output req.outputID) i) ≠ some .dir) :
    ∃ e, stepLocalPut w i req body bodyErr override true now .writeOutput =
      some ({ w with fs := Function.update w.fs (.tmp (.output req.outputID) i) (some (.file body)) }
        |>.goLocalPut i req body bodyErr override (.finish (.error e))) := by
  simp only [stepLocalPut, actionPath_of_ne_nil named.1, outputPath_of_ne_nil named.2,
    if_pos positive, Bool.not_true, Bool.false_or, noDir, decide_False, Bool.false_eq_true,
    ite_false]
  cases bodyErr
  · simp only [Bool.false_eq_true, ite_false, if_pos (fails.resolve_left Bool.false_ne_true)]
    exact ⟨_, rfl⟩
  · exact ⟨_, rfl⟩

/-- A local put whose body read fails, or whose body is not `BodySize` bytes long, on a freshly
opened backend: `put` has created `<output>.tmp.<uniqueId>` and written the body into it, returns
the error, and leaves that file in the data directory. The action file is as it was. -/
theorem localPut_failure_leaves_tmp (fs : Path → Option Node) (remote : Bytes → Option Bytes)
    (archives : Bytes → Option ArReader) {req : PutRequest} {body : Bytes} {bodyErr : Bool}
    (named : req.actionID ≠ [] ∧ req.outputID ≠ []) (positive : 0 < req.bodySize.val)
    (fails : bodyErr = true ∨ (body.length : Int) ≠ req.bodySize.val)
    (noDir : fs (.tmp (.output req.outputID) 0) ≠ some .dir) :
    ∃ w e, run (World.init .localBackend fs remote archives)
        [.put req body bodyErr, .run 0 true ⟨0⟩, .run 0 true ⟨0⟩, .run 0 true ⟨0⟩] = some w ∧
      w.calls 0 = some (.localPut req body bodyErr none (.done (.error (.localPut e)))) ∧
      w.fs (.tmp (.output req.outputID) 0) = some (.file body) ∧
      w.fs (.action req.actionID) = fs (.action req.actionID) := by
  obtain ⟨e, wrote⟩ := @stepLocalPut_writeOutput_fails
    ({ (World.init .localBackend fs remote archives).spawn
        (.localPut req body bodyErr none .call) with
      putFlights := Function.update (fun _ => none) req.actionID (some 0) }.goLocalPut 0 req body
        bodyErr none .writeOutput) 0 req body bodyErr none ⟨0⟩ named positive fails noDir
  have unfolded : run (World.init .localBackend fs remote archives)
      [.put req body bodyErr, .run 0 true ⟨0⟩, .run 0 true ⟨0⟩, .run 0 true ⟨0⟩] =
      (stepLocalPut _ 0 req body bodyErr none true ⟨0⟩ .writeOutput).bind
        fun w => run w [.run 0 true ⟨0⟩] := rfl
  rw [unfolded]
  erw [wrote]
  have other : Path.action req.actionID ≠ .tmp (.output req.outputID) 0 := nofun
  exact ⟨_, e, rfl, rfl, by simp [World.goLocalPut], by simp [World.goLocalPut, World.init, other]⟩

/-- The failing input: a put of one byte with `BodySize` 2 on an empty data directory. -/
theorem localPut_failure_leaves_tmp_short :
    ((⟨[1], [2], Int64.wrap 2⟩ : PutRequest).actionID ≠ [] ∧
      (⟨[1], [2], Int64.wrap 2⟩ : PutRequest).outputID ≠ []) ∧
    0 < (Int64.wrap 2).val ∧ (false = true ∨ (([5] : Bytes).length : Int) ≠ (Int64.wrap 2).val) ∧
    (fun _ => none : Path → Option Node) (.tmp (.output [2]) 0) ≠ some .dir ∧
    ∃ w e, run (World.init .localBackend (fun _ => none) (fun _ => none) (fun _ => none))
        [.put ⟨[1], [2], Int64.wrap 2⟩ [5] false, .run 0 true ⟨0⟩, .run 0 true ⟨0⟩,
          .run 0 true ⟨0⟩] = some w ∧
      w.calls 0 = some (.localPut ⟨[1], [2], Int64.wrap 2⟩ [5] false none
        (.done (.error (.localPut e)))) ∧
      w.fs (.tmp (.output [2]) 0) = some (.file [5]) ∧ w.fs (.action [1]) = none :=
  ⟨⟨by decide, by decide⟩, by decide, .inr (by decide), by decide,
    localPut_failure_leaves_tmp (fun _ => none) (fun _ => none) (fun _ => none)
      ⟨by decide, by decide⟩ (by decide) (.inr (by decide)) (by decide)⟩

end Gscache
