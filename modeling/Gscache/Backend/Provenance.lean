import Gscache.Backend.Isolation

/-!
# Where the stored files and objects come from

`LocalBackend.put` writes a body and a header into temporary files and renames them into place;
`LocalBackend.get` removes the files of an entry it finds broken; both, and `BlobBackend.Get`,
write the shared empty output. The upload that `BlobBackend.Put` schedules sends the entry's
header followed by the file at the put's disk path. This module follows the files at the final
paths of the data directory, the paths other than temporary files, and the objects of the bucket,
over every interleaving of calls from any data directory and bucket the daemon opens on.

Results:
1. `stepCall_final` and `stepCall_remote`: a step changes a final path only by removing an action
   or output file, by writing the empty output empty, or by the rename with which a put moves its
   own temporary file into place; and it writes the bucket only at an upload's send.
2. `run_provenance`: over every run, a file at an output path is the one the data directory
   started with, or the whole body of a put for that OutputID, read without error and exactly
   `BodySize` bytes long; a file at an action path is the one the directory started with, or the
   header that a put for that ActionID wrote after reading its whole body; the shared empty
   output is the one the directory started with, or empty. No partially written or failed body
   is ever at a final path.
3. `run_bucket_provenance`: over every run, an object of the bucket is the one the bucket started
   with, or was uploaded under the object name of its put's ActionID, as the put's header
   followed by bytes, none when the put has no body; `ReadEntryMeta` reads the header back with
   that ActionID.
-/

namespace Gscache

/-- A path outside the temporary files. -/
def Path.Final : Path → Prop
  | .tmp _ _ => False
  | _ => True

theorem Path.Final.ne_tmp {p : Path} (final : p.Final) (target : Path) (u : Nat) :
    p ≠ .tmp target u := by
  rintro rfl
  exact final

/-! ## What one step does at a final path -/

theorem ensureEmptyOutputFile_final {fs fs' : Path → Option Node} {ok : Bool}
    (h : ensureEmptyOutputFile fs ok = some fs') (p : Path) :
    fs' p = fs p ∨ (p = .empty ∧ fs' p = some (.file [])) := by
  by_cases empty : p = .empty
  · subst empty; exact .inr ⟨rfl, ensureEmptyOutputFile_empty h⟩
  · exact .inl (ensureEmptyOutputFile_frame h p empty)

/-- The rename of a call's temporary file into place changes no other final path. -/
theorem rename_final {fs fs' : Path → Option Node} {dst : Path} {i : Nat} {ok : Bool}
    (h : rename fs (.tmp dst i) dst ok = some fs') {p : Path} (final : p.Final) :
    fs' p = fs p ∨ (p = dst ∧ fs' p = fs (.tmp p i)) := by
  by_cases moved : p = dst
  · subst moved
    obtain ⟨content, src, dst, _⟩ := rename_spec h
    exact .inr ⟨rfl, dst.trans src.symm⟩
  · exact .inl (rename_other h (final.ne_tmp _ _) moved)

/-- The removals of `get`'s cleanup: the action file, then the output file if any; never the
empty output. -/
theorem remove_action_final (fs : Path → Option Node) (actionID : Bytes) (p : Path) :
    remove fs (.action actionID) p = fs p ∨ (remove fs (.action actionID) p = none ∧ p ≠ .empty) := by
  by_cases removed : p = .action actionID
  · subst removed; exact .inr ⟨Function.update_same _ _ _, nofun⟩
  · exact .inl (Function.update_noteq removed _ _)

theorem remove_output_final (fs : Path → Option Node) (actionID outputID : Bytes) (p : Path) :
    remove (remove fs (.action actionID)) (.output outputID) p = fs p ∨
      (remove (remove fs (.action actionID)) (.output outputID) p = none ∧ p ≠ .empty) := by
  by_cases removed : p = .output outputID
  · subst removed; exact .inr ⟨Function.update_same _ _ _, nofun⟩
  · rw [remove, Function.update_noteq removed]
    exact remove_action_final fs actionID p

/-- A step of a local get keeps the bucket; at a final path it removes an action or output file,
or writes the empty output empty. -/
theorem stepLocalGet_stores {w w' : World} {i : Nat} {req : GetRequest} {ok : Bool}
    {pc : LocalGetPc} (h : stepLocalGet w i req ok pc = some w') :
    w'.remote = w.remote ∧ ∀ p, w'.fs p = w.fs p ∨ (w'.fs p = none ∧ p ≠ .empty) ∨
      (p = .empty ∧ w'.fs p = some (.file [])) := by
  cases pc <;> simp only [stepLocalGet] at h <;> (repeat' split at h) <;> cases h <;>
    first
    | exact ⟨rfl, fun _ => .inl rfl⟩
    | exact ⟨rfl, fun p => (ensureEmptyOutputFile_final ‹_› p).imp_right .inr⟩
    | exact ⟨rfl, fun p => (remove_action_final _ _ p).imp_right .inl⟩
    | exact ⟨rfl, fun p => (remove_output_final _ _ _ p).imp_right .inl⟩

/-- A step of a local put keeps the bucket; at a final path it writes the empty output empty, or
renames its own temporary output or action file into place. -/
theorem stepLocalPut_stores {w w' : World} {i : Nat} {req : PutRequest} {body : Bytes}
    {bodyErr : Bool} {override : Option Time} {ok : Bool} {now : Time} {pc : LocalPutPc}
    (h : stepLocalPut w i req body bodyErr override ok now pc = some w') :
    w'.remote = w.remote ∧ ∀ p : Path, p.Final →
      w'.fs p = w.fs p ∨ (p = .empty ∧ w'.fs p = some (.file [])) ∨
        (w'.fs p = w.fs (.tmp p i) ∧ (pc = .renameOutput ∧ p = .output req.outputID ∨
          ∃ diskPath, pc = .renameAction diskPath ∧ p = .action req.actionID)) := by
  cases pc with
  | renameOutput =>
    simp only [stepLocalPut] at h
    split at h
    · cases h; exact ⟨rfl, fun _ _ => .inl rfl⟩
    · cases h
      exact ⟨rfl, fun _ final => (rename_final ‹_› final).imp_right fun ⟨same, moved⟩ =>
        .inr ⟨moved, .inl ⟨rfl, same⟩⟩⟩
  | renameAction diskPath =>
    simp only [stepLocalPut] at h
    split at h
    · cases h; exact ⟨rfl, fun _ _ => .inl rfl⟩
    · cases h
      exact ⟨rfl, fun _ final => (rename_final ‹_› final).imp_right fun ⟨same, moved⟩ =>
        .inr ⟨moved, .inr ⟨diskPath, rfl, same⟩⟩⟩
  | _ =>
    simp only [stepLocalPut] at h
    (repeat' split at h) <;> cases h <;>
      first
      | exact ⟨rfl, fun _ _ => .inl rfl⟩
      | exact ⟨rfl, fun _ final => .inl (Function.update_noteq (final.ne_tmp _ _) _ _)⟩
      | exact ⟨rfl, fun p _ => (ensureEmptyOutputFile_final ‹_› p).imp_right .inl⟩

/-- A step of a blob get keeps the bucket, and changes no final path but the empty output, which
it writes empty. -/
theorem stepBlobGet_stores {w w' : World} {i : Nat} {req : GetRequest} {ok : Bool}
    {pc : BlobGetPc} (h : stepBlobGet w i req ok pc = some w') :
    w'.remote = w.remote ∧ ∀ p, w'.fs p = w.fs p ∨ (p = .empty ∧ w'.fs p = some (.file [])) := by
  cases pc <;> simp only [stepBlobGet] at h <;> (repeat' split at h) <;> cases h <;>
    first
    | exact ⟨rfl, fun _ => .inl rfl⟩
    | exact ⟨rfl, fun p => ensureEmptyOutputFile_final ‹_› p⟩

theorem stepBlobPut_stores {w w' : World} {i : Nat} {req : PutRequest} {body : Bytes}
    {bodyErr : Bool} {pc : BlobPutPc} (h : stepBlobPut w i req body bodyErr pc = some w') :
    w'.remote = w.remote ∧ w'.fs = w.fs := by
  cases pc <;> simp only [stepBlobPut] at h <;> (repeat' split at h) <;> cases h <;>
    exact ⟨rfl, rfl⟩

/-- A step of an upload keeps the data directory, and writes the bucket only at its send, the
object it holds under the key it holds. -/
theorem stepUpload_stores {w w' : World} {i : Nat} {req : PutRequest} {diskPath : Path}
    {ok : Bool} {now : Time} {pc : UploadPc} (h : stepUpload w i req diskPath ok now pc = some w') :
    w'.fs = w.fs ∧ (w'.remote = w.remote ∨ ∃ key object, pc = .send key object ∧
      w'.remote = Function.update w.remote key (some object)) := by
  cases pc with
  | send key object =>
    simp only [stepUpload] at h
    split at h
    · cases h; exact ⟨rfl, .inr ⟨key, object, rfl, rfl⟩⟩
    · cases h; exact ⟨rfl, .inl rfl⟩
  | _ =>
    simp only [stepUpload] at h
    (repeat' split at h) <;> cases h <;> exact ⟨rfl, .inl rfl⟩

/-- A step of a call changes a final path only by removing it, by writing the empty output empty,
or by the rename with which a local put moves its own temporary output or action file into
place. -/
theorem stepCall_final {w w' : World} {i : Nat} {ok : Bool} {now : Time} {c : Call}
    (h : stepCall w i ok now c = some w') {p : Path} (final : p.Final) :
    w'.fs p = w.fs p ∨ (w'.fs p = none ∧ p ≠ .empty) ∨
      (p = .empty ∧ w'.fs p = some (.file [])) ∨
      ∃ req body bodyErr override, w'.fs p = w.fs (.tmp p i) ∧
        (c = .localPut req body bodyErr override .renameOutput ∧ p = .output req.outputID ∨
          ∃ diskPath, c = .localPut req body bodyErr override (.renameAction diskPath) ∧
            p = .action req.actionID) := by
  cases c with
  | localGet => exact ((stepLocalGet_stores h).2 p).imp_right (.imp_right .inl)
  | localPut req body bodyErr override pc =>
    rcases (stepLocalPut_stores h).2 p final with same | empty | ⟨moved, renamed⟩
    · exact .inl same
    · exact .inr (.inr (.inl empty))
    · refine .inr (.inr (.inr ⟨req, body, bodyErr, override, moved, ?_⟩))
      rcases renamed with ⟨rfl, out⟩ | ⟨diskPath, rfl, act⟩
      · exact .inl ⟨rfl, out⟩
      · exact .inr ⟨diskPath, rfl, act⟩
  | blobGet => exact ((stepBlobGet_stores h).2 p).imp_right (.inr ∘ .inl)
  | blobPut => exact .inl (congrFun (stepBlobPut_stores h).2 p)
  | upload => exact .inl (congrFun (stepUpload_stores h).1 p)

/-- Only an upload's send writes the bucket, the object it holds under the key it holds. -/
theorem stepCall_remote {w w' : World} {i : Nat} {ok : Bool} {now : Time} {c : Call}
    (h : stepCall w i ok now c = some w') :
    w'.remote = w.remote ∨ ∃ req diskPath key object, c = .upload req diskPath (.send key object) ∧
      w'.remote = Function.update w.remote key (some object) := by
  cases c with
  | localGet => exact .inl (stepLocalGet_stores h).1
  | localPut => exact .inl (stepLocalPut_stores h).1
  | blobGet => exact .inl (stepBlobGet_stores h).1
  | blobPut => exact .inl (stepBlobPut_stores h).1
  | upload req diskPath pc =>
    rcases (stepUpload_stores h).2 with same | ⟨key, object, rfl, sent⟩
    · exact .inl same
    · exact .inr ⟨req, diskPath, key, object, rfl, sent⟩

/-! ## Provenance -/

/-- `content` is the whole body of a put for `outputID`: read without error and exactly
`BodySize` bytes long. -/
def WholeBody (w : World) (outputID content : Bytes) : Prop :=
  ∃ k req override pc, w.calls k = some (.localPut req content false override pc) ∧
    req.outputID = outputID ∧ 0 < req.bodySize.val ∧ (content.length : Int) = req.bodySize.val

/-- A put that has a body read it whole: without error and exactly `BodySize` bytes. -/
def BodyRead (req : PutRequest) (body : Bytes) (bodyErr : Bool) : Prop :=
  0 < req.bodySize.val → bodyErr = false ∧ (body.length : Int) = req.bodySize.val

/-- `content` is the header that a put for `actionID` writes, with some time, after reading its
whole body when it has one. -/
def PutHeader (w : World) (actionID content : Bytes) : Prop :=
  ∃ k req body bodyErr override pc time,
    w.calls k = some (.localPut req body bodyErr override pc) ∧ req.actionID = actionID ∧
    content = (EntryMeta.mk actionID req.outputID req.bodySize time).writeTo ∧
    BodyRead req body bodyErr

/-- Where the files at the final paths come from: the data directory `fs₀` the daemon opened on,
or a put that wrote them whole. -/
structure Provenance (fs₀ : Path → Option Node) (w : World) : Prop where
  output : ∀ outputID content, w.fs (.output outputID) = some (.file content) →
    fs₀ (.output outputID) = some (.file content) ∨ WholeBody w outputID content
  action : ∀ actionID content, w.fs (.action actionID) = some (.file content) →
    fs₀ (.action actionID) = some (.file content) ∨ PutHeader w actionID content
  empty : w.fs .empty = fs₀ .empty ∨ w.fs .empty = some (.file [])

/-- What the temporary files of local put `i` hold at its program point. -/
def TmpPcInv (w : World) (i : Nat) (req : PutRequest) (body : Bytes) (bodyErr : Bool) :
    LocalPutPc → Prop
  | .renameOutput => 0 < req.bodySize.val ∧ BodyRead req body bodyErr ∧
      w.fs (.tmp (.output req.outputID) i) = some (.file body)
  | .writeAction _ => BodyRead req body bodyErr
  | .renameAction _ => BodyRead req body bodyErr ∧ ∃ time,
      w.fs (.tmp (.action req.actionID) i) =
        some (.file (EntryMeta.mk req.actionID req.outputID req.bodySize time).writeTo)
  | _ => True

/-- `Provenance`, and `TmpPcInv` of every local put. -/
structure DiskInv (fs₀ : Path → Option Node) (w : World) extends Provenance fs₀ w : Prop where
  tmp : ∀ i req body bodyErr override pc, w.calls i = some (.localPut req body bodyErr override pc) →
    TmpPcInv w i req body bodyErr pc

/-- `TmpPcInv` reads only the call's own temporary files. -/
theorem TmpPcInv.of_tmp {w w' : World} {j : Nat} {req : PutRequest} {body : Bytes}
    {bodyErr : Bool} {pc : LocalPutPc} (inv : TmpPcInv w j req body bodyErr pc)
    (same : ∀ target, w'.fs (.tmp target j) = w.fs (.tmp target j)) :
    TmpPcInv w' j req body bodyErr pc := by
  cases pc with
  | renameOutput => exact ⟨inv.1, inv.2.1, (same _).trans inv.2.2⟩
  | renameAction => exact ⟨inv.1, inv.2.imp fun _ file => (same _).trans file⟩
  | _ => exact inv

theorem stepLocalPut_tmpPcInv {w w' : World} {i : Nat} {req : PutRequest} {body : Bytes}
    {bodyErr : Bool} {override : Option Time} {ok : Bool} {now : Time} {pc : LocalPutPc}
    (found : w.calls i = some (.localPut req body bodyErr override pc))
    (mine : TmpPcInv w i req body bodyErr pc)
    (h : stepLocalPut w i req body bodyErr override ok now pc = some w') :
    ∀ pc', w'.calls i = some (.localPut req body bodyErr override pc') →
      TmpPcInv w' i req body bodyErr pc' := by
  intro pc' found'
  cases pc <;> simp only [stepLocalPut] at h <;> (repeat' split at h) <;> cases h <;>
    simp only [World.panic_calls, found, World.goLocalPut, World.setCall_calls,
      Function.update_same, Option.some.injEq, Call.localPut.injEq, true_and] at found' <;>
    subst found' <;>
    first
    | trivial
    | exact mine.2.1
    | exact fun positive => absurd positive ‹¬0 < req.bodySize.val›
    | exact ⟨mine, override.getD now, by simp [World.goLocalPut]⟩
    | obtain rfl := outputPath_eq_some ‹outputPath req.outputID = some _›
      exact ⟨‹_›, fun _ => ⟨by simpa using ‹¬bodyErr = true›,
        by simpa using ‹¬(body.length : Int) ≠ req.bodySize.val›⟩, by simp [World.goLocalPut]⟩

/-! ## Every step keeps the invariant -/

/-- Every call of `w` is still a call of `w'`, with its arguments. -/
def KeepsCalls (w w' : World) : Prop :=
  ∀ k c, w.calls k = some c → ∃ c', w'.calls k = some c' ∧ c.SameArgs c'

section Keep

variable {w w' : World}

theorem Frame.keepsCalls {i : Nat} (frame : Frame i w w')
    (ids : ∀ k, w.next ≤ k → w.calls k = none) : KeepsCalls w w' := by
  intro k c found
  by_cases self : k = i
  · subst self; exact frame.self c found
  · exact ⟨c, frame.calls_of_ne ids self found, .refl c⟩

theorem KeepsCalls.localPut (keeps : KeepsCalls w w') {k : Nat} {req : PutRequest} {body : Bytes}
    {bodyErr : Bool} {override : Option Time} {pc : LocalPutPc}
    (found : w.calls k = some (.localPut req body bodyErr override pc)) :
    ∃ pc', w'.calls k = some (.localPut req body bodyErr override pc') := by
  obtain ⟨c', found', args⟩ := keeps k _ found
  cases c' with
  | localPut req' body' bodyErr' override' pc' =>
    obtain ⟨rfl, rfl, rfl, rfl⟩ := args
    exact ⟨pc', found'⟩
  | _ => exact (args : False).elim

theorem KeepsCalls.upload (keeps : KeepsCalls w w') {k : Nat} {req : PutRequest} {diskPath : Path}
    {pc : UploadPc} (found : w.calls k = some (.upload req diskPath pc)) :
    ∃ pc', w'.calls k = some (.upload req diskPath pc') := by
  obtain ⟨c', found', args⟩ := keeps k _ found
  cases c' with
  | upload req' diskPath' pc' =>
    obtain ⟨rfl, rfl⟩ := args
    exact ⟨pc', found'⟩
  | _ => exact (args : False).elim

/-- A step that spawns a call at the free id `w.next` keeps every call. -/
theorem keepsCalls_spawn (free : w.calls w.next = none) (c : Call) : KeepsCalls w (w.spawn c) :=
  fun k c' found => ⟨c', by rw [World.spawn_calls, Function.update_noteq (fun same => by
    rw [same, free] at found; cases found)]; exact found, .refl c'⟩

theorem WholeBody.keep (keeps : KeepsCalls w w') {outputID content : Bytes} :
    WholeBody w outputID content → WholeBody w' outputID content
  | ⟨_, _, _, _, found, rest⟩ =>
    let ⟨_, found'⟩ := keeps.localPut found
    ⟨_, _, _, _, found', rest⟩

theorem PutHeader.keep (keeps : KeepsCalls w w') {actionID content : Bytes} :
    PutHeader w actionID content → PutHeader w' actionID content
  | ⟨_, _, _, _, _, _, _, found, rest⟩ =>
    let ⟨_, found'⟩ := keeps.localPut found
    ⟨_, _, _, _, _, _, _, found', rest⟩

/-- A step that keeps every final path and every local put keeps `Provenance`. -/
theorem Provenance.of_same {fs₀ : Path → Option Node} (inv : Provenance fs₀ w)
    (keeps : KeepsCalls w w') (same : ∀ p, p.Final → w'.fs p = w.fs p) : Provenance fs₀ w' where
  output _ _ file := (inv.output _ _ ((same (.output _) trivial).symm.trans file)).imp_right
    (·.keep keeps)
  action _ _ file := (inv.action _ _ ((same (.action _) trivial).symm.trans file)).imp_right
    (·.keep keeps)
  empty := same .empty trivial ▸ inv.empty

end Keep

section Step

variable {fs₀ : Path → Option Node} {w w' : World} {i : Nat}

/-- The files at the final paths after a step of call `i`. The rename of a put's temporary output
brings its whole body, and the rename of its temporary action file the header it wrote after
reading its whole body. -/
theorem DiskInv.provenance_call (inv : DiskInv fs₀ w) (ids : ∀ k, w.next ≤ k → w.calls k = none)
    {ok : Bool} {now : Time} {c : Call} (found : w.calls i = some c)
    (h : stepCall w i ok now c = some w') : Provenance fs₀ w' := by
  have keeps := (stepCall_frame found h).keepsCalls ids
  refine ⟨fun outputID content file => ?_, fun actionID content file => ?_, ?_⟩
  · rcases stepCall_final h (p := .output outputID) trivial with
      same | ⟨gone, _⟩ | ⟨empty, _⟩ | ⟨req, body, bodyErr, override, moved, ⟨rfl, out⟩ | ⟨_, _, act⟩⟩
    · exact (inv.output _ _ (same ▸ file)).imp_right (·.keep keeps)
    · rw [gone] at file; cases file
    · cases empty
    · cases out
      obtain ⟨positive, read, tmpFile⟩ := inv.tmp _ _ _ _ _ _ found
      rw [moved, tmpFile, Option.some.injEq, Node.file.injEq] at file
      subst file
      obtain ⟨rfl, len⟩ := read positive
      obtain ⟨_, found'⟩ := keeps.localPut found
      exact .inr ⟨i, req, override, _, found', rfl, positive, len⟩
    · cases act
  · rcases stepCall_final h (p := .action actionID) trivial with
      same | ⟨gone, _⟩ | ⟨empty, _⟩ | ⟨req, body, bodyErr, override, moved, ⟨_, out⟩ | ⟨_, rfl, act⟩⟩
    · exact (inv.action _ _ (same ▸ file)).imp_right (·.keep keeps)
    · rw [gone] at file; cases file
    · cases empty
    · cases out
    · cases act
      obtain ⟨read, time, tmpFile⟩ := inv.tmp _ _ _ _ _ _ found
      rw [moved, tmpFile, Option.some.injEq, Node.file.injEq] at file
      obtain ⟨_, found'⟩ := keeps.localPut found
      exact .inr ⟨i, req, body, bodyErr, override, _, time, found', rfl, file.symm, read⟩
  · rcases stepCall_final h (p := .empty) trivial with
      same | ⟨_, kept⟩ | ⟨_, empty⟩ | ⟨_, _, _, _, _, ⟨_, out⟩ | ⟨_, _, act⟩⟩
    · exact same ▸ inv.empty
    · exact absurd rfl kept
    · exact .inr empty
    · cases out
    · cases act

/-- `TmpPcInv` of every local put after a step of call `i`: the temporary files of the other
calls are untouched, and call `i` writes its own. -/
theorem DiskInv.tmp_call (inv : DiskInv fs₀ w) {ok : Bool} {now : Time} {c : Call} (found : w.calls i = some c)
    (h : stepCall w i ok now c = some w') :
    ∀ j req body bodyErr override pc, w'.calls j = some (.localPut req body bodyErr override pc) →
      TmpPcInv w' j req body bodyErr pc := by
  have frame := stepCall_frame found h
  intro j req body bodyErr override pc found'
  by_cases self : j = i
  · subst self
    obtain ⟨c', again, args⟩ := frame.self c found
    rw [found'] at again
    cases again
    cases c with
    | localPut req₀ body₀ bodyErr₀ override₀ pc₀ =>
      obtain ⟨rfl, rfl, rfl, rfl⟩ := args
      exact stepLocalPut_tmpPcInv found (inv.tmp _ _ _ _ _ _ found) h pc found'
    | _ => exact (args : False).elim
  · rcases frame.calls_cases self found' with before | fresh
    · exact (inv.tmp _ _ _ _ _ _ before).of_tmp fun target => frame.tmp target j self
    · cases pc <;> trivial

theorem DiskInv.step (inv : DiskInv fs₀ w) (ids : ∀ k, w.next ≤ k → w.calls k = none)
    {l : Label} (h : step w l = some w') : DiskInv fs₀ w' := by
  rcases step_cases h with ⟨i, ok, now, c, found, stepped⟩ | ⟨c, fresh, rfl⟩ | quiet
  · exact ⟨inv.provenance_call ids found stepped, inv.tmp_call found stepped⟩
  · refine ⟨inv.toProvenance.of_same (keepsCalls_spawn (ids _ le_rfl) c) fun _ _ => rfl, ?_⟩
    intro j req body bodyErr override pc found'
    by_cases spawned : j = w.next
    · subst spawned
      simp only [World.spawn_calls, Function.update_same, Option.some.injEq] at found'
      subst found'
      cases pc <;> trivial
    · simp only [World.spawn_calls, Function.update_noteq spawned] at found'
      exact inv.tmp _ _ _ _ _ _ found'
  · have keeps : KeepsCalls w w' := fun _ c found => ⟨c, quiet.calls ▸ found, .refl c⟩
    refine ⟨inv.toProvenance.of_same keeps fun p _ => by rw [quiet.fs], ?_⟩
    intro j req body bodyErr override pc found'
    rw [quiet.calls] at found'
    exact (inv.tmp _ _ _ _ _ _ found').of_tmp fun _ => by rw [quiet.fs]

end Step

/-- `DiskInv` over a run from a reachable state. -/
theorem DiskInv.run {fs₀ : Path → Option Node} :
    ∀ {w w' : World} {ls : List Label}, Reach w → DiskInv fs₀ w → run w ls = some w' →
      DiskInv fs₀ w'
  | _, _, [], _, inv, h => by cases h; exact inv
  | _, _, l :: ls, reach, inv, h => by
    simp only [Gscache.run, Option.bind_eq_some] at h
    obtain ⟨w₁, first, rest⟩ := h
    exact DiskInv.run (reach.step l first) (inv.step reach.ids first) rest

/-- Over every run of the daemon from any data directory `fs`, bucket and installed archives: a
file at an output path is the one the directory started with, or the whole body of a put for its
OutputID, read without error and exactly `BodySize` bytes long; a file at an action path is the one
the directory started with, or the header written by a put for its ActionID after reading its
whole body; and the shared empty output is the one the directory started with, or empty. -/
theorem run_provenance (backend : BackendKind) (fs : Path → Option Node)
    (remote : Bytes → Option Bytes) (archives : Bytes → Option ArReader) {ls : List Label}
    {w : World} (ran : run (World.init backend fs remote archives) ls = some w) :
    Provenance fs w :=
  (DiskInv.run (.init backend fs remote archives)
    ⟨⟨fun _ _ file => .inl file, fun _ _ file => .inl file, .inl rfl⟩, fun _ _ _ _ _ _ => nofun⟩
    ran).toProvenance

/-- Witness: a put of one byte on an empty data directory, run to its end, leaves its body at its
output path. -/
theorem run_provenance_put :
    ∃ w, run (World.init .localBackend (fun _ => none) (fun _ => none) (fun _ => none))
        (.put ⟨[1], [2], Int64.wrap 1⟩ [5] false :: List.replicate 6 (.run 0 true ⟨0⟩)) = some w ∧
      w.fs (.output [2]) = some (.file [5]) ∧ Provenance (fun _ => none) w :=
  ⟨_, rfl, rfl, @run_provenance .localBackend (fun _ => none) (fun _ => none) (fun _ => none)
    (.put ⟨[1], [2], Int64.wrap 1⟩ [5] false :: List.replicate 6 (.run 0 true ⟨0⟩)) _ rfl⟩

/-! ## The bucket -/

/-- What an upload of `req` sends under `key`: the object name of its ActionID, and the header of
its request, with some time, followed by bytes, none when the put has no body. -/
def UploadObject (req : PutRequest) (key object : Bytes) : Prop :=
  cacheEntityKey req.actionID = some key ∧ ∃ time content,
    object = (EntryMeta.mk req.actionID req.outputID req.bodySize time).writeTo ++ content ∧
    (req.bodySize.val ≤ 0 → content = [])

/-- `object` is what an upload of the daemon sends under `key`. -/
def Uploaded (w : World) (key object : Bytes) : Prop :=
  ∃ k req diskPath pc, w.calls k = some (.upload req diskPath pc) ∧ UploadObject req key object

/-- Where the bucket's objects come from: the bucket `remote₀` the daemon opened on, or an upload;
and what every upload about to send holds. -/
structure BucketInv (remote₀ : Bytes → Option Bytes) (w : World) : Prop where
  objects : ∀ key object, w.remote key = some object →
    remote₀ key = some object ∨ Uploaded w key object
  sends : ∀ i req diskPath key object,
    w.calls i = some (.upload req diskPath (.send key object)) → UploadObject req key object

section Bucket

variable {w w' : World} {i : Nat}

/-- An upload reaches its send with the object name of its ActionID and its own header. -/
theorem stepUpload_sends {req : PutRequest} {diskPath : Path} {ok : Bool} {now : Time}
    {pc : UploadPc} (found : w.calls i = some (.upload req diskPath pc))
    (mine : ∀ key object, pc = .send key object → UploadObject req key object)
    (h : stepUpload w i req diskPath ok now pc = some w') :
    ∀ key object, w'.calls i = some (.upload req diskPath (.send key object)) →
      UploadObject req key object := by
  intro key object found'
  cases pc <;> simp only [stepUpload] at h <;> (repeat' split at h) <;> cases h <;>
    simp only [found, World.goUpload, World.setCall_calls, Function.update_same,
      Option.some.injEq, Call.upload.injEq, true_and, UploadPc.send.injEq, reduceCtorEq] at found'
  all_goals first
    | exact mine key object (by rw [found'.1, found'.2])
    | (obtain ⟨rfl, rfl⟩ := found'
       have positive : 0 < req.bodySize.val := ‹_›
       exact ⟨‹_›, _, _, rfl, fun none => absurd positive (not_lt.mpr none)⟩)
    | (obtain ⟨rfl, rfl⟩ := found'
       exact ⟨‹_›, _, [], (List.append_nil _).symm, fun _ => rfl⟩)

theorem Uploaded.keep (keeps : KeepsCalls w w') {key object : Bytes} :
    Uploaded w key object → Uploaded w' key object
  | ⟨_, _, _, _, found, sent⟩ =>
    let ⟨_, found'⟩ := keeps.upload found
    ⟨_, _, _, _, found', sent⟩

/-- A step that keeps the bucket and every call, and moves no call to a send, keeps
`BucketInv`. -/
theorem BucketInv.of_same {remote₀ : Bytes → Option Bytes} (inv : BucketInv remote₀ w)
    (keeps : KeepsCalls w w') (same : w'.remote = w.remote)
    (sends : ∀ i req diskPath key object,
      w'.calls i = some (.upload req diskPath (.send key object)) → UploadObject req key object) :
    BucketInv remote₀ w' :=
  ⟨fun _ _ found => (inv.objects _ _ (same ▸ found)).imp_right (·.keep keeps), sends⟩

theorem BucketInv.step {remote₀ : Bytes → Option Bytes} (inv : BucketInv remote₀ w)
    (ids : ∀ k, w.next ≤ k → w.calls k = none) {l : Label} (h : step w l = some w') :
    BucketInv remote₀ w' := by
  rcases step_cases h with ⟨i, ok, now, c, found, stepped⟩ | ⟨c, fresh, rfl⟩ | quiet
  · have frame := stepCall_frame found stepped
    have keeps := frame.keepsCalls ids
    have sends : ∀ j req diskPath key object,
        w'.calls j = some (.upload req diskPath (.send key object)) → UploadObject req key object := by
      intro j req diskPath key object found'
      by_cases self : j = i
      · subst self
        obtain ⟨c', again, args⟩ := frame.self c found
        rw [found'] at again
        cases again
        cases c with
        | upload req₀ diskPath₀ pc₀ =>
          obtain ⟨rfl, rfl⟩ := args
          exact stepUpload_sends found (fun _ _ same => inv.sends _ _ _ _ _ (same ▸ found)) stepped
            key object found'
        | _ => exact (args : False).elim
      · rcases frame.calls_cases self found' with before | fresh
        · exact inv.sends _ _ _ _ _ before
        · exact fresh.elim
    rcases stepCall_remote stepped with same | ⟨req, diskPath, key, object, rfl, sent⟩
    · exact inv.of_same keeps same sends
    · refine ⟨fun key' object' stored => ?_, sends⟩
      rw [sent] at stored
      by_cases here : key' = key
      · subst here
        rw [Function.update_same, Option.some.injEq] at stored
        subst stored
        obtain ⟨_, found'⟩ := keeps.upload found
        exact .inr ⟨i, req, diskPath, _, found', inv.sends _ _ _ _ _ found⟩
      · rw [Function.update_noteq here] at stored
        exact (inv.objects _ _ stored).imp_right (·.keep keeps)
  · refine inv.of_same (keepsCalls_spawn (ids _ le_rfl) c) rfl fun j req diskPath key object found' => ?_
    by_cases spawned : j = w.next
    · subst spawned
      simp only [World.spawn_calls, Function.update_same, Option.some.injEq] at found'
      subst found'
      exact fresh.elim
    · simp only [World.spawn_calls, Function.update_noteq spawned] at found'
      exact inv.sends _ _ _ _ _ found'
  · exact inv.of_same (fun _ c found => ⟨c, quiet.calls ▸ found, .refl c⟩) quiet.remote
      fun _ _ _ _ _ found' => inv.sends _ _ _ _ _ (quiet.calls ▸ found')

theorem BucketInv.run {remote₀ : Bytes → Option Bytes} :
    ∀ {w w' : World} {ls : List Label}, Reach w → BucketInv remote₀ w → run w ls = some w' →
      BucketInv remote₀ w'
  | _, _, [], _, inv, h => by cases h; exact inv
  | _, _, l :: ls, reach, inv, h => by
    simp only [Gscache.run, Option.bind_eq_some] at h
    obtain ⟨w₁, first, rest⟩ := h
    exact BucketInv.run (reach.step l first) (inv.step reach.ids first) rest

end Bucket

/-- Over every run of the daemon from any data directory, bucket `remote` and installed
archives, an object of the bucket is the one the bucket started with, or was uploaded by a put:
its key is the object name of the put's ActionID, and it is the put's header, with some time,
followed by bytes, none when the put has no body. When the IDs are shorter than `2^32` bytes,
`ReadEntryMeta` reads that header back, with the put's ActionID, and leaves exactly the bytes
after it, so that a download of the object passes the ActionID check of `get`. -/
theorem run_bucket_provenance (backend : BackendKind) (fs : Path → Option Node)
    (remote : Bytes → Option Bytes) (archives : Bytes → Option ArReader) {ls : List Label}
    {w : World} (ran : run (World.init backend fs remote archives) ls = some w) {key object : Bytes}
    (stored : w.remote key = some object) :
    remote key = some object ∨ ∃ req time content,
      (∃ k diskPath pc, w.calls k = some (.upload req diskPath pc)) ∧
      cacheEntityKey req.actionID = some key ∧
      object = (EntryMeta.mk req.actionID req.outputID req.bodySize time).writeTo ++ content ∧
      (req.bodySize.val ≤ 0 → content = []) ∧
      (req.actionID.length < 2 ^ 32 → req.outputID.length < 2 ^ 32 →
        readEntryMeta object =
          .ok (⟨req.actionID, req.outputID, req.bodySize, EntryMeta.readTime time⟩, content)) := by
  have inv := BucketInv.run (.init backend fs remote archives)
    ⟨fun _ _ stored => .inl stored, fun _ _ _ _ _ => nofun⟩ ran
  refine (inv.objects key object stored).imp_right fun ⟨k, req, diskPath, pc, found, named, sent⟩ => ?_
  obtain ⟨time, content, rfl, empty⟩ := sent
  exact ⟨req, time, content, ⟨k, diskPath, pc, found⟩, named, rfl, empty,
    fun shortA shortO => readEntryMeta_writeTo_eq _ content shortA shortO⟩

/-- A blob backend's `Put` of one byte: the put (call 0) writes the disk through `diskStore.Put`
(call 1), schedules its upload (call 2), and the upload sends the object. -/
def uploadRun : List Label :=
  .put ⟨[1], [2], Int64.wrap 1⟩ [5] false ::
    [0, 1, 1, 1, 1, 1, 1, 0, 0, 2, 2, 2].map fun i => .run i true ⟨0⟩

/-- Witness: the object that run uploads under `b/01/01`. -/
theorem run_bucket_provenance_upload :
    ∃ w object, run (World.init .blobBackend (fun _ => none) (fun _ => none) (fun _ => none))
        uploadRun = some w ∧ w.remote (ascii "b/01/01") = some object ∧
      ((fun _ => none : Bytes → Option Bytes) (ascii "b/01/01") = some object ∨
        ∃ req time content,
          (∃ k diskPath pc, w.calls k = some (.upload req diskPath pc)) ∧
          cacheEntityKey req.actionID = some (ascii "b/01/01") ∧
          object = (EntryMeta.mk req.actionID req.outputID req.bodySize time).writeTo ++ content ∧
          (req.bodySize.val ≤ 0 → content = []) ∧
          (req.actionID.length < 2 ^ 32 → req.outputID.length < 2 ^ 32 →
            readEntryMeta object =
              .ok (⟨req.actionID, req.outputID, req.bodySize, EntryMeta.readTime time⟩, content))) :=
  ⟨_, _, rfl, rfl, @run_bucket_provenance .blobBackend (fun _ => none) (fun _ => none)
    (fun _ => none) uploadRun _ rfl (ascii "b/01/01") _ rfl⟩

end Gscache
