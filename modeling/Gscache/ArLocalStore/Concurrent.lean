import Gscache.ArLocalStore
import Gscache.Backend.State

/-!
# The local archive store under concurrent calls

`ArLocalStore` says it is concurrent-safe, yet `Put` (`arlocalstore.go`) holds no lock across its
file operations: only `set` takes the mutex. Here every `Put` and `LoadLocal` is a task that takes
its file operations one at a time (`putStep`, `loadStep`), and the tasks interleave in any order.
A `Put` draws its `uniqueId` from the store's counter when it is called. A task that has returned
takes no more steps: scheduling it changes nothing.

Results:
1. `arRun_archived`: over every interleaving, a file at the archive path of a keyspace is the file
   that was there at the start, or the whole stream of a `Put` on that keyspace, which
   `NewArReader` accepted and which that `Put` renamed into place: a truncated or rejected stream
   never gets there. Every installed reader is `NewArReader`'s reader of such a file.
2. `arRun_serial`: calls that run one after another, each to its return before the next is
   called, leave the store `ArLocalStore.runCalls` computes, and each returns what the sequential
   `put` or `loadLocal` returns.

`Complete`, which holds over every sequence of calls, does not hold over interleavings: in the
example after `arRun_archived`, two overlapping `Put`s on one keyspace both succeed and leave the
reader of the first installed over the file of the second.
-/

namespace Gscache

/-- Where a `Put` is: before the operation each constructor names. -/
inductive ArPutPc
  /-- `os.Create` of `<keyspace>.zip.tmp.<uniqueId>`. -/
  | create
  /-- `io.Copy` of the stream into the temporary file. -/
  | copy
  /-- `NewArReader` of the temporary file. -/
  | openTmp
  /-- `os.Rename` of the temporary file over the archive path, the reader opened. -/
  | rename (reader : ArReader)
  /-- `set`, installing the reader. -/
  | set (reader : ArReader)
  /-- The `os.Remove` of the temporary file, before returning `e`. -/
  | cleanup (e : ArPutError)
  | done (r : Except ArPutError Unit)
deriving DecidableEq

/-- Where a `LoadLocal` is. -/
inductive ArLoadPc
  /-- `os.Stat` of the archive path. -/
  | stat
  /-- `NewArReader` of the archive file. -/
  | openArchive
  /-- `set`, installing the reader. -/
  | set (reader : ArReader)
  | done (r : Except ArLoadError Unit)
deriving DecidableEq

namespace ArLocalStore

/-- `os.Create` and the writes of `io.Copy`: the file at `p` holds `content`. -/
def write (s : ArLocalStore) (p : ArPath) (content : Bytes) : ArLocalStore :=
  { s with files := Function.update s.files p (some content) }

/-- `os.Rename(src, dst)`: the file at `src` moves to `dst`. It fails when the operation fails or
there is no file at `src`. -/
def rename (s : ArLocalStore) (src dst : ArPath) (ok : Bool) : Option ArLocalStore :=
  if ok then (s.files src).map fun b =>
    { s with files := Function.update (Function.update s.files src none) dst (some b) }
  else none

/-- `set(keyspace, arReader)`, under the mutex. -/
def set (s : ArLocalStore) (keyspace : Bytes) (reader : ArReader) : ArLocalStore :=
  { s with readers := Function.update s.readers keyspace (some reader) }

/-- One step of `Put(keyspace, r)` at `pc`, whose temporary file has id `uniqueId`; `none` once it
has returned. -/
def putStep (newArReader : Bytes → Option ArReader) (s : ArLocalStore) (keyspace stream : Bytes)
    (streamErr : Bool) (io : PutIO) (uniqueId : Nat) : ArPutPc → Option (ArLocalStore × ArPutPc)
  | .create =>
    if !io.createOk then some (s, .done (.error .create))
    else some (s.write (.tmp keyspace uniqueId) [], .copy)
  | .copy =>
    if streamErr || !io.copyOk then
      some (s.write (.tmp keyspace uniqueId) (stream.take io.copied), .cleanup .write)
    else some (s.write (.tmp keyspace uniqueId) stream, .openTmp)
  | .openTmp =>
    match s.openReader newArReader (.tmp keyspace uniqueId) io.openOk with
    | none => some (s, .cleanup .invalid)
    | some reader => some (s, .rename reader)
  | .rename reader =>
    match s.rename (.tmp keyspace uniqueId) (.archive keyspace) io.renameOk with
    | none => some (s, .cleanup .rename)
    | some s' => some (s', .set reader)
  | .set reader => some (s.set keyspace reader, .done (.ok ()))
  | .cleanup e => some (s.cleanup (.tmp keyspace uniqueId) io.removeOk, .done (.error e))
  | .done _ => none

/-- One step of `LoadLocal(keyspace)` at `pc`; `none` once it has returned. -/
def loadStep (newArReader : Bytes → Option ArReader) (s : ArLocalStore) (keyspace : Bytes)
    (statOk openOk : Bool) : ArLoadPc → Option (ArLocalStore × ArLoadPc)
  | .stat =>
    if !statOk then some (s, .done (.error .stat))
    else match s.files (.archive keyspace) with
      | none => some (s, .done (.ok ()))
      | some _ => some (s, .openArchive)
  | .openArchive =>
    match s.openReader newArReader (.archive keyspace) openOk with
    | none => some (s, .done (.error .broken))
    | some reader => some (s, .set reader)
  | .set reader => some (s.set keyspace reader, .done (.ok ()))
  | .done _ => none

end ArLocalStore

open ArLocalStore (ArCall)

/-- A call of the store in progress, with its arguments and its program point. -/
inductive ArTask
  | put (keyspace stream : Bytes) (streamErr : Bool) (io : PutIO) (uniqueId : Nat) (pc : ArPutPc)
  | loadLocal (keyspace : Bytes) (statOk openOk : Bool) (pc : ArLoadPc)
deriving DecidableEq

/-- One step of a task; `none` once it has returned. -/
def ArTask.step (newArReader : Bytes → Option ArReader) (s : ArLocalStore) :
    ArTask → Option (ArLocalStore × ArTask)
  | .put keyspace stream streamErr io uniqueId pc =>
    (s.putStep newArReader keyspace stream streamErr io uniqueId pc).map fun (s', pc') =>
      (s', .put keyspace stream streamErr io uniqueId pc')
  | .loadLocal keyspace statOk openOk pc =>
    (s.loadStep newArReader keyspace statOk openOk pc).map fun (s', pc') =>
      (s', .loadLocal keyspace statOk openOk pc')

/-- The store and the calls made on it, by id. -/
structure ArWorld where
  store : ArLocalStore
  tasks : Nat → Option ArTask
  /-- The id of the next call. -/
  next : Nat

/-- `NewArLocalStore` on an archive directory holding `files`: no call yet. -/
def ArWorld.init (files : ArPath → Option Bytes) (nextId : Nat) : ArWorld :=
  ⟨newArLocalStore files nextId, fun _ => none, 0⟩

/-- A new call, with id `w.next`; a `Put` takes the next `uniqueId`. -/
def ArWorld.spawn (w : ArWorld) : ArCall → ArWorld
  | .put keyspace stream streamErr io =>
    ⟨{ w.store with nextId := w.store.nextId + 1 },
      Function.update w.tasks w.next (some (.put keyspace stream streamErr io w.store.nextId .create)),
      w.next + 1⟩
  | .loadLocal keyspace statOk openOk =>
    ⟨w.store, Function.update w.tasks w.next (some (.loadLocal keyspace statOk openOk .stat)),
      w.next + 1⟩

/-- What the scheduler does next: make a call, or let call `t` take a step. -/
inductive ArLabel
  | call (c : ArCall)
  | run (t : Nat)

/-- One step of the store; `none` when there is no call `t`. -/
def arStep (newArReader : Bytes → Option ArReader) (w : ArWorld) : ArLabel → Option ArWorld
  | .call c => some (w.spawn c)
  | .run t => (w.tasks t).map fun task =>
    match task.step newArReader w.store with
    | none => w
    | some (s, task') => ⟨s, Function.update w.tasks t (some task'), w.next⟩

/-- The store after a schedule. -/
def arRun (newArReader : Bytes → Option ArReader) (w : ArWorld) : List ArLabel → Option ArWorld
  | [] => some w
  | l :: ls => (arStep newArReader w l).bind fun w' => arRun newArReader w' ls

theorem arRun_append (newArReader : Bytes → Option ArReader) :
    ∀ (w : ArWorld) (ls ls' : List ArLabel),
      arRun newArReader w (ls ++ ls') = (arRun newArReader w ls).bind (arRun newArReader · ls')
  | _, [], _ => rfl
  | w, l :: ls, ls' => by
    simp only [List.cons_append, arRun]
    cases arStep newArReader w l with
    | none => rfl
    | some w' => exact arRun_append newArReader w' ls ls'

/-! ## Calls run one at a time -/

/-- A task run alone for `n` steps from store `s`, or until it returns. -/
def ArTask.runAlone (newArReader : Bytes → Option ArReader) : Nat → ArLocalStore → ArTask →
    ArLocalStore × ArTask
  | 0, s, task => (s, task)
  | n + 1, s, task =>
    match task.step newArReader s with
    | none => (s, task)
    | some (s', task') => ArTask.runAlone newArReader n s' task'

/-- The task a call returns in the sequential model, called on store `s`: it carries the result of
`put` or `loadLocal`. -/
def ArLocalStore.ArCall.returned (newArReader : Bytes → Option ArReader) (s : ArLocalStore) : ArCall → ArTask
  | .put keyspace stream streamErr io =>
    .put keyspace stream streamErr io s.nextId (.done (s.put newArReader keyspace stream streamErr io).2)
  | .loadLocal keyspace statOk openOk =>
    .loadLocal keyspace statOk openOk (.done (s.loadLocal newArReader keyspace statOk openOk).2)

/-- Each call made at `t`, `t + 1`, … and run for five steps before the next is made. -/
def serial (t : Nat) : List ArCall → List ArLabel
  | [] => []
  | c :: calls => .call c :: List.replicate 5 (.run t) ++ serial (t + 1) calls

section Serial

variable {newArReader : Bytes → Option ArReader}

theorem ArTask.runAlone_returned {s : ArLocalStore} {task : ArTask}
    (returned : task.step newArReader s = none) : ∀ n, task.runAlone newArReader n s = (s, task)
  | 0 => rfl
  | n + 1 => by simp only [ArTask.runAlone, returned]

/-- A task scheduled `n` times in a row does what it does alone. -/
theorem arRun_runAlone {t : Nat} : ∀ (n : Nat) {w : ArWorld} {task : ArTask},
    w.tasks t = some task →
    arRun newArReader w (List.replicate n (.run t)) =
      some ⟨(task.runAlone newArReader n w.store).1,
        Function.update w.tasks t (some (task.runAlone newArReader n w.store).2), w.next⟩
  | 0, w, _, found => by
    simp only [List.replicate, arRun, ArTask.runAlone, ← found, Function.update_eq_self]
  | n + 1, w, task, found => by
    simp only [List.replicate, arRun, arStep, found, Option.map_some', Option.some_bind,
      ArTask.runAlone]
    split
    · rename_i returned
      rw [arRun_runAlone n found, ArTask.runAlone_returned returned]
    · rw [arRun_runAlone n (Function.update_same _ _ _), Function.update_idem]

theorem put_runAlone (s : ArLocalStore) (keyspace stream : Bytes) (streamErr : Bool) (io : PutIO) :
    (ArTask.put keyspace stream streamErr io s.nextId .create).runAlone newArReader 5
        { s with nextId := s.nextId + 1 } =
      ((s.put newArReader keyspace stream streamErr io).1,
        .put keyspace stream streamErr io s.nextId (.done (s.put newArReader keyspace stream streamErr io).2)) := by
  unfold ArLocalStore.put
  dsimp only
  split
  · next failed => simp [ArTask.runAlone, ArTask.step, ArLocalStore.putStep, failed]
  · next created =>
    split
    · next failed =>
      simp [ArTask.runAlone, ArTask.step, ArLocalStore.putStep, ArLocalStore.write, created, failed]
    · next written =>
      split
      · next rejected =>
        simp [ArTask.runAlone, ArTask.step, ArLocalStore.putStep, ArLocalStore.write, created,
          written, rejected]
      · next reader opened =>
        split
        · next failed =>
          simp [ArTask.runAlone, ArTask.step, ArLocalStore.putStep, ArLocalStore.write, created,
            written, opened, ArLocalStore.rename, show io.renameOk = false by simpa using failed]
        · next renamed =>
          simp [ArTask.runAlone, ArTask.step, ArLocalStore.putStep, ArLocalStore.write, created,
            written, opened, ArLocalStore.rename, ArLocalStore.set,
            show io.renameOk = true by simpa using renamed]

theorem loadLocal_runAlone (s : ArLocalStore) (keyspace : Bytes) (statOk openOk : Bool) :
    (ArTask.loadLocal keyspace statOk openOk .stat).runAlone newArReader 5 s =
      ((s.loadLocal newArReader keyspace statOk openOk).1,
        .loadLocal keyspace statOk openOk (.done (s.loadLocal newArReader keyspace statOk openOk).2)) := by
  unfold ArLocalStore.loadLocal
  split
  · next failed => simp [ArTask.runAlone, ArTask.step, ArLocalStore.loadStep, failed]
  · next statted =>
    split
    · next missing =>
      simp [ArTask.runAlone, ArTask.step, ArLocalStore.loadStep, statted, missing]
    · next b present =>
      split
      · next broken =>
        simp [ArTask.runAlone, ArTask.step, ArLocalStore.loadStep, statted, present, broken]
      · next reader opened =>
        simp [ArTask.runAlone, ArTask.step, ArLocalStore.loadStep, statted, present, opened,
          ArLocalStore.set]

/-- A call run alone, from its call to its return, does what the sequential model does: it leaves
the store of `ArLocalStore.call` and returns the result of `put` or `loadLocal`. -/
theorem arRun_call_alone (w : ArWorld) (c : ArCall) :
    arRun newArReader w (.call c :: List.replicate 5 (.run w.next)) =
      some ⟨ArLocalStore.call newArReader w.store c,
        Function.update w.tasks w.next (some (c.returned newArReader w.store)), w.next + 1⟩ := by
  cases c with
  | put keyspace stream streamErr io =>
    show arRun newArReader (w.spawn (.put keyspace stream streamErr io)) _ = _
    rw [@arRun_runAlone newArReader w.next 5 (w.spawn (.put keyspace stream streamErr io)) _
      (Function.update_same _ _ _)]
    simp only [ArWorld.spawn, put_runAlone, Function.update_idem]
    rfl
  | loadLocal keyspace statOk openOk =>
    show arRun newArReader (w.spawn (.loadLocal keyspace statOk openOk)) _ = _
    rw [@arRun_runAlone newArReader w.next 5 (w.spawn (.loadLocal keyspace statOk openOk)) _
      (Function.update_same _ _ _)]
    simp only [ArWorld.spawn, loadLocal_runAlone, Function.update_idem]
    rfl

/-- Calls made one after another, each run to its return before the next is made, leave the store
`ArLocalStore.runCalls` computes, and each returns what the sequential `put` or `loadLocal`
returns on the store the calls before it left; the calls made before are untouched. -/
theorem arRun_serial (w : ArWorld) (calls : List ArCall) :
    ∃ w', arRun newArReader w (serial w.next calls) = some w' ∧
      w'.store = ArLocalStore.runCalls newArReader w.store calls ∧
      w'.next = w.next + calls.length ∧ (∀ u, u < w.next → w'.tasks u = w.tasks u) ∧
      ∀ k (hk : k < calls.length), w'.tasks (w.next + k) = some ((calls.get ⟨k, hk⟩).returned
        newArReader (ArLocalStore.runCalls newArReader w.store (calls.take k))) := by
  induction calls generalizing w with
  | nil => exact ⟨w, rfl, rfl, rfl, fun _ _ => rfl, fun _ hk => absurd hk (Nat.not_lt_zero _)⟩
  | cons c calls ih =>
    obtain ⟨w', ran, store, next, before, returned⟩ := ih
      ⟨ArLocalStore.call newArReader w.store c,
        Function.update w.tasks w.next (some (c.returned newArReader w.store)), w.next + 1⟩
    have first : ∀ u, u < w.next + 1 → u ≠ w.next → w'.tasks u = w.tasks u := fun u below other =>
      (before u below).trans (Function.update_noteq other _ _)
    refine ⟨w', ?_, store, by simp only [next, List.length_cons]; omega,
      fun u below => first u (by omega) (by omega), ?_⟩
    · rw [serial, List.cons_append, ← List.cons_append, arRun_append, arRun_call_alone]
      exact ran
    · intro k hk
      cases k with
      | zero => exact (before _ (Nat.lt_succ_self _)).trans (Function.update_same _ _ _)
      | succ k =>
        rw [show w.next + (k + 1) = w.next + 1 + k by omega]
        exact returned k (Nat.lt_of_succ_lt_succ hk)

end Serial

/-! ## Every interleaving -/

/-- A `Put` that has renamed its temporary file over the archive path: it is about to install its
reader, or has returned success. -/
def ArPutPc.Renamed : ArPutPc → Prop
  | .set _ | .done (.ok ()) => True
  | _ => False

/-- `b` has been the archive file of `keyspace`: the file there at the start, or a stream that
`NewArReader` accepts and that a `Put` on `keyspace` has renamed into place. -/
def Archived (newArReader : Bytes → Option ArReader) (files₀ : ArPath → Option Bytes)
    (w : ArWorld) (keyspace b : Bytes) : Prop :=
  files₀ (.archive keyspace) = some b ∨ (∃ r, newArReader b = some r) ∧
    ∃ t streamErr io uniqueId pc,
      w.tasks t = some (.put keyspace b streamErr io uniqueId pc) ∧ pc.Renamed

/-- What holds of a `Put` of `stream` at each program point, in store `s`: its temporary file holds
the whole stream from the copy to the rename, and `NewArReader` accepts the stream from the open
on, up to a successful return. -/
def ArPutPc.Inv (newArReader : Bytes → Option ArReader) (s : ArLocalStore) (keyspace stream : Bytes)
    (uniqueId : Nat) : ArPutPc → Prop
  | .openTmp => s.files (.tmp keyspace uniqueId) = some stream
  | .rename reader =>
    s.files (.tmp keyspace uniqueId) = some stream ∧ newArReader stream = some reader
  | .set reader => newArReader stream = some reader
  | .done (.ok ()) => ∃ r, newArReader stream = some r
  | _ => True

/-- A `LoadLocal` about to install a reader holds `NewArReader`'s reader of a file that has been
the archive. -/
def ArLoadPc.Inv (newArReader : Bytes → Option ArReader) (files₀ : ArPath → Option Bytes)
    (w : ArWorld) (keyspace : Bytes) : ArLoadPc → Prop
  | .set reader => ∃ b, newArReader b = some reader ∧ Archived newArReader files₀ w keyspace b
  | _ => True

/-- The id of a task's temporary file: a `Put`'s `uniqueId`. -/
def ArTask.tmpId : ArTask → Option Nat
  | .put _ _ _ _ uniqueId _ => some uniqueId
  | .loadLocal .. => none

/-- What holds of a task: a `Put`'s id has been drawn from the counter, and `ArPutPc.Inv` or
`ArLoadPc.Inv` holds at its program point. -/
def ArTask.Inv (newArReader : Bytes → Option ArReader) (files₀ : ArPath → Option Bytes)
    (w : ArWorld) : ArTask → Prop
  | .put keyspace stream _ _ uniqueId pc =>
    uniqueId < w.store.nextId ∧ pc.Inv newArReader w.store keyspace stream uniqueId
  | .loadLocal keyspace _ _ pc => pc.Inv newArReader files₀ w keyspace

/-- No two tasks share a temporary file id. -/
def IdsUnique (tasks : Nat → Option ArTask) : Prop :=
  ∀ t t' task task' uniqueId, tasks t = some task → tasks t' = some task' →
    task.tmpId = some uniqueId → task'.tmpId = some uniqueId → t = t'

/-- The invariant of the store over every interleaving, from an archive directory holding
`files₀`. -/
structure ArInv (newArReader : Bytes → Option ArReader) (files₀ : ArPath → Option Bytes)
    (w : ArWorld) : Prop where
  archive : ∀ keyspace b, w.store.files (.archive keyspace) = some b →
    Archived newArReader files₀ w keyspace b
  readers : ∀ keyspace r, w.store.readers keyspace = some r →
    ∃ b, newArReader b = some r ∧ Archived newArReader files₀ w keyspace b
  tasks : ∀ t task, w.tasks t = some task → task.Inv newArReader files₀ w
  ids : IdsUnique w.tasks
  fresh : ∀ t, w.next ≤ t → w.tasks t = none

/-- Every `Put` of `w` past its rename is in `w'` with the same arguments, still past it. -/
def RenamedKept (w w' : ArWorld) : Prop :=
  ∀ t keyspace stream streamErr io uniqueId pc,
    w.tasks t = some (.put keyspace stream streamErr io uniqueId pc) → pc.Renamed →
    ∃ pc', w'.tasks t = some (.put keyspace stream streamErr io uniqueId pc') ∧ pc'.Renamed

namespace ArLocalStore

variable {s s' : ArLocalStore}

theorem rename_some {src dst : ArPath} {ok : Bool} (h : s.rename src dst ok = some s') :
    ∃ b, s.files src = some b ∧
      s' = { s with files := Function.update (Function.update s.files src none) dst (some b) } := by
  unfold rename at h
  split at h
  · obtain ⟨b, file, rfl⟩ := Option.map_eq_some'.mp h
    exact ⟨b, file, rfl⟩
  · cases h

theorem cleanup_store (p : ArPath) (ok : Bool) : (s.cleanup p ok).nextId = s.nextId ∧
    (s.cleanup p ok).readers = s.readers ∧ ∀ q, q ≠ p → (s.cleanup p ok).files q = s.files q := by
  unfold cleanup
  split
  · exact ⟨rfl, rfl, fun _ other => Function.update_noteq other _ _⟩
  · exact ⟨rfl, rfl, fun _ _ => rfl⟩

variable {newArReader : Bytes → Option ArReader} {keyspace stream : Bytes} {streamErr : Bool}
  {io : PutIO} {uniqueId : Nat} {pc pc' : ArPutPc}

/-- What a step of a `Put` does to the store: it keeps the counter, and every file but its
temporary file and the archive of its keyspace; the archive changes only by the rename, to what
the temporary file held, and the readers only by `set`. -/
theorem putStep_store
    (h : s.putStep newArReader keyspace stream streamErr io uniqueId pc = some (s', pc')) :
    s'.nextId = s.nextId ∧
    (∀ p, p ≠ .tmp keyspace uniqueId → p ≠ .archive keyspace → s'.files p = s.files p) ∧
    (s'.files (.archive keyspace) = s.files (.archive keyspace) ∨ ∃ reader, pc = .rename reader ∧
      pc' = .set reader ∧ s'.files (.archive keyspace) = s.files (.tmp keyspace uniqueId)) ∧
    (s'.readers = s.readers ∨ ∃ reader, pc = .set reader ∧ pc' = .done (.ok ()) ∧
      s'.readers = Function.update s.readers keyspace (some reader)) := by
  have notTmp : ArPath.archive keyspace ≠ .tmp keyspace uniqueId := nofun
  have written : ∀ content, (s.write (.tmp keyspace uniqueId) content).files (.archive keyspace) =
      s.files (.archive keyspace) := fun content => Function.update_noteq notTmp (some content) _
  cases pc <;> simp only [putStep] at h <;> (repeat' split at h) <;> cases h
  case rename.h_2 reader _ moved =>
    obtain ⟨b, file, rfl⟩ := rename_some moved
    refine ⟨rfl, fun p other other' => ?_, .inr ⟨reader, rfl, rfl, by simp [file]⟩, .inl rfl⟩
    simp only [Function.update_noteq other', Function.update_noteq other]
  case cleanup e =>
    obtain ⟨next, readers, files⟩ := @cleanup_store s (.tmp keyspace uniqueId) io.removeOk
    exact ⟨next, fun p other _ => files p other, .inl (files _ notTmp), .inl readers⟩
  case set reader => exact ⟨rfl, fun _ _ _ => rfl, .inl rfl, .inr ⟨reader, rfl, rfl, rfl⟩⟩
  all_goals first
    | exact ⟨rfl, fun _ _ _ => rfl, .inl rfl, .inl rfl⟩
    | exact ⟨rfl, fun _ other _ => Function.update_noteq other _ _, .inl (written _), .inl rfl⟩

/-- A step of a `Put` keeps `ArPutPc.Inv` at its program point. -/
theorem putStep_inv (inv : pc.Inv newArReader s keyspace stream uniqueId)
    (h : s.putStep newArReader keyspace stream streamErr io uniqueId pc = some (s', pc')) :
    pc'.Inv newArReader s' keyspace stream uniqueId := by
  cases pc <;> simp only [putStep] at h <;> (repeat' split at h) <;> cases h
  case openTmp.h_2 reader opened =>
    obtain ⟨b, file, accepted⟩ := openReader_some opened
    cases file.symm.trans inv
    exact ⟨inv, accepted⟩
  case rename.h_2 => exact inv.2
  case set reader => exact ⟨reader, inv⟩
  all_goals first
    | trivial
    | exact Function.update_same _ _ _

/-- A `Put` past its rename stays past it. -/
theorem putStep_renamed (renamed : pc.Renamed)
    (h : s.putStep newArReader keyspace stream streamErr io uniqueId pc = some (s', pc')) :
    pc'.Renamed := by
  cases pc with
  | set reader => cases h; trivial
  | done r => cases h
  | _ => cases renamed

end ArLocalStore

section LoadStep

variable {newArReader : Bytes → Option ArReader} {s s' : ArLocalStore} {keyspace : Bytes}
  {statOk openOk : Bool} {pc pc' : ArLoadPc}

/-- A step of `LoadLocal` changes no file and only the reader of its keyspace, by `set`. -/
theorem ArLocalStore.loadStep_store
    (h : s.loadStep newArReader keyspace statOk openOk pc = some (s', pc')) :
    s'.files = s.files ∧ s'.nextId = s.nextId ∧ (s'.readers = s.readers ∨
      ∃ reader, pc = .set reader ∧ s'.readers = Function.update s.readers keyspace (some reader)) := by
  cases pc <;> simp only [ArLocalStore.loadStep] at h <;> (repeat' split at h) <;> cases h
  case set reader => exact ⟨rfl, rfl, .inr ⟨reader, rfl, rfl⟩⟩
  all_goals exact ⟨rfl, rfl, .inl rfl⟩

/-- `LoadLocal` comes to `set` holding `NewArReader`'s reader of the archive file it opened. -/
theorem ArLocalStore.loadStep_set {reader : ArReader}
    (h : s.loadStep newArReader keyspace statOk openOk pc = some (s', .set reader)) :
    ∃ b, s.files (.archive keyspace) = some b ∧ newArReader b = some reader := by
  cases pc <;> simp only [ArLocalStore.loadStep] at h <;> (repeat' split at h) <;> cases h
  exact ArLocalStore.openReader_some ‹_›

end LoadStep

section Interleavings

variable {newArReader : Bytes → Option ArReader} {files₀ : ArPath → Option Bytes} {w w' : ArWorld}

theorem Archived.keep {keyspace b : Bytes} (archived : Archived newArReader files₀ w keyspace b)
    (kept : RenamedKept w w') : Archived newArReader files₀ w' keyspace b := by
  rcases archived with initial | ⟨accepted, t, streamErr, io, uniqueId, pc, found, renamed⟩
  · exact .inl initial
  · obtain ⟨pc', found', renamed'⟩ := kept t _ _ _ _ _ _ found renamed
    exact .inr ⟨accepted, t, streamErr, io, uniqueId, pc', found', renamed'⟩

theorem ArPutPc.Inv.of_tmp {s s' : ArLocalStore} {keyspace stream : Bytes} {uniqueId : Nat}
    {pc : ArPutPc} (inv : pc.Inv newArReader s keyspace stream uniqueId)
    (same : s'.files (.tmp keyspace uniqueId) = s.files (.tmp keyspace uniqueId)) :
    pc.Inv newArReader s' keyspace stream uniqueId := by
  cases pc
  case openTmp => exact same.trans inv
  case rename => exact ⟨same.trans inv.1, inv.2⟩
  case done r =>
    rcases r with _ | ⟨⟩
    · trivial
    · exact inv
  all_goals exact inv

/-- The invariant of a task survives a step of another one that keeps the files of its id, does not
lower the counter, and keeps every `Put` past its rename. -/
theorem ArTask.Inv.keep {task : ArTask} (inv : task.Inv newArReader files₀ w)
    (next : w.store.nextId ≤ w'.store.nextId)
    (files : ∀ keyspace uniqueId, task.tmpId = some uniqueId →
      w'.store.files (.tmp keyspace uniqueId) = w.store.files (.tmp keyspace uniqueId))
    (kept : RenamedKept w w') : task.Inv newArReader files₀ w' := by
  cases task with
  | put keyspace stream streamErr io uniqueId pc =>
    exact ⟨Nat.lt_of_lt_of_le inv.1 next, inv.2.of_tmp (files keyspace uniqueId rfl)⟩
  | loadLocal keyspace statOk openOk pc =>
    cases pc with
    | set reader =>
      obtain ⟨b, accepted, archived⟩ := inv
      exact ⟨b, accepted, archived.keep kept⟩
    | _ => trivial

/-- Task `t` moves to `task'`, which is past its rename if `t` was. -/
theorem RenamedKept.update {t : Nat} {task task' : ArTask} (found : w.tasks t = some task)
    (keep : ∀ keyspace stream streamErr io uniqueId pc,
      task = .put keyspace stream streamErr io uniqueId pc → pc.Renamed →
      ∃ pc', task' = .put keyspace stream streamErr io uniqueId pc' ∧ pc'.Renamed)
    (s : ArLocalStore) (n : Nat) : RenamedKept w ⟨s, Function.update w.tasks t (some task'), n⟩ := by
  intro u keyspace stream streamErr io uniqueId pc found' renamed
  by_cases same : u = t
  · subst same
    obtain ⟨pc', rfl, renamed'⟩ :=
      keep _ _ _ _ _ _ (Option.some.inj (found.symm.trans found')) renamed
    exact ⟨pc', Function.update_same _ _ _, renamed'⟩
  · exact ⟨pc, (Function.update_noteq same _ _).trans found', renamed⟩

/-- A new task at a free id. -/
theorem RenamedKept.add {t : Nat} (free : w.tasks t = none) (task : ArTask) (s : ArLocalStore)
    (n : Nat) : RenamedKept w ⟨s, Function.update w.tasks t (some task), n⟩ :=
  fun u _ _ _ _ _ pc found renamed =>
    have other : u ≠ t := fun same => by rw [same, free] at found; cases found
    ⟨pc, (Function.update_noteq other _ _).trans found, renamed⟩

theorem IdsUnique.update {tasks : Nat → Option ArTask} (ids : IdsUnique tasks) {t : Nat}
    {task task' : ArTask} (found : tasks t = some task) (same : task'.tmpId = task.tmpId) :
    IdsUnique (Function.update tasks t (some task')) := by
  have back : ∀ u x, Function.update tasks t (some task') u = some x →
      ∃ y, tasks u = some y ∧ y.tmpId = x.tmpId := by
    intro u x found'
    by_cases here : u = t
    · subst here
      rw [Function.update_same] at found'
      cases found'
      exact ⟨task, found, same.symm⟩
    · exact ⟨x, (Function.update_noteq here _ _).symm.trans found', rfl⟩
  intro u u' x x' uniqueId found found' tmp tmp'
  obtain ⟨y, fy, iy⟩ := back u x found
  obtain ⟨y', fy', iy'⟩ := back u' x' found'
  exact ids u u' y y' uniqueId fy fy' (iy.trans tmp) (iy'.trans tmp')

theorem ArInv.init (files₀ : ArPath → Option Bytes) (nextId : Nat) :
    ArInv newArReader files₀ (ArWorld.init files₀ nextId) :=
  ⟨fun _ _ file => .inl file, fun _ _ => nofun, fun _ _ => nofun, fun _ _ _ _ _ => nofun,
    fun _ _ => rfl⟩

/-- A new task at id `w.next`, on a store with the same files and readers and a counter no lower,
whose invariant holds and whose temporary file id no task uses. -/
theorem ArInv.add (inv : ArInv newArReader files₀ w) {s : ArLocalStore} {task : ArTask}
    (files : s.files = w.store.files) (readers : s.readers = w.store.readers)
    (next : w.store.nextId ≤ s.nextId)
    (mine : task.Inv newArReader files₀ ⟨s, Function.update w.tasks w.next (some task), w.next + 1⟩)
    (unused : ∀ u other uniqueId, w.tasks u = some other → other.tmpId = some uniqueId →
      task.tmpId ≠ some uniqueId) :
    ArInv newArReader files₀ ⟨s, Function.update w.tasks w.next (some task), w.next + 1⟩ := by
  have free := inv.fresh w.next le_rfl
  have kept := RenamedKept.add free task s (w.next + 1)
  refine ⟨fun ks b file => (inv.archive ks b (files ▸ file)).keep kept, fun ks r installed => ?_,
    fun u other found => ?_, ?_, fun u later => ?_⟩
  · obtain ⟨b, accepted, archived⟩ := inv.readers ks r (readers ▸ installed)
    exact ⟨b, accepted, archived.keep kept⟩
  · dsimp only at found
    by_cases here : u = w.next
    · subst here
      rw [Function.update_same] at found
      cases found
      exact mine
    · rw [Function.update_noteq here] at found
      exact (inv.tasks u other found).keep next (fun _ _ _ => congrFun files _) kept
  · intro u u' x x' uniqueId found found' tmp tmp'
    dsimp only at found found'
    by_cases here : u = w.next <;> by_cases here' : u' = w.next
    · exact here.trans here'.symm
    · subst here
      rw [Function.update_same] at found
      cases found
      rw [Function.update_noteq here'] at found'
      exact (unused u' x' uniqueId found' tmp' tmp).elim
    · subst here'
      rw [Function.update_same] at found'
      cases found'
      rw [Function.update_noteq here] at found
      exact (unused u x uniqueId found tmp tmp').elim
    · rw [Function.update_noteq here] at found
      rw [Function.update_noteq here'] at found'
      exact inv.ids u u' x x' uniqueId found found' tmp tmp'
  · have later : w.next + 1 ≤ u := later
    exact (Function.update_noteq (by omega) _ _).trans (inv.fresh u (by omega))

/-- A new call keeps the invariant: a `Put` draws an id above every id in use. -/
theorem ArInv.spawn (inv : ArInv newArReader files₀ w) (c : ArCall) :
    ArInv newArReader files₀ (w.spawn c) := by
  cases c with
  | put keyspace stream streamErr io =>
    refine inv.add rfl rfl (Nat.le_succ _) ⟨Nat.lt_succ_self _, trivial⟩ ?_
    intro u other uniqueId found tmp same
    cases same
    cases other with
    | put _ _ _ _ _ _ =>
      cases tmp
      exact Nat.lt_irrefl _ (inv.tasks u _ found).1
    | loadLocal => cases tmp
  | loadLocal keyspace statOk openOk => exact inv.add rfl rfl le_rfl trivial fun _ _ _ _ _ => nofun

theorem ArInv.put_step (inv : ArInv newArReader files₀ w) {t : Nat} {keyspace stream : Bytes}
    {streamErr : Bool} {io : PutIO} {uniqueId : Nat} {pc pc' : ArPutPc} {s' : ArLocalStore}
    (found : w.tasks t = some (.put keyspace stream streamErr io uniqueId pc))
    (h : w.store.putStep newArReader keyspace stream streamErr io uniqueId pc = some (s', pc')) :
    ArInv newArReader files₀
      ⟨s', Function.update w.tasks t (some (.put keyspace stream streamErr io uniqueId pc')), w.next⟩ := by
  obtain ⟨next, files, archive, readers⟩ := ArLocalStore.putStep_store h
  obtain ⟨below, mine⟩ := inv.tasks t _ found
  have kept : RenamedKept w
      ⟨s', Function.update w.tasks t (some (.put keyspace stream streamErr io uniqueId pc')), w.next⟩ :=
    RenamedKept.update found (fun _ _ _ _ _ _ same renamed => by
      cases same
      exact ⟨pc', rfl, ArLocalStore.putStep_renamed renamed h⟩) s' w.next
  have self : pc'.Renamed → (∃ r, newArReader stream = some r) → Archived newArReader files₀
      ⟨s', Function.update w.tasks t (some (.put keyspace stream streamErr io uniqueId pc')), w.next⟩
      keyspace stream := fun renamed accepted =>
    .inr ⟨accepted, t, streamErr, io, uniqueId, pc', Function.update_same _ _ _, renamed⟩
  have otherArchive : ∀ ks, ks ≠ keyspace → s'.files (.archive ks) = w.store.files (.archive ks) :=
    fun ks other => files _ nofun fun same => other (by cases same; rfl)
  refine ⟨fun ks b file => ?_, fun ks r installed => ?_, fun u task found' => ?_,
    inv.ids.update found rfl, fun u later => ?_⟩
  · by_cases same : ks = keyspace
    · subst same
      rcases archive with unchanged | ⟨reader, rfl, rfl, moved⟩
      · exact (inv.archive ks b (unchanged.symm.trans file)).keep kept
      · cases mine.1.symm.trans (moved.symm.trans file)
        exact self trivial ⟨reader, mine.2⟩
    · exact (inv.archive ks b ((otherArchive ks same).symm.trans file)).keep kept
  · have before : w.store.readers ks = some r → ∃ b, newArReader b = some r ∧
        Archived newArReader files₀ _ ks b := fun installed =>
      let ⟨b, accepted, archived⟩ := inv.readers ks r installed
      ⟨b, accepted, archived.keep kept⟩
    rcases readers with unchanged | ⟨reader, rfl, rfl, set⟩
    · exact before (unchanged ▸ installed)
    · rw [set] at installed
      by_cases same : ks = keyspace
      · subst same
        rw [Function.update_same] at installed
        cases installed
        exact ⟨stream, mine, self trivial ⟨_, mine⟩⟩
      · exact before ((Function.update_noteq same _ _).symm.trans installed)
  · dsimp only at found'
    by_cases here : u = t
    · subst here
      rw [Function.update_same] at found'
      cases found'
      exact ⟨next ▸ below, ArLocalStore.putStep_inv mine h⟩
    · rw [Function.update_noteq here] at found'
      refine (inv.tasks u task found').keep (next ▸ le_rfl) (fun ks id tmp => files _ ?_ nofun) kept
      intro same
      cases same
      exact here (inv.ids u t task _ uniqueId found' found tmp rfl)
  · have other : u ≠ t := fun same => by rw [← same, inv.fresh u later] at found; cases found
    exact (Function.update_noteq other _ _).trans (inv.fresh u later)

theorem ArInv.load_step (inv : ArInv newArReader files₀ w) {t : Nat} {keyspace : Bytes}
    {statOk openOk : Bool} {pc pc' : ArLoadPc} {s' : ArLocalStore}
    (found : w.tasks t = some (.loadLocal keyspace statOk openOk pc))
    (h : w.store.loadStep newArReader keyspace statOk openOk pc = some (s', pc')) :
    ArInv newArReader files₀
      ⟨s', Function.update w.tasks t (some (.loadLocal keyspace statOk openOk pc')), w.next⟩ := by
  obtain ⟨files, next, readers⟩ := ArLocalStore.loadStep_store h
  have kept : RenamedKept w
      ⟨s', Function.update w.tasks t (some (.loadLocal keyspace statOk openOk pc')), w.next⟩ :=
    RenamedKept.update found (fun _ _ _ _ _ _ same => by cases same) s' w.next
  refine ⟨fun ks b file => (inv.archive ks b (files ▸ file)).keep kept, fun ks r installed => ?_,
    fun u task found' => ?_, inv.ids.update found rfl, fun u later => ?_⟩
  · have before : w.store.readers ks = some r → ∃ b, newArReader b = some r ∧
        Archived newArReader files₀ _ ks b := fun installed =>
      let ⟨b, accepted, archived⟩ := inv.readers ks r installed
      ⟨b, accepted, archived.keep kept⟩
    rcases readers with unchanged | ⟨reader, rfl, set⟩
    · exact before (unchanged ▸ installed)
    · rw [set] at installed
      by_cases same : ks = keyspace
      · subst same
        rw [Function.update_same] at installed
        cases installed
        obtain ⟨b, accepted, archived⟩ := inv.tasks t _ found
        exact ⟨b, accepted, archived.keep kept⟩
      · exact before ((Function.update_noteq same _ _).symm.trans installed)
  · dsimp only at found'
    by_cases here : u = t
    · subst here
      rw [Function.update_same] at found'
      cases found'
      cases pc' with
      | set reader =>
        obtain ⟨b, file, accepted⟩ := ArLocalStore.loadStep_set h
        exact ⟨b, accepted, (inv.archive keyspace b file).keep kept⟩
      | _ => trivial
    · rw [Function.update_noteq here] at found'
      exact (inv.tasks u task found').keep (next ▸ le_rfl) (fun _ _ _ => congrFun files _) kept
  · have other : u ≠ t := fun same => by rw [← same, inv.fresh u later] at found; cases found
    exact (Function.update_noteq other _ _).trans (inv.fresh u later)

theorem ArInv.step (inv : ArInv newArReader files₀ w) {l : ArLabel}
    (h : arStep newArReader w l = some w') : ArInv newArReader files₀ w' := by
  cases l with
  | call c =>
    cases h
    exact inv.spawn c
  | run t =>
    obtain ⟨task, found, rfl⟩ := Option.map_eq_some'.mp h
    cases task with
    | put keyspace stream streamErr io uniqueId pc =>
      cases stepped : w.store.putStep newArReader keyspace stream streamErr io uniqueId pc with
      | none => simpa only [ArTask.step, stepped, Option.map_none'] using inv
      | some r =>
        obtain ⟨s', pc'⟩ := r
        simpa only [ArTask.step, stepped, Option.map_some'] using inv.put_step found stepped
    | loadLocal keyspace statOk openOk pc =>
      cases stepped : w.store.loadStep newArReader keyspace statOk openOk pc with
      | none => simpa only [ArTask.step, stepped, Option.map_none'] using inv
      | some r =>
        obtain ⟨s', pc'⟩ := r
        simpa only [ArTask.step, stepped, Option.map_some'] using inv.load_step found stepped

theorem ArInv.run {ls : List ArLabel} : ∀ {w w' : ArWorld}, ArInv newArReader files₀ w →
    arRun newArReader w ls = some w' → ArInv newArReader files₀ w' := by
  induction ls with
  | nil =>
    intro w w' inv h
    cases h
    exact inv
  | cons l ls ih =>
    intro w w' inv h
    obtain ⟨w₁, stepped, rest⟩ := Option.bind_eq_some.mp h
    exact ih (inv.step stepped) rest

end Interleavings

/-- Over every interleaving of `Put` and `LoadLocal` calls on a store opened on an archive
directory holding `files₀`, the file at the archive path of a keyspace is the one there at the
start, or the whole stream of a `Put` on that keyspace, which `NewArReader` accepts and which that
`Put` has renamed into place; and the installed reader of a keyspace is `NewArReader`'s reader of
such a file. -/
theorem arRun_archived (newArReader : Bytes → Option ArReader) (files₀ : ArPath → Option Bytes)
    (nextId : Nat) {ls : List ArLabel} {w : ArWorld}
    (ran : arRun newArReader (ArWorld.init files₀ nextId) ls = some w) :
    (∀ keyspace b, w.store.files (.archive keyspace) = some b →
      Archived newArReader files₀ w keyspace b) ∧
    ∀ keyspace r, w.store.get keyspace = some r →
      ∃ b, newArReader b = some r ∧ Archived newArReader files₀ w keyspace b :=
  have inv := ArInv.run (ArInv.init files₀ nextId) ran
  ⟨inv.archive, inv.readers⟩

/-- A `NewArReader` that accepts every file, as an archive of one empty entry named by the file's
bytes. -/
def wholeFileReader (b : Bytes) : Option ArReader := some ⟨[⟨b, ⟨[], [], Int64.wrap 0, ⟨0⟩⟩, []⟩]⟩

/-- Every file operation of a `Put` succeeds. -/
def putAllOk : PutIO := ⟨true, true, 0, true, true, true⟩

/-- `Put(a, [1])` (call 0) and `Put(a, [2])` (call 1): call 0 renames its file into place, then
call 1 runs to its return, then call 0 installs its reader. -/
def overlappingPuts : List ArLabel :=
  [.call (.put [97] [1] false putAllOk), .call (.put [97] [2] false putAllOk)] ++
    List.replicate 4 (.run 0) ++ List.replicate 5 (.run 1) ++ [.run 0]

theorem arRun_archived_overlapping :
    ∃ w, arRun wholeFileReader (ArWorld.init (fun _ => none) 0) overlappingPuts = some w ∧
      (∀ keyspace b, w.store.files (.archive keyspace) = some b →
        Archived wholeFileReader (fun _ => none) w keyspace b) ∧
      ∀ keyspace r, w.store.get keyspace = some r →
        ∃ b, wholeFileReader b = some r ∧ Archived wholeFileReader (fun _ => none) w keyspace b :=
  ⟨_, rfl, @arRun_archived wholeFileReader (fun _ => none) 0 overlappingPuts _ rfl⟩

/- Both `Put`s of `overlappingPuts` succeed, and the store is left with the file of the second and
the reader of the first: the installed reader is not the reader of the archive file. -/
example :
    ∃ w, arRun wholeFileReader (ArWorld.init (fun _ => none) 0) overlappingPuts = some w ∧
      w.tasks 0 = some (.put [97] [1] false putAllOk 0 (.done (.ok ()))) ∧
      w.tasks 1 = some (.put [97] [2] false putAllOk 1 (.done (.ok ()))) ∧
      w.store.files (.archive [97]) = some [2] ∧ w.store.get [97] = wholeFileReader [1] ∧
      ¬ ArLocalStore.Complete wholeFileReader w.store [97] :=
  ⟨_, rfl, rfl, rfl, rfl, rfl, fun complete => by
    obtain ⟨b, file, accepted⟩ := complete.reader _ rfl
    cases file
    cases accepted⟩

end Gscache
