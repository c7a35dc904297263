import Gscache.Backend.Blob

/-!
# The daemon: every interleaving of calls

A step is a new client call, one step of a running call, `Close`, or the archive store installing
an archive for a keyspace (a compaction job or a sync). `Reach` is the set of states reachable
from a freshly opened backend with any data directory, bucket and installed archives, so that
every theorem stated over `Reach` holds for every content of the stores, corrupted ones
included, and for every interleaving.

Results:
1. `Reach.ids` and `Reach.unborn`: call ids are allocated in order, so a spawned call is new and
   has not panicked.
2. `step_cases`: every step is a step of a call, a new call of a client, or a step that touches no
   call, which the invariants of `Backend.Isolation`, `Backend.Reads` and `Backend.Provenance` are
   proved from. The single-flight invariant is in `Backend.Flights`.
-/

namespace Gscache

/-- A step of the daemon. -/
inductive Label
  /-- A client calls `Get`. -/
  | get (req : GetRequest)
  /-- A client calls `Put` with a body that yields `body`, then `EOF`, or an error if
  `bodyErr`. -/
  | put (req : PutRequest) (body : Bytes) (bodyErr : Bool)
  /-- Call `id` takes a step; `ok = false` is a failure of the file system or the bucket, and
  `now` is `time.Now()`. -/
  | run (id : Nat) (ok : Bool) (now : Time)
  /-- `Close` sets the closed flag of the client-facing backend. -/
  | close
  /-- `BlobBackend.Close` closes its `diskStore`, after the upload pool has drained. -/
  | closeDisk
  /-- The archive store installs `ar` for `keyspace`. -/
  | install (keyspace : Bytes) (ar : ArReader)
deriving DecidableEq

/-- One step of call `i`. -/
def stepCall (w : World) (i : Nat) (ok : Bool) (now : Time) : Call → Option World
  | .localGet req pc => stepLocalGet w i req ok pc
  | .localPut req body bodyErr override pc => stepLocalPut w i req body bodyErr override ok now pc
  | .blobGet req pc => stepBlobGet w i req ok pc
  | .blobPut req body bodyErr pc => stepBlobPut w i req body bodyErr pc
  | .upload req diskPath pc => stepUpload w i req diskPath ok now pc

/-- A step of the daemon, `none` when it is not possible. A call that has panicked takes no
step; the daemon goes on serving the others. -/
def step (w : World) : Label → Option World
  | .get req => some (w.spawn (match w.backend with
      | .localBackend => .localGet req .call
      | .blobBackend => .blobGet req .call))
  | .put req body bodyErr => some (w.spawn (match w.backend with
      | .localBackend => .localPut req body bodyErr none .call
      | .blobBackend => .blobPut req body bodyErr .call))
  | .run i ok now => if w.panicked i then none else (w.calls i).bind (stepCall w i ok now)
  | .close => some (match w.backend with
      | .localBackend => { w with localClosed := true }
      | .blobBackend => { w with blobClosed := true })
  | .closeDisk =>
    if w.backend = .blobBackend ∧ w.blobClosed then some { w with localClosed := true } else none
  | .install keyspace ar => some { w with archives := Function.update w.archives keyspace (some ar) }

/-- The states reachable from a freshly opened backend. -/
inductive Reach : World → Prop
  | init (backend : BackendKind) (fs : Path → Option Node) (remote : Bytes → Option Bytes)
      (archives : Bytes → Option ArReader) : Reach (World.init backend fs remote archives)
  | step {w w' : World} (l : Label) : Reach w → step w l = some w' → Reach w'

/-- A run of labels. -/
def run (w : World) : List Label → Option World
  | [] => some w
  | l :: ls => (step w l).bind fun w' => run w' ls

theorem Reach.run {w w' : World} (reach : Reach w) :
    ∀ {ls : List Label}, Gscache.run w ls = some w' → Reach w'
  | [], h => by cases h; exact reach
  | l :: ls, h => by
    simp only [Gscache.run, Option.bind_eq_some] at h
    obtain ⟨w₁, first, rest⟩ := h
    exact (reach.step l first).run rest

/-! ## What a step can do -/

theorem stepCall_frame {w w' : World} {i : Nat} {ok : Bool} {now : Time} {c : Call}
    (found : w.calls i = some c) (h : stepCall w i ok now c = some w') : Frame i w w' := by
  cases c with
  | localGet => exact stepLocalGet_frame found h
  | localPut => exact stepLocalPut_frame found h
  | blobGet => exact stepBlobGet_frame found h
  | blobPut => exact stepBlobPut_frame found h
  | upload => exact stepUpload_frame found h

/-- A step that touches no call, no file, no object and no flight: `Close` or an archive
installed. -/
structure Untouched (w w' : World) : Prop where
  backend : w'.backend = w.backend
  calls : w'.calls = w.calls
  next : w'.next = w.next
  fs : w'.fs = w.fs
  remote : w'.remote = w.remote
  getFlights : w'.getFlights = w.getFlights
  putFlights : w'.putFlights = w.putFlights
  blobGetFlights : w'.blobGetFlights = w.blobGetFlights
  uploadFlights : w'.uploadFlights = w.uploadFlights
  panicked : w'.panicked = w.panicked

/-- Every step is a step of a call, a new call of a client, or a step that touches no call. -/
theorem step_cases {w w' : World} {l : Label} (h : step w l = some w') :
    (∃ i ok now c, w.calls i = some c ∧ stepCall w i ok now c = some w') ∨
    (∃ c, c.Fresh ∧ w' = w.spawn c) ∨ Untouched w w' := by
  cases l with
  | get | put => cases h; exact .inr (.inl ⟨_, by split <;> exact trivial, rfl⟩)
  | run i ok now =>
    simp only [step] at h
    split at h
    · cases h
    · obtain ⟨c, found, stepped⟩ := Option.bind_eq_some.mp h
      exact .inl ⟨i, ok, now, c, found, stepped⟩
  | close =>
    cases h
    exact .inr (.inr (by split <;> exact ⟨rfl, rfl, rfl, rfl, rfl, rfl, rfl, rfl, rfl, rfl⟩))
  | closeDisk =>
    simp only [step] at h
    split at h
    · cases h; exact .inr (.inr ⟨rfl, rfl, rfl, rfl, rfl, rfl, rfl, rfl, rfl, rfl⟩)
    · cases h
  | install => cases h; exact .inr (.inr ⟨rfl, rfl, rfl, rfl, rfl, rfl, rfl, rfl, rfl, rfl⟩)

/-- A step of call `i` sets the panic flag of no other call. -/
theorem stepCall_panicked {w w' : World} {i : Nat} {ok : Bool} {now : Time} {c : Call}
    (h : stepCall w i ok now c = some w') {k : Nat} (other : k ≠ i) :
    w'.panicked k = w.panicked k := by
  cases c <;> rename_i pc <;> cases pc <;>
    simp only [stepCall, stepLocalGet, stepLocalPut, stepBlobGet, stepBlobPut, stepUpload] at h <;>
    (repeat' split at h) <;> cases h <;>
    first | rfl | exact Function.update_noteq other _ _

/-- Call ids are allocated in order: no call has an id at or beyond `next`. -/
theorem Reach.ids {w : World} (reach : Reach w) : ∀ k, w.next ≤ k → w.calls k = none := by
  induction reach with
  | init => intro _ _; rfl
  | @step w w' l _ h ih =>
    intro k beyond
    rcases step_cases h with ⟨i, ok, now, c, found, stepped⟩ | ⟨c, _, rfl⟩ | quiet
    · have before : i < w.next := Nat.lt_of_not_le fun after => by simp [ih i after] at found
      rcases (stepCall_frame found stepped).spawned with ⟨next, others⟩ | ⟨next, c', _, others⟩
      · rw [others k (by omega)]; exact ih k (by omega)
      · rw [others k (by omega), Function.update_noteq (by omega)]; exact ih k (by omega)
    · simp only [World.spawn_next, World.spawn_calls] at beyond ⊢
      rw [Function.update_noteq (by omega)]
      exact ih k (by omega)
    · rw [quiet.calls]; exact ih k (quiet.next ▸ beyond)

/-- No id at or beyond `next` belongs to a call that has panicked. -/
theorem Reach.unborn {w : World} (reach : Reach w) : ∀ k, w.next ≤ k → w.panicked k = false := by
  induction reach with
  | init => intro _ _; rfl
  | @step w w' l reach h ih =>
    intro k beyond
    rcases step_cases h with ⟨i, ok, now, c, found, stepped⟩ | ⟨c, _, rfl⟩ | quiet
    · have before : i < w.next := Nat.lt_of_not_le fun after => by simp [reach.ids i after] at found
      have grown : w.next ≤ w'.next := by
        rcases (stepCall_frame found stepped).spawned with ⟨next, _⟩ | ⟨next, _⟩ <;> omega
      rw [stepCall_panicked stepped (by omega)]
      exact ih k (by omega)
    · exact ih k (by simp only [World.spawn_next] at beyond; omega)
    · rw [quiet.panicked]; exact ih k (quiet.next ▸ beyond)

end Gscache
