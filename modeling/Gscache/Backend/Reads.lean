import Gscache.Backend.Isolation

/-!
# What a get returns

Results:
1. `blobGet_negative_size_hit`: a bucket object whose header has a negative Size is answered as
   a hit of that Size. `LocalBackend.put` takes a Size of 0 or less for an empty body and
   returns the shared empty output.
2. `localGet_joins_stale_flight`: a `Get` called after a `Put` of its ActionID has returned joins
   a flight that read the disk before the put, and answers a miss.
3. `localGet_hit_local`: over every interleaving, a hit of `LocalBackend.Get` has Size 0 and the
   shared empty output, or a positive Size and the output file of its OutputID. The size check of
   `get` rejects a negative Size, which the blob backend answers (result 1).
-/

namespace Gscache

/-- A bucket whose object for ActionID `[1]` is a header with OutputID `[2]`, Size −1 and no
body. -/
def negativeSizeRemote (key : Bytes) : Option Bytes :=
  if some key = cacheEntityKey [1] then some (EntryMeta.mk [1] [2] (Int64.wrap (-1)) ⟨0⟩).writeTo
  else none

/-- `Get([1])` (call 0) misses the archives and the disk (call 1), downloads the object and
materialises it through `diskStore.Put` (call 2). -/
def negativeSizeRun : List Label :=
  .get ⟨[1]⟩ :: [0, 0, 1, 1, 1, 0, 0, 2, 2, 2, 2, 2, 0, 0].map fun i => .run i true ⟨0⟩

theorem blobGet_negative_size_hit :
    ∃ w, run (World.init .blobBackend (fun _ => none) negativeSizeRemote (fun _ => none))
        negativeSizeRun = some w ∧
      w.calls 0 = some (.blobGet ⟨[1]⟩ (.done (.ok (.hit ⟨[2], Int64.wrap (-1), ⟨0⟩, .empty⟩)))) ∧
      (Int64.wrap (-1)).val = -1 ∧ w.fs .empty = some (.file []) :=
  ⟨_, rfl, by decide, by decide, by decide⟩

/-- A `LocalBackend` daemon: `Get([1])` (call 0) leads a flight and finds no action file; then a
`Put` of `[1]` (call 1) runs to its end and returns. -/
def staleGetBefore : List Label :=
  [.get ⟨[1]⟩, .run 0 true ⟨0⟩, .run 0 true ⟨0⟩, .put ⟨[1], [2], Int64.wrap 1⟩ [5] false] ++
    List.replicate 6 (.run 1 true ⟨0⟩)

/-- After the put has returned: a new `Get([1])` (call 2) joins call 0's flight, which then
ends. -/
def staleGetAfter : List Label := [.get ⟨[1]⟩, .run 2 true ⟨0⟩, .run 0 true ⟨0⟩, .run 2 true ⟨0⟩]

theorem localGet_joins_stale_flight :
    ∃ w₁ w₂, run (World.init .localBackend (fun _ => none) (fun _ => none) (fun _ => none))
        staleGetBefore = some w₁ ∧
      w₁.calls 1 = some (.localPut ⟨[1], [2], Int64.wrap 1⟩ [5] false none
        (.done (.ok ⟨.output [2]⟩))) ∧
      w₁.calls 2 = none ∧ w₁.fs (.action [1]) ≠ none ∧
      run w₁ staleGetAfter = some w₂ ∧ w₂.calls 2 = some (.localGet ⟨[1]⟩ (.done (.ok .miss))) :=
  ⟨_, _, rfl, by decide, by decide, by decide, rfl, by decide⟩

/-! ## The hits of local gets -/

/-- A hit as `LocalBackend.get` builds it: Size 0 on the shared empty output, or a positive Size
on the output file of its OutputID. -/
def Hit.Local (h : Hit) : Prop :=
  (h.size.val = 0 ∧ h.diskPath = .empty) ∨ (0 < h.size.val ∧ h.diskPath = .output h.outputID)

/-- A miss, or a hit that is `Hit.Local`. -/
def GetResponse.Local : GetResponse → Prop
  | .miss => True
  | .hit h => h.Local

/-- What holds of a local get at each of its program points. -/
def LocalGetPc.Inv : LocalGetPc → Prop
  | .ensureEmpty meta => meta.size.val = 0
  | .statOutput meta => meta.size.val ≠ 0
  | .finish (.ok resp) | .done (.ok resp) => resp.Local
  | _ => True

/-- Every local get satisfies `LocalGetPc.Inv`. -/
def GetInv (w : World) : Prop :=
  ∀ k req pc, w.calls k = some (.localGet req pc) → pc.Inv

section GetInv

variable {i : Nat} {w w' : World}

/-- A step of `LocalBackend.Get` keeps `LocalGetPc.Inv` of its call. A follower copies the answer
of a local get, which satisfies it. -/
theorem stepLocalGet_inv (inv : GetInv w) {req : GetRequest} {ok : Bool} {pc : LocalGetPc}
    (found : w.calls i = some (.localGet req pc)) (h : stepLocalGet w i req ok pc = some w') :
    ∀ pc', w'.calls i = some (.localGet req pc') → pc'.Inv := by
  have mine := inv _ _ _ found
  intro pc' found'
  cases pc <;> simp only [stepLocalGet] at h <;> (repeat' split at h) <;> cases h <;>
    simp only [World.panic_calls, found, World.goLocalGet, World.setCall_calls,
      Function.update_same, Option.some.injEq, Call.localGet.injEq, true_and] at found' <;>
    subst found' <;>
    first
    | exact mine
    | trivial
    | exact inv _ _ _ ‹_›
    | exact .inl ⟨mine, rfl⟩
    | rename_i r; cases r <;> exact mine
    | exact Or.inr ⟨by dsimp only; have : _ ≠ (0 : Int) := mine; omega, rfl⟩

/-- `GetInv` after a step of call `i`, from what the step does to call `i`. -/
theorem GetInv.of_frame (frame : Frame i w w') (inv : GetInv w) (self : ∀ req pc, w'.calls i = some (.localGet req pc) → pc.Inv) :
    GetInv w' := by
  intro k req pc found
  by_cases same : k = i
  · subst same; exact self _ _ found
  · rcases frame.calls_cases same found with before | fresh
    · exact inv _ _ _ before
    · cases pc <;> trivial

theorem GetInv.step (ids : ∀ k, w.next ≤ k → w.calls k = none) (inv : GetInv w) {l : Label}
    (h : step w l = some w') : GetInv w' := by
  rcases step_cases h with ⟨i, ok, now, c, found, stepped⟩ | ⟨c, fresh, rfl⟩ | quiet
  · have frame := stepCall_frame found stepped
    refine inv.of_frame frame fun req pc found' => ?_
    obtain ⟨c', again, args⟩ := frame.self c found
    rw [found'] at again
    cases again
    cases c with
    | localGet req₀ pc₀ =>
      cases (args : req₀ = req)
      exact stepLocalGet_inv inv found stepped pc found'
    | _ => exact (args : False).elim
  · refine inv.of_frame (Frame.spawn (ids _ le_rfl) fresh) fun req pc found' => ?_
    simp only [World.spawn_calls, Function.update_same, Option.some.injEq] at found'
    subst found'
    cases pc <;> trivial
  · intro k req pc found'
    rw [quiet.calls] at found'
    exact inv _ _ _ found'

end GetInv

theorem Reach.getInv {w : World} (reach : Reach w) : GetInv w := by
  induction reach with
  | init => exact fun _ _ _ => nofun
  | step _ reach h ih => exact ih.step reach.ids h

/-- Over every interleaving, a hit of `LocalBackend.Get`, leader's or follower's, has Size 0
and the shared empty output, or a positive Size and the output file of its OutputID. -/
theorem localGet_hit_local {w : World} (reach : Reach w) {k : Nat} {req : GetRequest}
    {hit : Hit} (found : w.calls k = some (.localGet req (.done (.ok (.hit hit))))) :
    (hit.size.val = 0 ∧ hit.diskPath = .empty) ∨
      (0 < hit.size.val ∧ hit.diskPath = .output hit.outputID) :=
  reach.getInv _ _ _ found

/-- A `LocalBackend` daemon: a `Put` of `[1]` (call 0) runs to its end, then `Get([1])` (call 1)
finds its action file and output and answers a hit. -/
def putThenGet : List Label :=
  .put ⟨[1], [2], Int64.wrap 1⟩ [5] false :: List.replicate 6 (.run 0 true ⟨0⟩) ++
    .get ⟨[1]⟩ :: List.replicate 4 (.run 1 true ⟨0⟩)

/-- The hit `Get([1])` answers in `putThenGet`. -/
def putThenGetHit : Hit := ⟨[2], Int64.wrap 1, ⟨0⟩, .output [2]⟩

theorem localGet_hit_local_putThenGet :
    ∃ w, run (World.init .localBackend (fun _ => none) (fun _ => none) (fun _ => none)) putThenGet =
        some w ∧
      w.calls 1 = some (.localGet ⟨[1]⟩ (.done (.ok (.hit putThenGetHit)))) ∧
      ((putThenGetHit.size.val = 0 ∧ putThenGetHit.diskPath = .empty) ∨
        (0 < putThenGetHit.size.val ∧ putThenGetHit.diskPath = .output putThenGetHit.outputID)) :=
  have ran : ∃ w, run (World.init .localBackend (fun _ => none) (fun _ => none) (fun _ => none))
      putThenGet = some w ∧ w.calls 1 = some (.localGet ⟨[1]⟩ (.done (.ok (.hit putThenGetHit)))) :=
    ⟨_, rfl, by decide⟩
  let ⟨w, ran, found⟩ := ran
  ⟨w, ran, found, localGet_hit_local ((Reach.init .localBackend _ _ _).run ran) found⟩

end Gscache
