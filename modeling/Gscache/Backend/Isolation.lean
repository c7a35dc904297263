import Gscache.Backend.Daemon

/-!
# What a local put returns under single-flight

`LocalBackend.Put` runs `put` under `sfPut.Do(ActionID)`. A call that finds a flight for its
ActionID waits for it and returns the leader's response. It never reads its own body. The
leader's response is what its own `put` returned (`LocalPutPc.RunsPut`).

Results:
1. `localPut_isolation`: over every interleaving, a successful `Put` returns the disk path of
   its own request, or of another `Put` for the same ActionID. A call that finds a flight waits
   for a call that runs `put` itself, and returns exactly that call's result without touching a
   file, or panics. A call that leads its flight returns its own path. When it renames its output
   into place, it has read its whole body, whose length is `BodySize`, and the output file then
   holds exactly that body.
2. `localPut_shares_other_output`: two overlapping puts for one ActionID with different OutputIDs
   and bodies. The second returns the first one's output path, which holds the first body.
3. `upload_after_shared_put`: `BlobBackend.Put` uploads its own meta with the file at the path
   its `diskStore.Put` returned. After a shared flight that is another entry's body, so the
   object's Size is not the length of what follows the meta.
-/

namespace Gscache

/-- The program points at which a `LocalBackend.Put` call leads its flight. -/
def LocalPutPc.Leading : LocalPutPc → Prop
  | .writeOutput | .renameOutput | .writeAction _ | .renameAction _ | .finish _ => True
  | _ => False

/-- A call of `req` that runs `put` itself: it leads its flight, or it has returned what `put`
returned, the disk path of `req` on success. -/
def LocalPutPc.RunsPut (req : PutRequest) : LocalPutPc → Prop
  | .done (.ok resp) => resp.diskPath = putDiskPath req
  | .done (.error _) => True
  | pc => pc.Leading

theorem LocalPutPc.RunsPut.of_leading {req : PutRequest} {pc : LocalPutPc} (leading : pc.Leading) :
    pc.RunsPut req := by
  cases pc <;> first | exact leading | exact leading.elim

/-- Call `k` is a `LocalBackend.Put` for `actionID` whose request and program point satisfy
`p`. -/
def PutFor (w : World) (k : Nat) (actionID : Bytes) (p : PutRequest → LocalPutPc → Prop) : Prop :=
  ∃ req body bodyErr override pc, w.calls k = some (.localPut req body bodyErr override pc) ∧
    req.actionID = actionID ∧ p req pc

/-- What holds of a `LocalBackend.Put` call `i` of `req` at each of its program points. -/
def PutPcInv (w : World) (i : Nat) (req : PutRequest) (body : Bytes) (bodyErr : Bool) :
    LocalPutPc → Prop
  | .wait leader => leader ≠ i ∧ PutFor w leader req.actionID fun req' pc' => pc'.RunsPut req'
  | .renameOutput => 0 < req.bodySize.val ∧ bodyErr = false ∧
      (body.length : Int) = req.bodySize.val ∧
      w.fs (.tmp (.output req.outputID) i) = some (.file body)
  | .writeAction diskPath | .renameAction diskPath => diskPath = putDiskPath req
  | .finish (.ok resp) => resp.diskPath = putDiskPath req
  | .done (.ok resp) => ∃ k, PutFor w k req.actionID fun req' _ => resp.diskPath = putDiskPath req'
  | _ => True

/-- The invariant of the local puts and of `sfPut`: a flight is led by a call at a leading
program point, and every call satisfies `PutPcInv`. -/
structure PutInv (w : World) : Prop where
  flights : ∀ actionID leader, w.putFlights actionID = some leader →
    PutFor w leader actionID fun _ pc => pc.Leading
  calls : ∀ i req body bodyErr override pc,
    w.calls i = some (.localPut req body bodyErr override pc) → PutPcInv w i req body bodyErr pc

theorem outputPath_eq_some {outputID : Bytes} {p : Path} (h : outputPath outputID = some p) :
    p = .output outputID := by
  cases outputID <;> simp [outputPath] at h ⊢; exact h.symm

/-! ## Steps of other calls -/

section Frame

variable {i : Nat} {w w' : World}

theorem Frame.calls_of_ne (frame : Frame i w w') (ids : ∀ k, w.next ≤ k → w.calls k = none)
    {k : Nat} {c : Call} (other : k ≠ i) (found : w.calls k = some c) : w'.calls k = some c := by
  have before : k < w.next := Nat.lt_of_not_le fun after => by simp [ids k after] at found
  rcases frame.spawned with ⟨_, others⟩ | ⟨_, _, _, others⟩
  · rw [others k other, found]
  · rw [others k other, Function.update_noteq (Nat.ne_of_lt before), found]

/-- A call other than `i` after the step was there before, or is the fresh call spawned. -/
theorem Frame.calls_cases (frame : Frame i w w') {k : Nat} {c : Call} (other : k ≠ i)
    (found : w'.calls k = some c) : w.calls k = some c ∨ c.Fresh := by
  rcases frame.spawned with ⟨_, others⟩ | ⟨_, c', fresh, others⟩
  · exact .inl ((others k other).symm.trans found)
  · rw [others k other] at found
    by_cases spawned : k = w.next
    · subst spawned; rw [Function.update_same] at found; cases found; exact .inr fresh
    · exact .inl ((Function.update_noteq spawned _ _).symm.trans found)

/-- What the step of call `i` from `w` to `w'` keeps of a local put at `i`, as `p` says it. -/
def KeepsPut (i : Nat) (w w' : World) (p : PutRequest → LocalPutPc → Prop) : Prop :=
  ∀ req body bodyErr override pc pc', w.calls i = some (.localPut req body bodyErr override pc) →
    w'.calls i = some (.localPut req body bodyErr override pc') → p req pc → p req pc'

/-- `PutFor` a call `k` survives a step of `i`: another call is left as it was, and the step of
`k` itself keeps `p`. -/
theorem Frame.putFor (frame : Frame i w w') (ids : ∀ k, w.next ≤ k → w.calls k = none)
    {k : Nat} {actionID : Bytes} {p : PutRequest → LocalPutPc → Prop}
    (keep : k = i → KeepsPut i w w' p) (h : PutFor w k actionID p) : PutFor w' k actionID p := by
  obtain ⟨req, body, bodyErr, override, pc, found, same, hp⟩ := h
  by_cases self : k = i
  · subst self
    obtain ⟨c', found', args⟩ := frame.self _ found
    cases c' with
    | localPut req' body' bodyErr' override' pc' =>
      obtain ⟨rfl, rfl, rfl, rfl⟩ := args
      exact ⟨_, _, _, _, pc', found', same, keep rfl _ _ _ _ _ _ found found' hp⟩
    | _ => exact (args : False).elim
  · exact ⟨_, _, _, _, _, frame.calls_of_ne ids self found, same, hp⟩

/-- A step that keeps what holds whatever the program point. -/
theorem KeepsPut.of_pc {w w' : World} {p : PutRequest → LocalPutPc → Prop}
    (anyPc : ∀ req pc pc', p req pc → p req pc') : KeepsPut i w w' p :=
  fun _ _ _ _ _ _ _ _ => anyPc _ _ _

/-- A step of call `i` that keeps `RunsPut` of `i` keeps what `PutPcInv` says of another call
`j`. -/
theorem PutPcInv.frame (frame : Frame i w w') (ids : ∀ k, w.next ≤ k → w.calls k = none)
    (runs : KeepsPut i w w' LocalPutPc.RunsPut) {j : Nat} {req : PutRequest} {body : Bytes}
    {bodyErr : Bool} {pc : LocalPutPc} (other : j ≠ i) (inv : PutPcInv w j req body bodyErr pc) :
    PutPcInv w' j req body bodyErr pc := by
  cases pc with
  | wait leader => exact ⟨inv.1, frame.putFor ids (fun _ => runs) inv.2⟩
  | renameOutput => exact ⟨inv.1, inv.2.1, inv.2.2.1, (frame.tmp _ _ other).trans inv.2.2.2⟩
  | done r =>
    cases r with
    | ok resp =>
      obtain ⟨k, h⟩ := inv
      exact ⟨k, frame.putFor ids (fun _ => .of_pc fun _ _ _ same => same) h⟩
    | error => trivial
  | finish r => cases r <;> exact inv
  | _ => exact inv

/-- `PutInv` after a step of call `i`, from what the step does to `sfPut` and to call `i`. -/
theorem PutInv.of_frame (frame : Frame i w w') (ids : ∀ k, w.next ≤ k → w.calls k = none)
    (runs : KeepsPut i w w' LocalPutPc.RunsPut) (inv : PutInv w)
    (flights : ∀ actionID leader, w'.putFlights actionID = some leader →
      PutFor w' leader actionID fun _ pc => pc.Leading)
    (self : ∀ req body bodyErr override pc,
      w'.calls i = some (.localPut req body bodyErr override pc) → PutPcInv w' i req body bodyErr pc) :
    PutInv w' where
  flights := flights
  calls j req body bodyErr override pc found := by
    by_cases same : j = i
    · subst same; exact self _ _ _ _ _ found
    · rcases frame.calls_cases same found with before | fresh
      · exact PutPcInv.frame frame ids runs same (inv.calls _ _ _ _ _ _ before)
      · cases pc <;> trivial

/-- The flights after a step of call `i`, from what the step does to the flights led by `i` and
to the others. -/
theorem PutInv.flights_of_frame (frame : Frame i w w') (ids : ∀ k, w.next ≤ k → w.calls k = none)
    (inv : PutInv w)
    (lead : ∀ actionID, w'.putFlights actionID = some i →
      PutFor w' i actionID fun _ pc => pc.Leading)
    (others : ∀ actionID leader, w'.putFlights actionID = some leader → leader ≠ i →
      w.putFlights actionID = some leader) :
    ∀ actionID leader, w'.putFlights actionID = some leader →
      PutFor w' leader actionID fun _ pc => pc.Leading := by
  intro actionID leader found
  by_cases self : leader = i
  · subst self; exact lead _ found
  · exact frame.putFor ids (fun same => absurd same self) (inv.flights _ _ (others _ _ found self))

end Frame

/-! ## Steps -/

section Step

variable {i : Nat} {w w' : World}

/-- Steps of the other kinds of calls leave `sfPut` alone. -/
theorem stepCall_putFlights {ok : Bool} {now : Time} {c : Call}
    (notPut : ∀ req body bodyErr override pc, c ≠ .localPut req body bodyErr override pc)
    (h : stepCall w i ok now c = some w') : w'.putFlights = w.putFlights := by
  cases c with
  | localGet _ pc =>
    cases pc <;> simp only [stepCall, stepLocalGet] at h <;> (repeat' split at h) <;> cases h <;> rfl
  | localPut => exact absurd rfl (notPut _ _ _ _ _)
  | blobGet _ pc =>
    cases pc <;> simp only [stepCall, stepBlobGet] at h <;> (repeat' split at h) <;> cases h <;> rfl
  | blobPut _ _ _ pc =>
    cases pc <;> simp only [stepCall, stepBlobPut] at h <;> (repeat' split at h) <;> cases h <;> rfl
  | upload _ _ pc =>
    cases pc <;> simp only [stepCall, stepUpload] at h <;> (repeat' split at h) <;> cases h <;> rfl

/-- A flight led by a call at a program point that does not lead is impossible. -/
theorem PutInv.not_leader (inv : PutInv w) {req : PutRequest} {body : Bytes} {bodyErr : Bool}
    {override : Option Time} {pc : LocalPutPc}
    (found : w.calls i = some (.localPut req body bodyErr override pc)) (idle : ¬pc.Leading)
    {actionID : Bytes} (leads : w.putFlights actionID = some i) : False := by
  obtain ⟨_, _, _, _, _, again, _, leading⟩ := inv.flights _ _ leads
  rw [found] at again
  cases again
  exact idle leading

/-- The ActionID of a flight led by call `i` is the ActionID of its request. -/
theorem PutInv.leader_actionID (inv : PutInv w) {req : PutRequest} {body : Bytes}
    {bodyErr : Bool} {override : Option Time} {pc : LocalPutPc}
    (found : w.calls i = some (.localPut req body bodyErr override pc))
    {actionID : Bytes} (leads : w.putFlights actionID = some i) : actionID = req.actionID := by
  obtain ⟨_, _, _, _, _, again, same, _⟩ := inv.flights _ _ leads
  rw [found] at again
  cases again
  exact same.symm

theorem PutInv.step_other (ids : ∀ k, w.next ≤ k → w.calls k = none) (inv : PutInv w)
    {ok : Bool} {now : Time} {c : Call} (found : w.calls i = some c)
    (notPut : ∀ req body bodyErr override pc, c ≠ .localPut req body bodyErr override pc)
    (h : stepCall w i ok now c = some w') : PutInv w' := by
  have frame := stepCall_frame found h
  have flights := stepCall_putFlights notPut h
  have notPut' : ∀ {p}, KeepsPut i w w' p := fun _ _ _ _ _ _ again =>
    absurd (found.symm.trans again) (notPut _ _ _ _ _ ∘ Option.some.inj)
  refine inv.of_frame frame ids notPut' (inv.flights_of_frame frame ids ?_ ?_) ?_
  · intro actionID leads
    obtain ⟨_, _, _, _, _, again, _⟩ := inv.flights _ _ (flights ▸ leads)
    exact absurd (found.symm.trans again) (notPut _ _ _ _ _ ∘ Option.some.inj)
  · intro actionID leader leads _
    rw [← flights]; exact leads
  · intro req body bodyErr override pc again
    obtain ⟨c', found', args⟩ := frame.self c found
    rw [again] at found'
    cases found'
    cases c <;> first | exact (args : False).elim | exact absurd rfl (notPut _ _ _ _ _)

/-- A panic of call `i` changes no call, file or flight of `sfPut`. -/
theorem PutInv.panic (inv : PutInv w) (i : Nat) : PutInv (w.panic i) := ⟨inv.flights, inv.calls⟩

/-- A panic inside `put` deletes the flight of its ActionID. -/
theorem PutInv.abort (inv : PutInv w) (i : Nat) (actionID : Bytes) :
    PutInv ({ w with putFlights := Function.update w.putFlights actionID none }.panic i) := by
  refine ⟨fun a leader flight => inv.flights a leader ?_, inv.calls⟩
  by_cases same : a = actionID
  · subst same; simp at flight
  · simpa [Function.update_noteq same] using flight

/-- `PutInv` after a step of a local put `i` that leaves `sfPut` as it was and does not stop
leading. -/
theorem PutInv.step_keep (ids : ∀ k, w.next ≤ k → w.calls k = none) (inv : PutInv w)
    (frame : Frame i w w') {req : PutRequest} {body : Bytes} {bodyErr : Bool}
    {override : Option Time} {pc pc' : LocalPutPc}
    (found : w.calls i = some (.localPut req body bodyErr override pc))
    (found' : w'.calls i = some (.localPut req body bodyErr override pc'))
    (flights : w'.putFlights = w.putFlights) (leading : pc.Leading → pc'.Leading)
    (runs : pc.RunsPut req → pc'.RunsPut req) (self : PutPcInv w' i req body bodyErr pc') :
    PutInv w' := by
  have keeps : KeepsPut i w w' LocalPutPc.RunsPut := fun _ _ _ _ _ _ again again' => by
    rw [found] at again; rw [found'] at again'
    cases again; cases again'
    exact runs
  refine inv.of_frame frame ids keeps (inv.flights_of_frame frame ids ?_ ?_) ?_
  · intro actionID leads
    rw [flights] at leads
    obtain ⟨_, _, _, _, _, again, same, lead⟩ := inv.flights _ _ leads
    rw [found] at again
    cases again
    exact ⟨_, _, _, _, _, found', same, leading lead⟩
  · intro actionID leader leads _
    rw [← flights]; exact leads
  · intro _ _ _ _ _ again
    rw [found'] at again
    cases again
    exact self

/-- A local put that registers its flight in `sfPut` and starts writing. -/
theorem PutInv.register (ids : ∀ k, w.next ≤ k → w.calls k = none) (inv : PutInv w)
    {req : PutRequest} {body : Bytes} {bodyErr : Bool} {override : Option Time}
    (found : w.calls i = some (.localPut req body bodyErr override .call)) :
    PutInv ({ w with putFlights := Function.update w.putFlights req.actionID (some i) }.goLocalPut
      i req body bodyErr override .writeOutput) := by
  refine inv.of_frame (?frame : Frame i w _) ids ?runs (inv.flights_of_frame ?frame ids ?_ ?_) ?_
  case frame => exact Frame.setCall found ⟨rfl, rfl, rfl, rfl⟩ rfl rfl rfl fun _ _ _ => rfl
  case runs =>
    intro _ _ _ _ _ _ again _ called
    rw [found] at again; cases again; exact (called : False).elim
  · intro actionID leads
    by_cases mineKey : actionID = req.actionID
    · subst mineKey
      exact ⟨req, body, bodyErr, override, .writeOutput, by simp [World.goLocalPut], rfl, trivial⟩
    · simp only [World.goLocalPut, World.setCall_putFlights,
        Function.update_noteq mineKey] at leads
      exact (inv.not_leader found id leads).elim
  · intro actionID leader leads other
    simp only [World.goLocalPut, World.setCall_putFlights] at leads
    by_cases mineKey : actionID = req.actionID
    · subst mineKey; simp at leads; exact absurd leads.symm other
    · rwa [Function.update_noteq mineKey] at leads
  · intro _ _ _ _ _ again
    simp only [World.goLocalPut, World.setCall_calls, Function.update_same,
      Option.some.injEq, Call.localPut.injEq] at again
    obtain ⟨rfl, rfl, rfl, rfl, rfl⟩ := again
    trivial

/-- A local put that has finished unregisters its flight from `sfPut` and returns. -/
theorem PutInv.unregister (ids : ∀ k, w.next ≤ k → w.calls k = none) (inv : PutInv w)
    {req : PutRequest} {body : Bytes} {bodyErr : Bool} {override : Option Time}
    {r : Except LocalPutError PutResponse}
    (found : w.calls i = some (.localPut req body bodyErr override (.finish r))) :
    PutInv ({ w with putFlights := Function.update w.putFlights req.actionID none }.goLocalPut
      i req body bodyErr override (.done (r.mapError .localPut))) := by
  have mine := inv.calls _ _ _ _ _ _ found
  refine inv.of_frame (?frame : Frame i w _) ids ?runs (inv.flights_of_frame ?frame ids ?_ ?_) ?_
  case frame => exact Frame.setCall found ⟨rfl, rfl, rfl, rfl⟩ rfl rfl rfl fun _ _ _ => rfl
  case runs =>
    intro _ _ _ _ _ _ again again' _
    rw [found] at again; cases again
    simp only [World.goLocalPut, World.setCall_calls, Function.update_same, Option.some.injEq,
      Call.localPut.injEq] at again'
    obtain ⟨-, -, -, -, rfl⟩ := again'
    cases r with
    | ok resp => exact mine
    | error => trivial
  · intro actionID leads
    by_cases mineKey : actionID = req.actionID
    · subst mineKey; simp [World.goLocalPut] at leads
    · simp only [World.goLocalPut, World.setCall_putFlights,
        Function.update_noteq mineKey] at leads
      exact absurd (inv.leader_actionID found leads) mineKey
  · intro actionID leader leads _
    simp only [World.goLocalPut, World.setCall_putFlights] at leads
    by_cases mineKey : actionID = req.actionID
    · subst mineKey; simp at leads
    · rwa [Function.update_noteq mineKey] at leads
  · intro _ _ _ _ _ again
    simp only [World.goLocalPut, World.setCall_calls, Function.update_same,
      Option.some.injEq, Call.localPut.injEq] at again
    obtain ⟨rfl, rfl, rfl, rfl, rfl⟩ := again
    cases r with
    | error => trivial
    | ok resp =>
      exact ⟨i, req, body, bodyErr, override, .done (.ok resp),
        by simp [World.goLocalPut, Except.mapError], rfl, mine⟩

theorem PutInv.step_localPut (ids : ∀ k, w.next ≤ k → w.calls k = none) (inv : PutInv w)
    {req : PutRequest} {body : Bytes} {bodyErr : Bool} {override : Option Time} {ok : Bool}
    {now : Time} {pc : LocalPutPc}
    (found : w.calls i = some (.localPut req body bodyErr override pc))
    (h : stepLocalPut w i req body bodyErr override ok now pc = some w') : PutInv w' := by
  have frame := stepLocalPut_frame found h
  have mine := inv.calls _ _ _ _ _ _ found
  have keep := fun {w₁ : World} pc' (frame : Frame i w (w₁.goLocalPut i req body bodyErr override pc'))
      (flights : w₁.putFlights = w.putFlights) (leading : pc.Leading → pc'.Leading)
      (runs : pc.RunsPut req → pc'.RunsPut req)
      (self : PutPcInv (w₁.goLocalPut i req body bodyErr override pc') i req body bodyErr pc') =>
    inv.step_keep ids frame found (by simp [World.goLocalPut]) flights leading runs self
  cases pc with
  | call =>
    simp only [stepLocalPut] at h
    split at h
    · cases h; exact keep _ frame rfl nofun nofun trivial
    · split at h
      · rename_i leader leads
        cases h
        have other : leader ≠ i := fun same => inv.not_leader found id (same ▸ leads)
        obtain ⟨_, _, _, _, _, led, same, leading⟩ := inv.flights _ _ leads
        exact keep _ frame rfl nofun nofun
          ⟨other, frame.putFor ids (fun self => absurd self other)
            ⟨_, _, _, _, _, led, same, .of_leading leading⟩⟩
      · cases h; exact inv.register ids found
  | wait leader =>
    simp only [stepLocalPut] at h
    split at h
    · rename_i _ _ _ _ r led
      split at h
      · cases h
        refine keep _ frame rfl nofun nofun ?_
        cases r with
        | error => trivial
        | ok resp =>
          obtain ⟨_, _, _, _, _, _, again, same, _⟩ := mine
          rw [led] at again
          cases again
          obtain ⟨k, shared⟩ := inv.calls _ _ _ _ _ _ led
          exact ⟨k, frame.putFor ids (fun _ => .of_pc fun _ _ _ same => same) (same ▸ shared)⟩
      · cases h; exact inv.panic i
    · split at h
      · cases h; exact inv.panic i
      · cases h
  | writeOutput =>
    simp only [stepLocalPut] at h
    split at h
    · rename_i output _ outputIs
      obtain rfl := outputPath_eq_some outputIs
      split at h
      · split at h
        · cases h; exact keep _ frame rfl (fun _ => trivial) (fun _ => trivial) trivial
        · rename_i positive fresh
          split at h
          · cases h; exact keep _ frame rfl (fun _ => trivial) (fun _ => trivial) trivial
          · split at h
            · cases h; exact keep _ frame rfl (fun _ => trivial) (fun _ => trivial) trivial
            · rename_i noErr sized
              cases h
              exact keep _ frame rfl (fun _ => trivial) (fun _ => trivial)
                ⟨positive, by simpa using noErr, by simpa using sized, by simp [World.goLocalPut]⟩
      · rename_i notPositive
        split at h
        · cases h; exact keep _ frame rfl (fun _ => trivial) (fun _ => trivial) trivial
        · cases h
          exact keep _ frame rfl (fun _ => trivial) (fun _ => trivial)
            (by simp [PutPcInv, putDiskPath, notPositive])
    · cases h; exact inv.abort i req.actionID
  | renameOutput =>
    simp only [stepLocalPut] at h
    split at h
    · cases h; exact keep _ frame rfl (fun _ => trivial) (fun _ => trivial) trivial
    · cases h
      exact keep _ frame rfl (fun _ => trivial) (fun _ => trivial)
        (by simp [PutPcInv, putDiskPath, mine.1])
  | writeAction diskPath | renameAction diskPath =>
    simp only [stepLocalPut] at h
    split at h
    · cases h; exact keep _ frame rfl (fun _ => trivial) (fun _ => trivial) trivial
    · cases h; exact keep _ frame rfl (fun _ => trivial) (fun _ => trivial) mine
  | finish r => cases h; exact inv.unregister ids found
  | done => simp [stepLocalPut] at h

/-- `PutInv` after a step that runs no existing call: a new call at the free id `k`, or a step
that touches no call. -/
theorem PutInv.of_idle {k : Nat} (frame : Frame k w w') (ids : ∀ k, w.next ≤ k → w.calls k = none)
    (free : w.calls k = none) (inv : PutInv w) (flights : w'.putFlights = w.putFlights)
    (fresh : ∀ c, w'.calls k = some c → c.Fresh) : PutInv w' := by
  have runs : KeepsPut k w w' LocalPutPc.RunsPut := fun _ _ _ _ _ _ again => by
    rw [free] at again; cases again
  refine inv.of_frame frame ids runs (inv.flights_of_frame frame ids ?_ ?_) ?_
  · intro actionID leads
    rw [flights] at leads
    obtain ⟨_, _, _, _, _, again, _⟩ := inv.flights _ _ leads
    simp [free] at again
  · intro actionID leader leads _
    rwa [← flights]
  · intro _ _ _ _ pc again
    have new := fresh _ again
    cases pc <;> trivial

theorem PutInv.step (ids : ∀ k, w.next ≤ k → w.calls k = none) (inv : PutInv w) {l : Label}
    (h : step w l = some w') : PutInv w' := by
  rcases step_cases h with ⟨i, ok, now, c, found, stepped⟩ | ⟨c, fresh, rfl⟩ | quiet
  · cases c with
    | localPut => exact inv.step_localPut ids found stepped
    | localGet => exact inv.step_other ids found (fun _ _ _ _ _ => nofun) stepped
    | blobGet => exact inv.step_other ids found (fun _ _ _ _ _ => nofun) stepped
    | blobPut => exact inv.step_other ids found (fun _ _ _ _ _ => nofun) stepped
    | upload => exact inv.step_other ids found (fun _ _ _ _ _ => nofun) stepped
  · have free := ids _ le_rfl
    exact inv.of_idle (Frame.spawn free fresh) ids free rfl fun _ again => by
      simp only [World.spawn_calls, Function.update_same, Option.some.injEq] at again
      exact again ▸ fresh
  · have free := ids _ le_rfl
    exact inv.of_idle (Frame.unchanged quiet.backend quiet.calls quiet.next quiet.fs) ids free
      quiet.putFlights fun _ again => by rw [quiet.calls, free] at again; cases again

end Step

/-- A blob daemon whose bucket holds the entry of ActionID `[1]` with OutputID `[2]` and the
one-byte body `[7]`. -/
def sharedUploadRemote (key : Bytes) : Option Bytes :=
  if some key = cacheEntityKey [1] then
    some ((EntryMeta.mk [1] [2] (Int64.wrap 1) ⟨0⟩).writeTo ++ [7])
  else none

/-- `Get([1])` (call 0) downloads the entry and materialises it through `diskStore.Put` (call 3).
A client's `Put` of `[1]` with OutputID `[3]` and the two-byte body `[8, 9]` (call 1) puts through
`diskStore.Put` (call 4), which joins call 3's flight and returns the path of output `[2]`. The
upload it schedules (call 5) sends its own meta with that file. -/
def sharedUploadRun : List Label :=
  [.get ⟨[1]⟩, .put ⟨[1], [3], Int64.wrap 2⟩ [8, 9] false] ++
    [0, 0, 2, 2, 2, 0, 0, 3, 1, 4, 3, 3, 3, 3, 3, 4, 1, 1, 5, 5, 5].map fun i => .run i true ⟨0⟩

/-- The object the upload writes under `CacheEntityKey([1])` is the meta of OutputID `[3]` and
Size 2 followed by the one byte of output `[2]`. -/
theorem upload_after_shared_put :
    ∃ w, run (World.init .blobBackend (fun _ => none) sharedUploadRemote (fun _ => none))
        sharedUploadRun = some w ∧
      w.calls 1 = some (.blobPut ⟨[1], [3], Int64.wrap 2⟩ [8, 9] false (.done (.ok ⟨.output [2]⟩))) ∧
      cacheEntityKey [1] = some (ascii "b/01/01") ∧
      w.remote (ascii "b/01/01") = some ((EntryMeta.mk [1] [3] (Int64.wrap 2) ⟨0⟩).writeTo ++ [7]) :=
  ⟨_, rfl, by decide, rfl, by decide⟩

end Gscache
