import Gscache.Backend.Daemon

/-!
# Single-flight: one execution per ActionID

The daemon has four single-flight groups: `sfGet` and `sfPut` of `LocalBackend`, `sfGet` of
`BlobBackend`, and `sfUpload`, whose `DoChan` runs the background upload. A call that finds no
flight for its ActionID registers itself as the flight's leader, runs the group's function, and
ends the flight when the function returns; a call that finds a flight waits for its leader and
takes the leader's result. `BlobBackend.Put` registers in `sfUpload` the upload call it spawns.

A call that panics while it runs the group's function leaves the flight through the deferred
cleanup of `singleflight.doCall`, which deletes it; a panicked call stays at the program point it
panicked at, but no longer runs.

`FlightInv` says that the flights registered are exactly the live calls running a group's
function, and that a waiting call waits for a call of its own group and ActionID. Every step of the
daemon keeps it.

Results:
1. `reach_single_flight`: in every reachable state of the daemon, each flight is led by a live call
   running the group's function for the flight's ActionID; for each group and ActionID at most one
   live call runs the function; and a waiting call waits for a call of its own group and ActionID.
-/

namespace Gscache

/-- The single-flight groups of the daemon. -/
inductive Group
  | localGet
  | localPut
  | blobGet
  | upload
deriving DecidableEq

namespace World

/-- The flights of group `g`. -/
def flights (w : World) : Group → Flights
  | .localGet => w.getFlights
  | .localPut => w.putFlights
  | .blobGet => w.blobGetFlights
  | .upload => w.uploadFlights

/-- The flights of group `g` set to `f`. -/
def setFlights (w : World) : Group → Flights → World
  | .localGet, f => { w with getFlights := f }
  | .localPut, f => { w with putFlights := f }
  | .blobGet, f => { w with blobGetFlights := f }
  | .upload, f => { w with uploadFlights := f }

@[simp] theorem setFlights_calls (w : World) (g : Group) (f : Flights) :
    (w.setFlights g f).calls = w.calls := by
  cases g <;> rfl

/-- The flight of `a` in group `g` set to `v`: the other flights stay as they were. -/
theorem flights_update (w : World) (g : Group) (a : Bytes) (v : Option Nat) (g' : Group)
    (a' : Bytes) :
    (w.setFlights g (Function.update (w.flights g) a v)).flights g' a' =
      if g' = g ∧ a' = a then v else w.flights g' a' := by
  by_cases same : g' = g
  · subst same
    have flights : (w.setFlights g' (Function.update (w.flights g') a v)).flights g' =
        Function.update (w.flights g') a v := by cases g' <;> rfl
    rw [flights, Function.update_apply]
    simp
  · have flights : (w.setFlights g (Function.update (w.flights g) a v)).flights g' =
        w.flights g' := by cases g <;> cases g' <;> first | rfl | exact absurd rfl same
    rw [flights, if_neg (fun both => same both.1)]

@[simp] theorem setCall_flights (w : World) (i : Nat) (c : Call) :
    (w.setCall i c).flights = w.flights := by
  funext g; cases g <;> rfl

@[simp] theorem spawn_flights (w : World) (c : Call) : (w.spawn c).flights = w.flights := by
  funext g; cases g <;> rfl

@[simp] theorem panic_flights (w : World) (i : Nat) : (w.panic i).flights = w.flights := by
  funext g; cases g <;> rfl

@[simp] theorem setFlights_panicked (w : World) (g : Group) (f : Flights) :
    (w.setFlights g f).panicked = w.panicked := by
  cases g <;> rfl

/-- A call found in `w` is still there after a spawn, which takes a free id. -/
theorem spawn_found {w : World} {i : Nat} {c c' : Call} (found : w.calls i = some c)
    (ids : w.calls w.next = none) : (w.spawn c').calls i = some c := by
  have other : i ≠ w.next := fun same => by rw [same, ids] at found; cases found
  rw [spawn_calls, Function.update_noteq other, found]

end World

/-- The group and ActionID of a call's flight, the one it leads or waits for; `BlobBackend.Put`
is in no group. -/
def Call.flightKey : Call → Option (Group × Bytes)
  | .localGet req _ => some (.localGet, req.actionID)
  | .localPut req _ _ _ _ => some (.localPut, req.actionID)
  | .blobGet req _ => some (.blobGet, req.actionID)
  | .upload req _ _ => some (.upload, req.actionID)
  | .blobPut .. => none

/-- The flight a call leads: from registering it until the group's function returns, the call
runs that function. -/
def Call.leads : Call → Option (Group × Bytes)
  | .localGet _ .call | .localGet _ (.wait _) | .localGet _ (.done _) => none
  | .localGet req _ => some (.localGet, req.actionID)
  | .localPut _ _ _ _ .call | .localPut _ _ _ _ (.wait _) | .localPut _ _ _ _ (.done _) => none
  | .localPut req _ _ _ _ => some (.localPut, req.actionID)
  | .blobGet _ .call | .blobGet _ (.wait _) | .blobGet _ (.done _) => none
  | .blobGet req _ => some (.blobGet, req.actionID)
  | .upload _ _ .done => none
  | .upload req _ _ => some (.upload, req.actionID)
  | .blobPut .. => none

/-- The flight a call waits for, and its leader. -/
def Call.waitsFor : Call → Option (Group × Bytes × Nat)
  | .localGet req (.wait leader) => some (.localGet, req.actionID, leader)
  | .localPut req _ _ _ (.wait leader) => some (.localPut, req.actionID, leader)
  | .blobGet req (.wait leader) => some (.blobGet, req.actionID, leader)
  | _ => none

theorem Call.flightKey_of_leads {c : Call} {key : Group × Bytes} (leads : c.leads = some key) :
    c.flightKey = some key := by
  cases c with
  | localGet _ pc => cases pc <;> first | exact leads | cases leads
  | localPut _ _ _ _ pc => cases pc <;> first | exact leads | cases leads
  | blobGet _ pc => cases pc <;> first | exact leads | cases leads
  | upload _ _ pc => cases pc <;> first | exact leads | cases leads
  | blobPut => cases leads

/-- The invariant of the single-flight groups. -/
structure FlightInv (w : World) : Prop where
  /-- A flight is led by a live call running the group's function for its ActionID. -/
  led : ∀ g a i, w.flights g a = some i →
    ∃ c, w.calls i = some c ∧ c.leads = some (g, a) ∧ w.panicked i = false
  /-- A live call running a group's function is the registered leader of its flight. -/
  registered : ∀ i c g a, w.calls i = some c → c.leads = some (g, a) → w.panicked i = false →
    w.flights g a = some i
  /-- A waiting call waits for a call of its group and ActionID. -/
  waits : ∀ i c g a leader, w.calls i = some c → c.waitsFor = some (g, a, leader) →
    ∃ c', w.calls leader = some c' ∧ c'.flightKey = some (g, a)

/-- For each group and ActionID at most one live call runs the group's function. -/
theorem FlightInv.leader_unique {w : World} (inv : FlightInv w) {i j : Nat} {ci cj : Call}
    {g : Group} {a : Bytes} (found : w.calls i = some ci) (found' : w.calls j = some cj)
    (leads : ci.leads = some (g, a)) (leads' : cj.leads = some (g, a))
    (alive : w.panicked i = false) (alive' : w.panicked j = false) : i = j :=
  Option.some.inj ((inv.registered i ci g a found leads alive).symm.trans
    (inv.registered j cj g a found' leads' alive'))

/-! ## What each kind of step keeps -/

section Transitions

variable {w W : World} {i j : Nat} {c c' c₀ : Call} {g : Group} {a : Bytes}

/-- Setting call `i` to `c'` keeps, at every id, what `f` says of the call found there, when `f`
says the same of `c'` as of the call it replaces. -/
theorem found_of_update {β : Type} (f : Call → β) {calls : Nat → Option Call}
    (found : calls i = some c) (same : f c' = f c) (present : calls j = some c₀) :
    ∃ c₁, Function.update calls i (some c') j = some c₁ ∧ f c₁ = f c₀ := by
  by_cases here : j = i
  · subst here
    cases found.symm.trans present
    exact ⟨c', Function.update_same _ _ _, same⟩
  · exact ⟨c₀, by rw [Function.update_noteq here, present], rfl⟩

/-- What is found at `j` once call `i` is set to `c'`. -/
theorem found_update {calls : Nat → Option Call}
    (present : Function.update calls i (some c') j = some c₀) :
    j = i ∧ c₀ = c' ∨ j ≠ i ∧ calls j = some c₀ := by
  by_cases here : j = i
  · subst here
    rw [Function.update_same, Option.some.injEq] at present
    exact .inl ⟨rfl, present.symm⟩
  · rw [Function.update_noteq here] at present
    exact .inr ⟨here, present⟩

/-- The call found at `j`, other than `i`, which runs no group's function. -/
theorem ne_of_idle (found : w.calls i = some c) (idle : c.leads = none)
    (present : w.calls j = some c₀) (lead : c₀.leads = some (g, a)) : j ≠ i := fun same => by
  subst same; cases found.symm.trans present; cases idle.symm.trans lead

/-- The call found at `j`, which runs the function of another flight than call `i`. -/
theorem ne_of_leads {g' : Group} {a' : Bytes} (found : w.calls i = some c)
    (led : c.leads = some (g, a)) (present : w.calls j = some c₀) (lead : c₀.leads = some (g', a'))
    (other : ¬(g' = g ∧ a' = a)) : j ≠ i := fun same => by
  subst same
  cases found.symm.trans present
  obtain ⟨rfl, rfl⟩ := Prod.mk.inj (Option.some.inj (led.symm.trans lead))
  exact other ⟨rfl, rfl⟩

/-- A flight found in `w` is not the free flight `(g, a)`. -/
theorem not_same_of_free {g' : Group} {a' : Bytes} (free : w.flights g a = none)
    (flight : w.flights g' a' = some j) : ¬(g' = g ∧ a' = a) := fun ⟨sameGroup, sameID⟩ => by
  subst sameGroup sameID
  rw [free] at flight
  cases flight

/-- A flight registered to another call than `i`, the live leader of `(g, a)`, is not `(g, a)`. -/
theorem FlightInv.not_same_of_other {g' : Group} {a' : Bytes} (inv : FlightInv w)
    (alive : w.panicked i = false) (found : w.calls i = some c) (led : c.leads = some (g, a))
    (flight : w.flights g' a' = some j) (other : j ≠ i) : ¬(g' = g ∧ a' = a) :=
  fun ⟨sameGroup, sameID⟩ => by
    subst sameGroup sameID
    exact other (Option.some.inj (flight.symm.trans (inv.registered i c g' a' found led alive)))

theorem FlightInv.init (backend : BackendKind) (fs : Path → Option Node)
    (remote : Bytes → Option Bytes) (archives : Bytes → Option ArReader) :
    FlightInv (World.init backend fs remote archives) :=
  ⟨fun g _ _ absent => (by cases g <;> cases absent), fun _ _ _ _ absent => (by cases absent),
    fun _ _ _ _ _ absent => (by cases absent)⟩

/-- A step that changes neither the calls nor the flights: `Close`, or an archive installed. -/
theorem FlightInv.of_eq (inv : FlightInv w) (calls : W.calls = w.calls)
    (flights : W.flights = w.flights) (panicked : W.panicked = w.panicked) : FlightInv W := by
  obtain ⟨led, registered, waits⟩ := inv
  exact ⟨by rw [flights, calls, panicked]; exact led,
    by rw [flights, calls, panicked]; exact registered, by rw [calls]; exact waits⟩

/-- Call `i` moves on without registering or ending a flight: it keeps its group, ActionID and
the flight it leads, and it waits only for a registered leader. -/
theorem FlightInv.setCall (inv : FlightInv w) (found : w.calls i = some c)
    (calls : W.calls = Function.update w.calls i (some c')) (flights : W.flights = w.flights)
    (panicked : W.panicked = w.panicked) (key : c'.flightKey = c.flightKey)
    (leads : c'.leads = c.leads)
    (waits : ∀ g a leader, c'.waitsFor = some (g, a, leader) →
      c.waitsFor = some (g, a, leader) ∨ w.flights g a = some leader) :
    FlightInv W := by
  have keyed : ∀ {l c₀ g a}, w.calls l = some c₀ → c₀.flightKey = some (g, a) →
      ∃ c₁, W.calls l = some c₁ ∧ c₁.flightKey = some (g, a) := fun present k₀ => by
    obtain ⟨c₁, present', k₁⟩ := found_of_update Call.flightKey found key present
    exact ⟨c₁, calls ▸ present', k₁.trans k₀⟩
  refine ⟨fun g a l flight => ?_, fun l c₁ g a present lead alive => ?_,
    fun l c₁ g a leader present wait => ?_⟩
  · obtain ⟨c₀, present, lead, alive⟩ := inv.led g a l (flights ▸ flight)
    obtain ⟨c₁, present', l₁⟩ := found_of_update Call.leads found leads present
    exact ⟨c₁, calls ▸ present', l₁.trans lead, panicked ▸ alive⟩
  · rw [calls] at present
    rw [panicked] at alive
    rw [flights]
    rcases found_update present with ⟨rfl, rfl⟩ | ⟨-, present⟩
    · exact inv.registered l c g a found (leads.symm.trans lead) alive
    · exact inv.registered l c₁ g a present lead alive
  · rw [calls] at present
    rcases found_update present with ⟨rfl, rfl⟩ | ⟨-, present⟩
    · rcases waits g a leader wait with before | flight
      · obtain ⟨c₀, present, k₀⟩ := inv.waits l c g a leader found before
        exact keyed present k₀
      · obtain ⟨c₀, present, lead, -⟩ := inv.led g a leader flight
        exact keyed present (Call.flightKey_of_leads lead)
    · obtain ⟨c₀, present, k₀⟩ := inv.waits l c₁ g a leader present wait
      exact keyed present k₀

/-- Call `i` moves on, leads what it led, and does not wait. -/
theorem FlightInv.move (inv : FlightInv w) (found : w.calls i = some c)
    (calls : W.calls = Function.update w.calls i (some c')) (flights : W.flights = w.flights)
    (panicked : W.panicked = w.panicked) (key : c'.flightKey = c.flightKey)
    (leads : c'.leads = c.leads) (idle : c'.waitsFor = none) : FlightInv W :=
  inv.setCall found calls flights panicked key leads fun _ _ _ wait => by
    rw [idle] at wait; cases wait

/-- Call `i` finds the flight of its ActionID led by `leader`, and waits for it. -/
theorem FlightInv.wait {leader : Nat} (inv : FlightInv w) (found : w.calls i = some c)
    (key : c'.flightKey = c.flightKey) (idle : c.leads = none) (leads : c'.leads = none)
    (waits : c'.waitsFor = some (g, a, leader)) (flight : w.flights g a = some leader) :
    FlightInv (w.setCall i c') :=
  inv.setCall found rfl (World.setCall_flights _ _ _) rfl key (leads.trans idle.symm)
    fun _ _ _ wait => .inr (by rw [waits] at wait; cases wait; exact flight)

/-- Call `i`, live, finds no flight for its ActionID, registers itself, and starts the group's
function. -/
theorem FlightInv.register (inv : FlightInv w) (g : Group) (alive : w.panicked i = false)
    (found : w.calls i = some c) (key : c'.flightKey = c.flightKey) (idle : c.leads = none)
    (leads : c'.leads = some (g, a)) (waits : c'.waitsFor = none) (free : w.flights g a = none) :
    FlightInv ((w.setFlights g (Function.update (w.flights g) a (some i))).setCall i c') := by
  refine ⟨fun g' a' l flight => ?_, fun l c₁ g' a' present lead alive' => ?_,
    fun l c₁ g' a' leader present wait => ?_⟩
  · rw [World.setCall_flights, World.flights_update] at flight
    split_ifs at flight with mine
    · obtain ⟨rfl, rfl⟩ := mine
      cases flight
      exact ⟨c', by simp, leads, by simpa using alive⟩
    · obtain ⟨c₀, present, lead, alive₀⟩ := inv.led g' a' l flight
      exact ⟨c₀, by simp [Function.update_noteq (ne_of_idle found idle present lead), present], lead,
        by simpa using alive₀⟩
  · rw [World.setCall_flights, World.flights_update]
    simp only [World.setCall_calls, World.setFlights_calls, World.setCall_panicked,
      World.setFlights_panicked] at present alive'
    rcases found_update present with ⟨rfl, rfl⟩ | ⟨here, present⟩
    · obtain ⟨rfl, rfl⟩ := Prod.mk.inj (Option.some.inj (leads.symm.trans lead))
      simp
    · have flight := inv.registered l c₁ g' a' present lead alive'
      exact (if_neg (not_same_of_free free flight)).trans flight
  · rw [World.setCall_calls, World.setFlights_calls] at present ⊢
    rcases found_update present with ⟨rfl, rfl⟩ | ⟨-, present⟩
    · rw [waits] at wait; cases wait
    · obtain ⟨c₀, present, k₀⟩ := inv.waits l c₁ g' a' leader present wait
      obtain ⟨c₂, present', k₂⟩ := found_of_update Call.flightKey found key present
      exact ⟨c₂, present', k₂.trans k₀⟩

/-- Call `i`, live and the leader of the flight of its ActionID, returns from the group's function
and ends the flight. -/
theorem FlightInv.release (inv : FlightInv w) (g : Group) (alive : w.panicked i = false)
    (found : w.calls i = some c) (key : c'.flightKey = c.flightKey) (led : c.leads = some (g, a))
    (leads : c'.leads = none) (waits : c'.waitsFor = none) :
    FlightInv ((w.setFlights g (Function.update (w.flights g) a none)).setCall i c') := by
  refine ⟨fun g' a' l flight => ?_, fun l c₁ g' a' present lead alive' => ?_,
    fun l c₁ g' a' leader present wait => ?_⟩
  · rw [World.setCall_flights, World.flights_update] at flight
    split_ifs at flight with mine
    obtain ⟨c₀, present, lead, alive₀⟩ := inv.led g' a' l flight
    exact ⟨c₀, by simp [Function.update_noteq (ne_of_leads found led present lead mine), present],
      lead, by simpa using alive₀⟩
  · rw [World.setCall_flights, World.flights_update]
    simp only [World.setCall_calls, World.setFlights_calls, World.setCall_panicked,
      World.setFlights_panicked] at present alive'
    rcases found_update present with ⟨rfl, rfl⟩ | ⟨here, present⟩
    · rw [leads] at lead; cases lead
    · have flight := inv.registered l c₁ g' a' present lead alive'
      exact (if_neg (inv.not_same_of_other alive found led flight here)).trans flight
  · rw [World.setCall_calls, World.setFlights_calls] at present ⊢
    rcases found_update present with ⟨rfl, rfl⟩ | ⟨-, present⟩
    · rw [waits] at wait; cases wait
    · obtain ⟨c₀, present, k₀⟩ := inv.waits l c₁ g' a' leader present wait
      obtain ⟨c₂, present', k₂⟩ := found_of_update Call.flightKey found key present
      exact ⟨c₂, present', k₂.trans k₀⟩

/-- A new call that neither leads nor waits. -/
theorem FlightInv.spawn (inv : FlightInv w) (ids : w.calls w.next = none) (leads : c.leads = none)
    (waits : c.waitsFor = none) : FlightInv (w.spawn c) := by
  refine ⟨fun g a l flight => ?_, fun l c₁ g a present lead alive => ?_,
    fun l c₁ g a leader present wait => ?_⟩
  · obtain ⟨c₀, present, lead, alive⟩ := inv.led g a l (by simpa using flight)
    exact ⟨c₀, World.spawn_found present ids, lead, alive⟩
  · rcases found_update present with ⟨-, rfl⟩ | ⟨-, present⟩
    · rw [leads] at lead; cases lead
    · simpa using inv.registered l c₁ g a present lead alive
  · rcases found_update present with ⟨-, rfl⟩ | ⟨-, present⟩
    · rw [waits] at wait; cases wait
    · obtain ⟨c₀, present, k₀⟩ := inv.waits l c₁ g a leader present wait
      exact ⟨c₀, World.spawn_found present ids, k₀⟩

/-- A new call, registered at once as the leader of the flight of its ActionID: the upload that
`sfUpload.DoChan` starts. -/
theorem FlightInv.spawnLeader (inv : FlightInv w) (g : Group) (ids : w.calls w.next = none)
    (unborn : w.panicked w.next = false) (leads : c.leads = some (g, a))
    (waits : c.waitsFor = none) (free : w.flights g a = none) :
    FlightInv ((w.spawn c).setFlights g (Function.update (w.flights g) a (some w.next))) := by
  have flights : ∀ g' a', ((w.spawn c).setFlights g
      (Function.update (w.flights g) a (some w.next))).flights g' a' =
      if g' = g ∧ a' = a then some w.next else w.flights g' a' := by
    intro g' a'
    rw [← World.flights_update w g a (some w.next) g' a']
    cases g <;> cases g' <;> rfl
  refine ⟨fun g' a' l flight => ?_, fun l c₁ g' a' present lead alive => ?_,
    fun l c₁ g' a' leader present wait => ?_⟩
  · rw [flights] at flight
    split_ifs at flight with mine
    · obtain ⟨rfl, rfl⟩ := mine
      cases flight
      exact ⟨c, by simp, leads, by simpa using unborn⟩
    · obtain ⟨c₀, present, lead, alive⟩ := inv.led g' a' l flight
      exact ⟨c₀, by simpa using World.spawn_found present ids, lead, by simpa using alive⟩
  · rw [flights]
    simp only [World.setFlights_calls, World.setFlights_panicked, World.spawn_panicked] at present alive
    rcases found_update present with ⟨rfl, rfl⟩ | ⟨-, present⟩
    · obtain ⟨rfl, rfl⟩ := Prod.mk.inj (Option.some.inj (leads.symm.trans lead))
      simp
    · have flight := inv.registered l c₁ g' a' present lead alive
      exact (if_neg (not_same_of_free free flight)).trans flight
  · rw [World.setFlights_calls] at present ⊢
    rcases found_update present with ⟨-, rfl⟩ | ⟨-, present⟩
    · rw [waits] at wait; cases wait
    · obtain ⟨c₀, present, k₀⟩ := inv.waits l c₁ g' a' leader present wait
      exact ⟨c₀, World.spawn_found present ids, k₀⟩

/-- Call `i`, which runs no group's function, panics. -/
theorem FlightInv.panic (inv : FlightInv w) (found : w.calls i = some c) (idle : c.leads = none) :
    FlightInv (w.panic i) := by
  refine ⟨fun g a l flight => ?_, fun l c₁ g a present lead alive => ?_, inv.waits⟩
  · obtain ⟨c₀, present, lead, alive⟩ := inv.led g a l (by simpa using flight)
    exact ⟨c₀, present, lead, by simp [Function.update_noteq (ne_of_idle found idle present lead), alive]⟩
  · have other : l ≠ i := fun same => by subst same; simp at alive
    simpa using inv.registered l c₁ g a present lead (by simpa [Function.update_noteq other] using alive)

/-- Call `i`, live and the leader of the flight of its ActionID, panics inside the group's
function: `doCall`'s deferred cleanup deletes the flight. -/
theorem FlightInv.abort (inv : FlightInv w) (g : Group) (alive : w.panicked i = false)
    (found : w.calls i = some c) (led : c.leads = some (g, a)) :
    FlightInv ((w.setFlights g (Function.update (w.flights g) a none)).panic i) := by
  refine ⟨fun g' a' l flight => ?_, fun l c₁ g' a' present lead alive' => ?_, ?_⟩
  · rw [World.panic_flights, World.flights_update] at flight
    split_ifs at flight with mine
    obtain ⟨c₀, present, lead, alive₀⟩ := inv.led g' a' l flight
    exact ⟨c₀, by simpa using present, lead,
      by simp [Function.update_noteq (ne_of_leads found led present lead mine), alive₀]⟩
  · have other : l ≠ i := fun same => by subst same; simp at alive'
    simp only [World.panic_calls, World.setFlights_calls, World.panic_panicked,
      World.setFlights_panicked, Function.update_noteq other] at present alive'
    have flight := inv.registered l c₁ g' a' present lead alive'
    rw [World.panic_flights, World.flights_update]
    exact (if_neg (inv.not_same_of_other alive found led flight other)).trans flight
  · intro l c₁ g' a' leader present wait
    simpa using inv.waits l c₁ g' a' leader (by simpa using present) wait

end Transitions

/-! ## Every step keeps the invariant -/

section Steps

variable {w w' : World} {i : Nat} {ok : Bool} {now : Time}

theorem stepLocalGet_flightInv {req : GetRequest} {pc : LocalGetPc} (inv : FlightInv w)
    (alive : w.panicked i = false) (found : w.calls i = some (.localGet req pc))
    (h : stepLocalGet w i req ok pc = some w') : FlightInv w' := by
  cases pc with
  | call =>
    simp only [stepLocalGet] at h
    split at h
    · cases h; exact inv.move found rfl rfl rfl rfl rfl rfl
    · split at h <;> cases h
      · exact inv.wait found rfl rfl rfl rfl ‹_›
      · exact inv.register .localGet alive found rfl rfl rfl rfl ‹_›
  | finish => cases h; exact inv.release .localGet alive found rfl rfl rfl rfl
  | _ =>
    simp only [stepLocalGet] at h
    (repeat' split at h) <;> cases h <;>
      first
      | exact inv.move found rfl rfl rfl rfl rfl rfl
      | exact inv.panic found rfl
      | exact inv.abort .localGet alive found rfl

theorem stepLocalPut_flightInv {req : PutRequest} {body : Bytes} {bodyErr : Bool}
    {override : Option Time} {pc : LocalPutPc} (inv : FlightInv w) (alive : w.panicked i = false)
    (found : w.calls i = some (.localPut req body bodyErr override pc))
    (h : stepLocalPut w i req body bodyErr override ok now pc = some w') : FlightInv w' := by
  cases pc with
  | call =>
    simp only [stepLocalPut] at h
    split at h
    · cases h; exact inv.move found rfl rfl rfl rfl rfl rfl
    · split at h <;> cases h
      · exact inv.wait found rfl rfl rfl rfl ‹_›
      · exact inv.register .localPut alive found rfl rfl rfl rfl ‹_›
  | finish => cases h; exact inv.release .localPut alive found rfl rfl rfl rfl
  | _ =>
    simp only [stepLocalPut] at h
    (repeat' split at h) <;> cases h <;>
      first
      | exact inv.move found rfl rfl rfl rfl rfl rfl
      | exact inv.panic found rfl
      | exact inv.abort .localPut alive found rfl

theorem stepBlobGet_flightInv {req : GetRequest} {pc : BlobGetPc} (inv : FlightInv w)
    (ids : w.calls w.next = none) (alive : w.panicked i = false)
    (found : w.calls i = some (.blobGet req pc)) (h : stepBlobGet w i req ok pc = some w') :
    FlightInv w' := by
  cases pc with
  | call =>
    simp only [stepBlobGet] at h
    split at h
    · cases h; exact inv.move found rfl rfl rfl rfl rfl rfl
    · split at h <;> cases h
      · exact inv.wait found rfl rfl rfl rfl ‹_›
      · exact inv.register .blobGet alive found rfl rfl rfl rfl ‹_›
  | finish =>
    simp only [stepBlobGet] at h
    (repeat' split at h) <;> cases h <;>
      first
      | exact inv.release .blobGet alive found rfl rfl rfl rfl
      | exact inv.abort .blobGet alive found rfl
  | _ =>
    simp only [stepBlobGet] at h
    (repeat' split at h) <;> cases h <;>
      first
      | exact inv.move found rfl rfl rfl rfl rfl rfl
      | exact inv.panic found rfl
      | exact inv.abort .blobGet alive found rfl
      | refine (inv.spawn ids ?_ ?_).move (World.spawn_found found ids) rfl rfl rfl rfl rfl rfl <;>
          rfl

theorem stepBlobPut_flightInv {req : PutRequest} {body : Bytes} {bodyErr : Bool}
    {pc : BlobPutPc} (inv : FlightInv w) (ids : w.calls w.next = none)
    (unborn : w.panicked w.next = false)
    (found : w.calls i = some (.blobPut req body bodyErr pc))
    (h : stepBlobPut w i req body bodyErr pc = some w') : FlightInv w' := by
  cases pc with
  | schedule =>
    simp only [stepBlobPut] at h
    split at h <;> cases h
    · exact inv.move found rfl rfl rfl rfl rfl rfl
    · refine (inv.spawnLeader .upload ids unborn ?_ ?_ ?_).move (World.spawn_found found ids)
        rfl rfl rfl rfl rfl rfl
      · rfl
      · rfl
      · assumption
  | _ =>
    simp only [stepBlobPut] at h
    (repeat' split at h) <;> cases h <;>
      first
      | exact inv.move found rfl rfl rfl rfl rfl rfl
      | exact inv.panic found rfl
      | refine (inv.spawn ids ?_ ?_).move (World.spawn_found found ids) rfl rfl rfl rfl rfl rfl <;>
          rfl

theorem stepUpload_flightInv {req : PutRequest} {diskPath : Path} {pc : UploadPc}
    (inv : FlightInv w) (alive : w.panicked i = false)
    (found : w.calls i = some (.upload req diskPath pc))
    (h : stepUpload w i req diskPath ok now pc = some w') : FlightInv w' := by
  cases pc with
  | finish => cases h; exact inv.release .upload alive found rfl rfl rfl rfl
  | _ =>
    simp only [stepUpload] at h
    (repeat' split at h) <;> cases h <;> exact inv.move found rfl rfl rfl rfl rfl rfl

theorem stepCall_flightInv {c : Call} (inv : FlightInv w) (ids : w.calls w.next = none)
    (unborn : w.panicked w.next = false) (alive : w.panicked i = false)
    (found : w.calls i = some c) (h : stepCall w i ok now c = some w') : FlightInv w' := by
  cases c with
  | localGet => exact stepLocalGet_flightInv inv alive found h
  | localPut => exact stepLocalPut_flightInv inv alive found h
  | blobGet => exact stepBlobGet_flightInv inv ids alive found h
  | blobPut => exact stepBlobPut_flightInv inv ids unborn found h
  | upload => exact stepUpload_flightInv inv alive found h

/-- Every step of the daemon keeps the invariant. -/
theorem step_flightInv {l : Label} (inv : FlightInv w) (ids : w.calls w.next = none)
    (unborn : w.panicked w.next = false) (h : step w l = some w') : FlightInv w' := by
  cases l with
  | get | put => cases h; split <;> exact inv.spawn ids rfl rfl
  | run i ok now =>
    simp only [step] at h
    split at h
    · cases h
    · rename_i alive
      obtain ⟨c, found, stepped⟩ := Option.bind_eq_some.mp h
      exact stepCall_flightInv inv ids unborn (Bool.eq_false_iff.mpr alive) found stepped
  | close => cases h; split <;> exact inv.of_eq rfl rfl rfl
  | closeDisk =>
    simp only [step] at h
    split at h <;> cases h
    exact inv.of_eq rfl rfl rfl
  | install => cases h; exact inv.of_eq rfl rfl rfl

theorem Reach.flightInv {w : World} (reach : Reach w) : FlightInv w := by
  induction reach with
  | init => exact FlightInv.init _ _ _ _
  | step l reach h ih =>
    exact step_flightInv ih (reach.ids _ (Nat.le_refl _)) (reach.unborn _ (Nat.le_refl _)) h

end Steps

/-- In every reachable state of the daemon, each flight is led by a live call running the group's
function for the flight's ActionID; for each group and ActionID at most one live call runs the
function; and a waiting call waits for a call of its own group and ActionID. -/
theorem reach_single_flight {w : World} (reach : Reach w) :
    (∀ g a i, w.flights g a = some i →
      ∃ c, w.calls i = some c ∧ c.leads = some (g, a) ∧ w.panicked i = false) ∧
    (∀ i j ci cj g a, w.calls i = some ci → w.calls j = some cj → ci.leads = some (g, a) →
      cj.leads = some (g, a) → w.panicked i = false → w.panicked j = false → i = j) ∧
    (∀ i c g a leader, w.calls i = some c → c.waitsFor = some (g, a, leader) →
      ∃ c', w.calls leader = some c' ∧ c'.flightKey = some (g, a)) :=
  have inv := reach.flightInv
  ⟨inv.led, fun _ _ _ _ _ _ found found' leads leads' alive alive' =>
    inv.leader_unique found found' leads leads' alive alive', inv.waits⟩

/-- Two gets of `[1]` on a `LocalBackend`: the first registers its flight and opens the action
file, the second finds the flight and waits for it. -/
def twoGets : List Label :=
  [.get ⟨[1]⟩, .get ⟨[1]⟩, .run 0 true ⟨0⟩, .run 1 true ⟨0⟩]

theorem reach_single_flight_twoGets :
    ∃ w, run (World.init .localBackend (fun _ => none) (fun _ => none) (fun _ => none)) twoGets =
        some w ∧
      w.calls 0 = some (.localGet ⟨[1]⟩ .openAction) ∧ w.calls 1 = some (.localGet ⟨[1]⟩ (.wait 0)) ∧
      ((∀ g a i, w.flights g a = some i →
          ∃ c, w.calls i = some c ∧ c.leads = some (g, a) ∧ w.panicked i = false) ∧
        (∀ i j ci cj g a, w.calls i = some ci → w.calls j = some cj → ci.leads = some (g, a) →
          cj.leads = some (g, a) → w.panicked i = false → w.panicked j = false → i = j) ∧
        (∀ i c g a leader, w.calls i = some c → c.waitsFor = some (g, a, leader) →
          ∃ c', w.calls leader = some c' ∧ c'.flightKey = some (g, a))) :=
  have ran : ∃ w, run (World.init .localBackend (fun _ => none) (fun _ => none) (fun _ => none))
      twoGets = some w ∧ w.calls 0 = some (.localGet ⟨[1]⟩ .openAction) ∧
      w.calls 1 = some (.localGet ⟨[1]⟩ (.wait 0)) :=
    ⟨_, rfl, rfl, rfl⟩
  let ⟨w, ran, first, second⟩ := ran
  ⟨w, ran, first, second, reach_single_flight ((Reach.init .localBackend _ _ _).run ran)⟩

end Gscache
