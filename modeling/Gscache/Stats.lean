import Gscache.Bytes

/-!
# Persisting the stats

`Metrics.Persist` (`internal/stats/persist.go`) saves the stats to their file at most once per
`MinPersistInterval`: a call that comes sooner schedules, unless one is pending, a
`time.AfterFunc` that calls `Persist` again once the interval is over, 50 ms later. A call that
saves stops the pending timer. `Persist` holds `m.mu` until its save has ended; `ForcePersist`,
which `/stats/clear` and the end of `Server.Run` call, saves without it. A save reads the stats
(`json.Marshal`), writes them to a temporary file and renames it over the stats file.

The counters are a value of any type that any step may change. Time is a clock in milliseconds
that never goes back; a timer fires at or after its deadline, and its function then waits for
`m.mu` in its own goroutine.

Results:
1. `metricsRun_covered`: no call of `Persist` is lost. From the moment it returns, a save begun by
   `Persist` at or after it, or a pending timer, is there in every later state.
2. `metricsRun_pending`: in every reachable state, the pending timer is armed or has fired, its
   deadline is the interval and 50 ms after the last save, and when its function runs it begins a
   save of the stats of that moment.
3. `metricsRun_spaced`: the saves that `Persist` begins are at least `MinPersistInterval` apart,
   along any run from any state.

`ForcePersist` is not covered this way: in the example after `metricsRun_covered`, a save begun
before `/stats/clear` ends after the clear's `ForcePersist`, and the stats file is left with the
stats from before the clear, with no save pending or in progress.
-/

namespace Gscache

/-- `MinPersistInterval`, in milliseconds. -/
def minPersistInterval : Nat := 1000

/-- The 50 ms `Persist` adds to the wait of the timer it schedules. -/
def persistSlack : Nat := 50

/-- Where a `time.AfterFunc` timer is. -/
inductive TimerState
  | armed
  /-- `Stop` came before it fired. -/
  | stopped
  /-- It fired: its function runs in its own goroutine, waiting for `m.mu`. -/
  | fired
  /-- Its function has run. -/
  | done
deriving DecidableEq

structure PersistTimer where
  deadline : Nat
  state : TimerState
deriving DecidableEq

/-- `Timer.Stop`: a timer that has not fired never will; one that has is left as it is. -/
def PersistTimer.stop (timer : PersistTimer) : PersistTimer :=
  if timer.state = .armed then { timer with state := .stopped } else timer

/-- A `saveToFile` in progress, once `json.Marshal(m)` has read the stats. -/
structure StatsSave (σ : Type) where
  data : σ
  /-- Begun by `Persist`, which holds `m.mu` until the save ends. -/
  locked : Bool

/-- `stats.Metrics` with its counters of type `σ`. -/
structure Metrics (σ : Type) where
  now : Nat
  stats : σ
  /-- `diskPath != ""`: the stats are on disk. -/
  attached : Bool
  /-- The content of the stats file. -/
  file : Option σ
  /-- `lastPersistAt`; `none` is the zero time, longer ago than any interval. -/
  lastPersistAt : Option Nat
  /-- `pendingPersist`, as the number of its timer. -/
  pendingPersist : Option Nat
  timers : Nat → Option PersistTimer
  nextTimer : Nat
  /-- `m.mu` is held by `Persist`'s save. -/
  locked : Bool
  saves : Nat → Option (StatsSave σ)
  nextSave : Nat

variable {σ : Type}

/-- The stats after `NewMetrics` and `LoadFromFileAndAttach` (when `attached`), at time `now`,
with the stats file holding `file`. -/
def Metrics.init (now : Nat) (stats : σ) (attached : Bool) (file : Option σ) : Metrics σ :=
  ⟨now, stats, attached, file, none, none, fun _ => none, 0, false, fun _ => none, 0⟩

/-- `ForcePersist` with the stats on disk: a save of the current stats begins. -/
def Metrics.beginSave (m : Metrics σ) (locked : Bool) : Metrics σ :=
  { m with
    saves := Function.update m.saves m.nextSave (some ⟨m.stats, locked⟩)
    nextSave := m.nextSave + 1 }

/-- `time.Since(m.lastPersistAt)`, when it is under `MinPersistInterval`. -/
def Metrics.sinceLast (m : Metrics σ) : Option Nat :=
  match m.lastPersistAt with
  | some t => if m.now - t < minPersistInterval then some (m.now - t) else none
  | none => none

/-- The pending timer is stopped and a save of the current stats begins, with `m.mu` held:
`Persist` once the interval is over. -/
def Metrics.persistNow (m : Metrics σ) : Metrics σ :=
  let m := match m.pendingPersist with
    | some i =>
      { m with
        timers := Function.update m.timers i ((m.timers i).map PersistTimer.stop)
        pendingPersist := none }
    | none => m
  { m.beginSave true with lastPersistAt := some m.now, locked := true }

/-- `time.AfterFunc(MinPersistInterval - elapsed + 50*time.Millisecond, m.Persist)`, kept as
`pendingPersist`. -/
def Metrics.schedulePersist (m : Metrics σ) (elapsed : Nat) : Metrics σ :=
  { m with
    timers := Function.update m.timers m.nextTimer
      (some ⟨m.now + (minPersistInterval - elapsed + persistSlack), .armed⟩)
    nextTimer := m.nextTimer + 1
    pendingPersist := some m.nextTimer }

/-- `Persist`, from the moment it holds `m.mu`. -/
def Metrics.persist (m : Metrics σ) : Metrics σ :=
  if !m.attached then m
  else match m.sinceLast with
    | some elapsed =>
      match m.pendingPersist with
      | none => m.schedulePersist elapsed
      | some _ => m
    | none => m.persistNow

/-- What happens next. -/
inductive MetricsLabel (σ : Type)
  /-- The clock advances by `d`. -/
  | tick (d : Nat)
  /-- The counters change: a request is counted, or `/stats/clear` runs `Clear`. -/
  | change (f : σ → σ)
  /-- A caller runs `Persist`. -/
  | persist
  /-- Timer `i` fires. -/
  | fire (i : Nat)
  /-- The goroutine of timer `i` runs `Persist`. -/
  | callback (i : Nat)
  /-- A caller runs `ForcePersist`. -/
  | forcePersist
  /-- Save `j` ends: `os.WriteFile` and `os.Rename` succeed, or one of them fails. -/
  | finish (j : Nat) (ok : Bool)

/-- One step; `none` when it cannot happen. -/
def metricsStep (m : Metrics σ) : MetricsLabel σ → Option (Metrics σ)
  | .tick d => some { m with now := m.now + d }
  | .change f => some { m with stats := f m.stats }
  | .persist => if m.locked then none else some m.persist
  | .fire i =>
    match m.timers i with
    | some ⟨deadline, .armed⟩ =>
      if deadline ≤ m.now then
        some { m with timers := Function.update m.timers i (some ⟨deadline, .fired⟩) }
      else none
    | _ => none
  | .callback i =>
    match m.timers i with
    | some ⟨deadline, .fired⟩ =>
      if m.locked then none
      else some { m with timers := Function.update m.timers i (some ⟨deadline, .done⟩) }.persist
    | _ => none
  | .forcePersist => some (if m.attached then m.beginSave false else m)
  | .finish j ok =>
    (m.saves j).map fun save =>
      { m with
        file := if ok then some save.data else m.file
        locked := if save.locked then false else m.locked
        saves := Function.update m.saves j none }

/-- The state after a schedule. -/
def metricsRun (m : Metrics σ) : List (MetricsLabel σ) → Option (Metrics σ)
  | [] => some m
  | l :: ls => (metricsStep m l).bind fun m' => metricsRun m' ls

/-! ## What `Persist` does -/

section
variable {m : Metrics σ}

theorem Metrics.sinceLast_eq_some {elapsed : Nat} : m.sinceLast = some elapsed ↔
    ∃ t, m.lastPersistAt = some t ∧ m.now - t < minPersistInterval ∧ elapsed = m.now - t := by
  unfold Metrics.sinceLast
  split <;> simp_all [eq_comm]

theorem Metrics.sinceLast_eq_none : m.sinceLast = none ↔
    ∀ t, m.lastPersistAt = some t → minPersistInterval ≤ m.now - t := by
  unfold Metrics.sinceLast
  split <;> simp_all

@[simp] theorem Metrics.persistNow_now : m.persistNow.now = m.now := by
  unfold Metrics.persistNow; split <;> rfl

@[simp] theorem Metrics.persistNow_attached : m.persistNow.attached = m.attached := by
  unfold Metrics.persistNow; split <;> rfl

@[simp] theorem Metrics.persistNow_lastPersistAt : m.persistNow.lastPersistAt = some m.now := by
  unfold Metrics.persistNow; split <;> rfl

@[simp] theorem Metrics.persistNow_pendingPersist : m.persistNow.pendingPersist = none := by
  unfold Metrics.persistNow; split <;> simp_all [Metrics.beginSave]

@[simp] theorem Metrics.persistNow_nextTimer : m.persistNow.nextTimer = m.nextTimer := by
  unfold Metrics.persistNow; split <;> rfl

theorem Metrics.persistNow_timers (j : Nat) : m.persistNow.timers j =
    if m.pendingPersist = some j then (m.timers j).map PersistTimer.stop else m.timers j := by
  unfold Metrics.persistNow
  split <;> simp_all [Metrics.beginSave, Function.update_apply, eq_comm]

/-- The save `Persist` begins once the interval is over. -/
theorem Metrics.persistNow_saves :
    m.persistNow.saves m.nextSave = some ⟨m.stats, true⟩ ∧ m.persistNow.locked = true := by
  unfold Metrics.persistNow
  split <;> simp [Metrics.beginSave]

/-- What a call of `Persist` does: nothing when the stats are in memory, begin a save once the
interval is over, and otherwise schedule one unless one is pending. -/
theorem Metrics.persist_cases (m : Metrics σ) :
    m.attached = false ∧ m.persist = m ∨
      m.attached = true ∧ m.sinceLast = none ∧ m.persist = m.persistNow ∨
      m.attached = true ∧ ∃ elapsed, m.sinceLast = some elapsed ∧
        (m.pendingPersist = none ∧ m.persist = m.schedulePersist elapsed ∨
          (∃ i, m.pendingPersist = some i) ∧ m.persist = m) := by
  unfold Metrics.persist
  cases attached : m.attached
  · exact .inl ⟨rfl, rfl⟩
  · cases since : m.sinceLast with
    | none => exact .inr (.inl ⟨rfl, rfl, rfl⟩)
    | some elapsed =>
      cases pending : m.pendingPersist with
      | none => exact .inr (.inr ⟨rfl, elapsed, rfl, .inl ⟨rfl, rfl⟩⟩)
      | some i => exact .inr (.inr ⟨rfl, elapsed, rfl, .inr ⟨⟨i, rfl⟩, rfl⟩⟩)

@[simp] theorem Metrics.persist_now : m.persist.now = m.now := by
  rcases m.persist_cases with ⟨-, eq⟩ | ⟨-, -, eq⟩ | ⟨-, _, -, ⟨-, eq⟩ | ⟨-, eq⟩⟩ <;>
    simp [eq, Metrics.schedulePersist]

@[simp] theorem Metrics.persist_attached : m.persist.attached = m.attached := by
  rcases m.persist_cases with ⟨-, eq⟩ | ⟨-, -, eq⟩ | ⟨-, _, -, ⟨-, eq⟩ | ⟨-, eq⟩⟩ <;>
    simp [eq, Metrics.schedulePersist]

/-- `Persist` begins a save only when the interval since the last one is over. -/
theorem Metrics.persist_lastPersistAt : m.persist.lastPersistAt = m.lastPersistAt ∨
    m.persist.lastPersistAt = some m.now ∧
      ∀ t, m.lastPersistAt = some t → t + minPersistInterval ≤ m.now := by
  rcases m.persist_cases with ⟨-, eq⟩ | ⟨-, since, eq⟩ | ⟨-, _, -, ⟨-, eq⟩ | ⟨-, eq⟩⟩
  · exact .inl (by rw [eq])
  · refine .inr ⟨by simp [eq], fun t last => ?_⟩
    have := Metrics.sinceLast_eq_none.mp since t last
    simp only [minPersistInterval] at this ⊢
    omega
  · exact .inl (by rw [eq]; rfl)
  · exact .inl (by rw [eq])

theorem PersistTimer.stop_fired {timer : PersistTimer} {d : Nat} (h : timer.stop = ⟨d, .fired⟩) :
    timer = ⟨d, .fired⟩ := by
  unfold PersistTimer.stop at h
  split at h
  · cases h
  · exact h

end

/-! ## What a step does -/

/-- A step is a call of `Persist`, by a caller or by a timer's goroutine, from a state that agrees
with the current one on what `Persist` decides on; or it keeps all of that, and the clock does not
go back. -/
theorem metricsStep_cases {m m' : Metrics σ} {l : MetricsLabel σ} (h : metricsStep m l = some m') :
    (∃ m₁ : Metrics σ, m₁.now = m.now ∧ m₁.attached = m.attached ∧
        m₁.lastPersistAt = m.lastPersistAt ∧ m₁.pendingPersist = m.pendingPersist ∧ m' = m₁.persist) ∨
      m'.attached = m.attached ∧ m'.lastPersistAt = m.lastPersistAt ∧
        m'.pendingPersist = m.pendingPersist ∧ m.now ≤ m'.now := by
  cases l with
  | persist =>
    simp only [metricsStep] at h
    split at h <;> cases h
    exact .inl ⟨m, rfl, rfl, rfl, rfl, rfl⟩
  | callback i =>
    simp only [metricsStep] at h
    split at h <;> try cases h
    rename_i deadline _
    split at h <;> cases h
    exact .inl ⟨{ m with timers := Function.update m.timers i (some ⟨deadline, .done⟩) },
      rfl, rfl, rfl, rfl, rfl⟩
  | tick d => cases h; exact .inr ⟨rfl, rfl, rfl, Nat.le_add_right _ _⟩
  | change f => cases h; exact .inr ⟨rfl, rfl, rfl, le_rfl⟩
  | fire i =>
    simp only [metricsStep] at h
    split at h <;> try cases h
    split at h <;> cases h
    exact .inr ⟨rfl, rfl, rfl, le_rfl⟩
  | forcePersist =>
    simp only [metricsStep] at h
    cases h
    split <;> exact .inr ⟨rfl, rfl, rfl, le_rfl⟩
  | finish j ok =>
    simp only [metricsStep] at h
    obtain ⟨save, -, rfl⟩ := Option.map_eq_some'.mp h
    exact .inr ⟨rfl, rfl, rfl, le_rfl⟩

/-! ## The timers -/

/-- The pending timer `i` is armed or has fired, for the interval and 50 ms after the last save. -/
def Metrics.Pending (m : Metrics σ) (i : Nat) : Prop :=
  m.attached = true ∧ ∃ t state, m.lastPersistAt = some t ∧
    m.timers i = some ⟨t + minPersistInterval + persistSlack, state⟩ ∧
    (state = .armed ∨ state = .fired)

/-- What holds of every reachable state. -/
structure MetricsInv (m : Metrics σ) : Prop where
  /-- The last save began in the past. -/
  last : ∀ t, m.lastPersistAt = some t → t ≤ m.now
  /-- A timer fires at or after its deadline. -/
  fired : ∀ i d, m.timers i = some ⟨d, .fired⟩ → d ≤ m.now
  fresh : ∀ i, m.nextTimer ≤ i → m.timers i = none
  pending : ∀ i, m.pendingPersist = some i → m.Pending i

section
variable {m m' : Metrics σ}

theorem MetricsInv.init (now : Nat) (stats : σ) (attached : Bool) (file : Option σ) :
    MetricsInv (Metrics.init now stats attached file) where
  last := fun _ last => nomatch last
  fired := fun _ _ found => nomatch found
  fresh := fun _ _ => rfl
  pending := fun _ pending => nomatch pending

/-- A save begun by `Persist` keeps the timers' facts and leaves no timer pending. -/
theorem MetricsInv.persistNow (fired : ∀ i d, m.timers i = some ⟨d, .fired⟩ → d ≤ m.now)
    (fresh : ∀ i, m.nextTimer ≤ i → m.timers i = none) : MetricsInv m.persistNow where
  last := by simp
  fired := fun i d found => by
    rw [Metrics.persistNow_now]
    rw [Metrics.persistNow_timers] at found
    split at found
    · obtain ⟨timer, found, stopped⟩ := Option.map_eq_some'.mp found
      exact fired i d (found.trans (congrArg some (PersistTimer.stop_fired stopped)))
    · exact fired i d found
  fresh := fun i later => by
    rw [Metrics.persistNow_timers, fresh i (by simpa using later)]
    simp
  pending := by simp

theorem MetricsInv.schedulePersist {elapsed : Nat} (inv : MetricsInv m)
    (attached : m.attached = true) (since : m.sinceLast = some elapsed) :
    MetricsInv (m.schedulePersist elapsed) where
  last := inv.last
  fired := fun i d found => by
    simp only [Metrics.schedulePersist, Function.update_apply] at found
    split at found
    · cases found
    · exact inv.fired i d found
  fresh := fun i later => by
    simp only [Metrics.schedulePersist] at later ⊢
    rw [Function.update_noteq (by omega), inv.fresh i (by omega)]
  pending := fun i pending => by
    obtain ⟨t, last, short, rfl⟩ := Metrics.sinceLast_eq_some.mp since
    cases pending
    have past := inv.last t last
    refine ⟨attached, t, .armed, last, ?_, .inl rfl⟩
    simp only [Metrics.schedulePersist, Function.update_same, Option.some.injEq, PersistTimer.mk.injEq,
      and_true]
    omega

theorem MetricsInv.persist (inv : MetricsInv m) : MetricsInv m.persist := by
  rcases m.persist_cases with ⟨-, eq⟩ | ⟨-, -, eq⟩ | ⟨attached, elapsed, since, ⟨-, eq⟩ | ⟨-, eq⟩⟩
  · rwa [eq]
  · rw [eq]; exact .persistNow inv.fired inv.fresh
  · rw [eq]; exact inv.schedulePersist attached since
  · rwa [eq]

/-- The timer's goroutine after it marked the timer done, before `Persist`. -/
def Metrics.runTimer (m : Metrics σ) (i deadline : Nat) : Metrics σ :=
  { m with timers := Function.update m.timers i (some ⟨deadline, .done⟩) }

/-- The function of the pending timer begins a save: its deadline is past the interval. -/
theorem MetricsInv.runTimer_persist {i d : Nat} (inv : MetricsInv m)
    (found : m.timers i = some ⟨d, .fired⟩) (pending : m.pendingPersist = some i) :
    (m.runTimer i d).persist = (m.runTimer i d).persistNow := by
  obtain ⟨attached, t, state, last, timer, -⟩ := inv.pending i pending
  have due := inv.fired i d found
  have deadline : d = t + minPersistInterval + persistSlack := by simp_all
  have since : (m.runTimer i d).sinceLast = none := Metrics.sinceLast_eq_none.mpr fun t' last' => by
    simp only [Metrics.runTimer, last, Option.some.injEq] at last'
    subst last' deadline
    simp only [Metrics.runTimer, minPersistInterval, persistSlack] at due ⊢
    omega
  have attached' : (m.runTimer i d).attached = true := attached
  simp [Metrics.persist, since, attached']

theorem MetricsInv.runTimer {i d : Nat} (inv : MetricsInv m) (found : m.timers i = some ⟨d, .fired⟩) :
    MetricsInv (m.runTimer i d).persist := by
  have fired : ∀ j d', (m.runTimer i d).timers j = some ⟨d', .fired⟩ → d' ≤ m.now := fun j d' h => by
    simp only [Metrics.runTimer, Function.update_apply] at h
    split at h
    · cases h
    · exact inv.fired j d' h
  have fresh : ∀ j, m.nextTimer ≤ j → (m.runTimer i d).timers j = none := fun j later => by
    have other : j ≠ i := by
      rintro rfl
      rw [inv.fresh j later] at found
      cases found
    simp only [Metrics.runTimer, Function.update_noteq other, inv.fresh j later]
  by_cases due : m.pendingPersist = some i
  · rw [inv.runTimer_persist found due]
    exact .persistNow fired fresh
  · refine MetricsInv.persist ⟨inv.last, fired, fresh, fun j pending => ?_⟩
    have other : j ≠ i := fun same => due (same ▸ pending)
    obtain ⟨attached, t, state, last, timer, armed⟩ := inv.pending j pending
    exact ⟨attached, t, state, last, by simp [Metrics.runTimer, Function.update_noteq other, timer],
      armed⟩

theorem MetricsInv.step {l : MetricsLabel σ} (inv : MetricsInv m) (h : metricsStep m l = some m') :
    MetricsInv m' := by
  cases l with
  | tick d =>
    cases h
    exact ⟨fun t last => by have := inv.last t last; simp only; omega,
      fun i d' found => by have := inv.fired i d' found; simp only; omega, inv.fresh, inv.pending⟩
  | change f => cases h; exact ⟨inv.last, inv.fired, inv.fresh, inv.pending⟩
  | persist =>
    simp only [metricsStep] at h
    split at h <;> cases h
    exact inv.persist
  | fire i =>
    simp only [metricsStep] at h
    split at h
    case h_1 deadline armed =>
      split at h <;> cases h
      rename_i due
      refine ⟨inv.last, fun j d' found => ?_, fun j later => ?_, fun j pending => ?_⟩
      · simp only [Function.update_apply] at found
        split at found
        · cases found; exact due
        · exact inv.fired j d' found
      · have other : j ≠ i := by
          rintro rfl
          rw [inv.fresh j later] at armed
          cases armed
        simp only [Function.update_noteq other, inv.fresh j later]
      · obtain ⟨attached, t, state, last, timer, armedOrFired⟩ := inv.pending j pending
        by_cases same : j = i
        · subst same
          rw [timer] at armed
          cases armed
          exact ⟨attached, t, .fired, last, by simp, .inr rfl⟩
        · exact ⟨attached, t, state, last, by simp [Function.update_noteq same, timer], armedOrFired⟩
    case h_2 => cases h
  | callback i =>
    simp only [metricsStep] at h
    split at h <;> try cases h
    rename_i deadline found
    split at h <;> cases h
    exact inv.runTimer found
  | forcePersist =>
    simp only [metricsStep] at h
    cases h
    split
    · exact ⟨inv.last, inv.fired, inv.fresh, inv.pending⟩
    · exact inv
  | finish j ok =>
    simp only [metricsStep] at h
    obtain ⟨save, -, rfl⟩ := Option.map_eq_some'.mp h
    exact ⟨inv.last, inv.fired, inv.fresh, inv.pending⟩

theorem MetricsInv.run : ∀ {ls : List (MetricsLabel σ)} {m m' : Metrics σ}, MetricsInv m →
    metricsRun m ls = some m' → MetricsInv m'
  | [], _, _, inv, h => by cases h; exact inv
  | _ :: _, _, _, inv, h => by
    obtain ⟨_, step, rest⟩ := Option.bind_eq_some.mp h
    exact MetricsInv.run (inv.step step) rest

end

/-! ## No call of `Persist` is lost -/

/-- A save begun by `Persist` at or after `t`, or a pending timer. -/
def Metrics.Covers (m : Metrics σ) (t : Nat) : Prop :=
  (∃ last, m.lastPersistAt = some last ∧ t ≤ last) ∨ ∃ i, m.pendingPersist = some i

section
variable {m m' : Metrics σ} {t : Nat}

/-- After `Persist`, a call at `t` is covered if it was before, and the call itself is covered when
the stats are on disk. -/
theorem Metrics.persist_covers (past : t ≤ m.now)
    (covers : m.Covers t ∨ m.attached = true ∧ t = m.now) : m.persist.Covers t := by
  rcases m.persist_cases with ⟨detached, eq⟩ | ⟨-, -, eq⟩ | ⟨-, _, -, ⟨-, eq⟩ | ⟨pending, eq⟩⟩
  · rw [eq]
    exact covers.resolve_right fun ⟨attached, _⟩ => by simp_all
  · exact .inl ⟨m.now, by simp [eq], past⟩
  · exact .inr ⟨m.nextTimer, by simp [eq, Metrics.schedulePersist]⟩
  · rw [eq]; exact .inr pending

/-- A step keeps a call covered, and the clock never goes back. -/
theorem Metrics.step_covers {l : MetricsLabel σ} (h : metricsStep m l = some m')
    (covers : m.Covers t) (past : t ≤ m.now) : m'.Covers t ∧ t ≤ m'.now := by
  rcases metricsStep_cases h with ⟨m₁, now, -, last, pending, rfl⟩ | ⟨-, last, pending, later⟩
  · have covers₁ : m₁.Covers t := by unfold Metrics.Covers; rwa [last, pending]
    exact ⟨m₁.persist_covers (now ▸ past) (.inl covers₁), by simpa [now]⟩
  · exact ⟨by unfold Metrics.Covers; rwa [last, pending], past.trans later⟩

theorem Metrics.run_covers : ∀ {ls : List (MetricsLabel σ)} {m m' : Metrics σ},
    metricsRun m ls = some m' → m.Covers t → t ≤ m.now → m'.Covers t
  | [], _, _, h, covers, _ => by cases h; exact covers
  | _ :: _, _, _, h, covers, past => by
    obtain ⟨_, step, rest⟩ := Option.bind_eq_some.mp h
    obtain ⟨covers', past'⟩ := Metrics.step_covers step covers past
    exact Metrics.run_covers rest covers' past'

theorem metricsStep_attached {l : MetricsLabel σ} (h : metricsStep m l = some m') :
    m'.attached = m.attached := by
  rcases metricsStep_cases h with ⟨m₁, -, attached, -, -, rfl⟩ | ⟨attached, -⟩
  · simpa
  · exact attached

theorem metricsRun_attached : ∀ {ls : List (MetricsLabel σ)} {m m' : Metrics σ},
    metricsRun m ls = some m' → m'.attached = m.attached
  | [], _, _, h => by cases h; rfl
  | _ :: _, _, _, h => by
    obtain ⟨_, step, rest⟩ := Option.bind_eq_some.mp h
    exact (metricsRun_attached rest).trans (metricsStep_attached step)

end

/-- No call of `Persist` is lost: once one has returned at time `t`, every later state has a save
begun by `Persist` at or after `t`, or a pending timer, whose function begins one when it runs
(`metricsRun_pending`). -/
theorem metricsRun_covered {now : Nat} {stats : σ} {file : Option σ}
    {ls ls' : List (MetricsLabel σ)} {m m' : Metrics σ}
    (reach : metricsRun (Metrics.init now stats true file) ls = some m)
    (called : metricsRun m (.persist :: ls') = some m') : m'.Covers m.now := by
  obtain ⟨_, step, rest⟩ := Option.bind_eq_some.mp called
  simp only [metricsStep] at step
  split at step <;> cases step
  exact Metrics.run_covers rest (m.persist_covers le_rfl (.inr ⟨metricsRun_attached reach, rfl⟩))
    (by simp)

/-- `Persist` begins a save at 0 and the save ends. -/
def firstSave : List (MetricsLabel Nat) := [.persist, .finish 0 true]

/-- A second `Persist` at 0 is too soon, and is covered by the timer it schedules. -/
theorem metricsRun_covered_tooSoon :
    ∃ m m', metricsRun (Metrics.init 0 5 true none) firstSave = some m ∧
      metricsRun m [.persist, .tick 10] = some m' ∧ m'.Covers m.now :=
  ⟨_, _, rfl, rfl, @metricsRun_covered Nat 0 5 none firstSave [.tick 10] _ _ rfl rfl⟩

/-- `Persist` begins a save of 5; `/stats/clear` clears the counters and its `ForcePersist` saves
0; the clear's save ends first. -/
def staleClear : List (MetricsLabel Nat) :=
  [.persist, .change fun _ => 0, .forcePersist, .finish 1 true, .finish 0 true]

/- `ForcePersist` is not covered this way: the save of `Persist` that began before `/stats/clear`
ends after the clear's `ForcePersist`, and the stats file holds the stats from before the clear,
with no save pending or in progress. -/
example :
    ∃ m, metricsRun (Metrics.init 0 5 true none) staleClear = some m ∧ m.stats = 0 ∧
      m.file = some 5 ∧ m.pendingPersist = none ∧ m.locked = false ∧ ∀ j, m.saves j = none :=
  ⟨_, rfl, rfl, rfl, rfl, rfl, fun j => by
    show Function.update (Function.update (Function.update (Function.update
      (fun _ => (none : Option (StatsSave Nat))) 0 (some ⟨5, true⟩)) 1 (some ⟨0, false⟩)) 1 none) 0
      none j = none
    simp only [Function.update_apply]
    split_ifs <;> rfl⟩

/-! ## The pending timer -/

/-- In every reachable state, the pending timer is armed or has fired, for the interval and 50 ms
after the last save; once it has fired and `m.mu` is free, its function begins a save of the stats
of that moment and leaves nothing pending. -/
theorem metricsRun_pending {now : Nat} {stats : σ} {attached : Bool} {file : Option σ}
    {ls : List (MetricsLabel σ)} {m : Metrics σ} {i : Nat}
    (reach : metricsRun (Metrics.init now stats attached file) ls = some m)
    (pending : m.pendingPersist = some i) :
    m.Pending i ∧ ∀ d, m.timers i = some ⟨d, .fired⟩ → m.locked = false →
      ∃ m', metricsStep m (.callback i) = some m' ∧ m'.lastPersistAt = some m.now ∧
        m'.pendingPersist = none ∧ m'.saves m.nextSave = some ⟨m.stats, true⟩ := by
  have inv := (MetricsInv.init now stats attached file).run reach
  refine ⟨inv.pending i pending, fun d found unlocked => ⟨(m.runTimer i d).persistNow, ?_,
    Metrics.persistNow_lastPersistAt, Metrics.persistNow_pendingPersist, Metrics.persistNow_saves.1⟩⟩
  rw [← inv.runTimer_persist found pending]
  simp [metricsStep, found, unlocked, Metrics.runTimer]

/-- `Persist` saves at 0; it comes again at 0 and schedules its timer for 1050, which fires. -/
def timerDue : List (MetricsLabel Nat) :=
  [.persist, .finish 0 true, .persist, .tick 1050, .fire 0]

theorem metricsRun_pending_timerDue :
    ∃ m, metricsRun (Metrics.init 0 5 true none) timerDue = some m ∧ m.pendingPersist = some 0 ∧
      m.Pending 0 ∧ ∀ d, m.timers 0 = some ⟨d, .fired⟩ → m.locked = false →
        ∃ m', metricsStep m (.callback 0) = some m' ∧ m'.lastPersistAt = some m.now ∧
          m'.pendingPersist = none ∧ m'.saves m.nextSave = some ⟨m.stats, true⟩ :=
  ⟨_, rfl, rfl, @metricsRun_pending Nat 0 5 true none timerDue _ 0 rfl rfl⟩

/-! ## The saves of `Persist` are spaced -/

/-- Along a run, the last save of `Persist` stays the one at `t` or one at least an interval
later. -/
theorem Metrics.run_spaced {t : Nat} : ∀ {ls : List (MetricsLabel σ)} {m m' : Metrics σ},
    metricsRun m ls = some m' →
    (∃ t₁, m.lastPersistAt = some t₁ ∧ (t = t₁ ∨ t + minPersistInterval ≤ t₁)) →
    ∃ t₂, m'.lastPersistAt = some t₂ ∧ (t = t₂ ∨ t + minPersistInterval ≤ t₂)
  | [], _, _, h, spaced => by cases h; exact spaced
  | _ :: _, m, _, h, ⟨t₁, last, spaced⟩ => by
    obtain ⟨_, step, rest⟩ := Option.bind_eq_some.mp h
    refine Metrics.run_spaced rest ?_
    rcases metricsStep_cases step with ⟨m₂, now, -, same, -, rfl⟩ | ⟨-, same, -, -⟩
    · rcases m₂.persist_lastPersistAt with unchanged | ⟨saved, later⟩
      · exact ⟨t₁, unchanged.trans (same.trans last), spaced⟩
      · have := later t₁ (same.trans last)
        simp only [minPersistInterval] at spaced this ⊢
        exact ⟨m.now, saved.trans (by rw [now]), by omega⟩
    · exact ⟨t₁, same.trans last, spaced⟩

/-- The saves that `Persist` begins are at least `MinPersistInterval` apart, along any run from any
state. -/
theorem metricsRun_spaced {ls : List (MetricsLabel σ)} {m m' : Metrics σ} {t t' : Nat}
    (run : metricsRun m ls = some m') (last : m.lastPersistAt = some t)
    (last' : m'.lastPersistAt = some t') : t = t' ∨ t + minPersistInterval ≤ t' := by
  obtain ⟨t₂, last₂, spaced⟩ := Metrics.run_spaced run ⟨t, last, .inl rfl⟩
  rw [last', Option.some.injEq] at last₂
  exact last₂ ▸ spaced

theorem metricsRun_spaced_second :
    ∃ m', metricsRun (Metrics.init 0 5 true none).persist [.finish 0 true, .tick 1000, .persist] =
        some m' ∧
      (Metrics.init 0 5 true none).persist.lastPersistAt = some 0 ∧ m'.lastPersistAt = some 1000 ∧
      (0 = 1000 ∨ 0 + minPersistInterval ≤ 1000) :=
  have second : ∃ m', metricsRun (Metrics.init 0 5 true none).persist
      [.finish 0 true, .tick 1000, .persist] = some m' ∧ m'.lastPersistAt = some 1000 :=
    ⟨_, rfl, rfl⟩
  let ⟨m', run, last'⟩ := second
  ⟨m', run, rfl, last', metricsRun_spaced run rfl last'⟩

end Gscache
