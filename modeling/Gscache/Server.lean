import Gscache.Bytes

/-!
# The daemon's inactivity monitor

`Server.startInactivityMonitor` (`src/unnamed/part_009`), when `ShutdownAfterInactivity` is
positive, starts a worker that loops on a `select` over three channels: `activityCh`, where
`mMarkActive` (`src/unnamed/part_008`) puts a mark, without blocking, at the start of every
`/cacheprog/put` and `/cacheprog/get`; the fire of `shutdownTimer`; and the end of the server's
lifecycle. A mark resets the timer, the fire calls `Shutdown`, and the end of the lifecycle ends
the worker. `select` takes any of its ready cases.

`activityCh` has a buffer of one, so a mark sent while one is waiting is dropped. Timers are Go
1.23 timers (the module is `go 1.24`): `Reset` drops a fire that was not received, so the timer's
channel is ready exactly when its deadline has passed and its fire has not been received.

Results:
1. `monitorRun_idle`: the worker shuts the server down only once a whole `ShutdownAfterInactivity`
   has passed since the last mark it received (or since it started).
2. `monitorRun_shuts_down`: in every reachable state where the lifecycle is still open and no mark
   waits, letting the clock reach the timer's deadline lets the worker shut the server down.

The example after `monitorRun_idle` shows that the mark received last need not be the last mark
put: a request that puts its mark as the timer comes due can find the worker taking the fire, and
the server shuts down with the request's mark never received.
-/

namespace Gscache

/-- The worker of `startInactivityMonitor` and what it reads. -/
structure Monitor where
  now : Nat
  /-- `ShutdownAfterInactivity`. -/
  timeout : Nat
  /-- `activityCh` holds a mark. -/
  marked : Bool
  lastActive : Nat
  /-- The deadline of `shutdownTimer`, until its fire is received. -/
  deadline : Option Nat
  /-- `s.lifecycle` is done. -/
  closed : Bool
  /-- The worker has returned. -/
  returned : Bool
deriving DecidableEq

/-- `startInactivityMonitor` at time `now`. -/
def Monitor.start (now timeout : Nat) : Monitor :=
  ⟨now, timeout, false, now, some (now + timeout), false, false⟩

/-- What happens next. -/
inductive MonitorLabel
  /-- The clock advances by `d`. -/
  | tick (d : Nat)
  /-- `mMarkActive`: a send on `activityCh` that does not block. -/
  | mark
  /-- `Shutdown`, from `/shutdown` or a signal. -/
  | shutdown
  /-- The worker receives a mark: `lastActive = time.Now()`, `shutdownTimer.Reset`. -/
  | activity
  /-- The worker receives the timer's fire and calls `Shutdown`. -/
  | idle
  /-- The worker sees the lifecycle done and returns. -/
  | stop
deriving DecidableEq

/-- One step; `none` when it cannot happen. -/
def monitorStep (m : Monitor) : MonitorLabel → Option Monitor
  | .tick d => some { m with now := m.now + d }
  | .mark => some { m with marked := true }
  | .shutdown => some { m with closed := true }
  | .activity =>
    if m.marked && !m.returned then
      some { m with marked := false, lastActive := m.now, deadline := some (m.now + m.timeout) }
    else none
  | .idle =>
    match m.deadline with
    | some deadline =>
      if deadline ≤ m.now && !m.returned then some { m with deadline := none, closed := true }
      else none
    | none => none
  | .stop => if m.closed && !m.returned then some { m with returned := true } else none

/-- The state after a schedule. -/
def monitorRun (m : Monitor) : List MonitorLabel → Option Monitor
  | [] => some m
  | l :: ls => (monitorStep m l).bind fun m' => monitorRun m' ls

/-! ## The monitor's invariant -/

/-- What holds of every reachable state. -/
structure MonitorInv (m : Monitor) : Prop where
  past : m.lastActive ≤ m.now
  /-- The timer runs from the last mark received. -/
  deadline : ∀ d, m.deadline = some d → d = m.lastActive + m.timeout
  /-- Only the fire, received, leaves no deadline, and it shut the server down. -/
  fired : m.deadline = none → m.closed = true

section
variable {m m' : Monitor}

theorem MonitorInv.start (now timeout : Nat) : MonitorInv (Monitor.start now timeout) where
  past := le_rfl
  deadline := fun _ set => (Option.some.inj set).symm
  fired := nofun

theorem MonitorInv.step {l : MonitorLabel} (inv : MonitorInv m) (h : monitorStep m l = some m') :
    MonitorInv m' := by
  cases l with
  | tick d => cases h; exact ⟨Nat.le_add_right_of_le inv.past, inv.deadline, inv.fired⟩
  | mark | shutdown => cases h; exact ⟨inv.past, inv.deadline, fun none => by simp_all [inv.fired]⟩
  | activity =>
    simp only [monitorStep] at h
    split at h <;> cases h
    exact ⟨le_rfl, fun _ set => (Option.some.inj set).symm, nofun⟩
  | idle =>
    simp only [monitorStep] at h
    split at h <;> try cases h
    split at h <;> cases h
    exact ⟨inv.past, nofun, fun _ => rfl⟩
  | stop =>
    simp only [monitorStep] at h
    split at h <;> cases h
    exact ⟨inv.past, inv.deadline, inv.fired⟩

theorem MonitorInv.run : ∀ {ls : List MonitorLabel} {m m' : Monitor}, MonitorInv m →
    monitorRun m ls = some m' → MonitorInv m'
  | [], _, _, inv, h => by cases h; exact inv
  | _ :: _, _, _, inv, h => by
    obtain ⟨_, step, rest⟩ := Option.bind_eq_some.mp h
    exact MonitorInv.run (inv.step step) rest

end

/-- The worker shuts the server down only once a whole `ShutdownAfterInactivity` has passed since
the last mark it received, or since it started. -/
theorem monitorRun_idle {now timeout : Nat} {ls : List MonitorLabel} {m m' : Monitor}
    (reach : monitorRun (Monitor.start now timeout) ls = some m)
    (idle : monitorStep m .idle = some m') : m.lastActive + m.timeout ≤ m.now := by
  have inv := (MonitorInv.start now timeout).run reach
  simp only [monitorStep] at idle
  split at idle
  case h_1 deadline set =>
    split at idle <;> cases idle
    rename_i due
    simp only [Bool.and_eq_true, decide_eq_true_eq] at due
    exact inv.deadline deadline set ▸ due.1
  case h_2 => cases idle

theorem monitorRun_idle_quiet :
    monitorRun (Monitor.start 0 600) [.tick 600] = some ⟨600, 600, false, 0, some 600, false, false⟩ ∧
    monitorStep ⟨600, 600, false, 0, some 600, false, false⟩ .idle =
      some ⟨600, 600, false, 0, none, true, false⟩ ∧
    0 + 600 ≤ 600 :=
  ⟨rfl, rfl, @monitorRun_idle 0 600 [.tick 600] _ _ rfl rfl⟩

/-- A request puts its mark just as the timer comes due, and the worker takes the fire. -/
def markedAtDeadline : List MonitorLabel := [.tick 600, .mark, .idle]

/- The last mark the worker received is not the last mark put: a request that put its mark as the
timer came due finds the server shutting down, its mark never received and the last activity still
the start. -/
example :
    ∃ m, monitorRun (Monitor.start 0 600) markedAtDeadline = some m ∧ m.marked = true ∧
      m.closed = true ∧ m.lastActive = 0 :=
  ⟨_, rfl, rfl, rfl, rfl⟩

/-- In every reachable state where the lifecycle is still open and no mark waits, letting the clock
reach the timer's deadline lets the worker shut the server down. -/
theorem monitorRun_shuts_down {now timeout : Nat} {ls : List MonitorLabel} {m : Monitor}
    (reach : monitorRun (Monitor.start now timeout) ls = some m) (isOpen : m.closed = false)
    (running : m.returned = false) :
    ∃ d m', m.deadline = some d ∧ monitorRun m [.tick (d - m.now), .idle] = some m' ∧
      m'.closed = true := by
  have inv := (MonitorInv.start now timeout).run reach
  cases set : m.deadline with
  | none => simp_all [inv.fired set]
  | some d =>
    refine ⟨d, { m with now := m.now + (d - m.now), deadline := none, closed := true }, rfl, ?_, rfl⟩
    have due : d ≤ m.now + (d - m.now) := by omega
    simp [monitorRun, monitorStep, set, running, due]

theorem monitorRun_shuts_down_start :
    monitorRun (Monitor.start 0 600) [] = some (Monitor.start 0 600) ∧
    (Monitor.start 0 600).closed = false ∧ (Monitor.start 0 600).returned = false ∧
    ∃ d m', (Monitor.start 0 600).deadline = some d ∧
      monitorRun (Monitor.start 0 600) [.tick (d - (Monitor.start 0 600).now), .idle] = some m' ∧
      m'.closed = true :=
  ⟨rfl, rfl, rfl, @monitorRun_shuts_down 0 600 [] _ rfl rfl rfl⟩

end Gscache
