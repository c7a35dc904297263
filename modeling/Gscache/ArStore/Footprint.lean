import Gscache.ArStore.Keyspaces

/-!
# What a step on one keyspace changes

Every step of the archive store is on one keyspace (`ArStoreWorld.labelKeyspace`). A step on
keyspace `k'` changes only calls on `k'`, and of those only the one that steps or the one it makes
(`StepOn`); so a step on a keyspace other than `k` keeps all of `k`: its slice, its calls and its
calls of the local store (`KeepsKeyspace`). With this, a call on `k` made when every other call
on `k` has returned can be followed over any interleaving: an invariant of the call that steps on
other keyspaces keep, and that its own steps and those of its `Put` keep, holds over the whole
run.

Results:
1. `arStoreStep_stepOn`: every step is a step on the keyspace of its label.
2. `StepOn.keeps`: a step on another keyspace keeps keyspace `k`.
3. `OnlyCallOn.run`: over any run that makes no call on `k`, the only call on `k` that has not
   returned keeps every invariant that those three kinds of step keep.
-/

namespace Gscache

/-! ## What a step on a keyspace changes -/

/-- `u'` is `u` after a step on keyspace `k'`: a call, or a call of the local store, that changed
is on `k'`, and was on `k'` before or has the next id; the counters have not gone back. -/
structure StepOn (k' : Bytes) (u u' : ArStoreWorld) : Prop where
  calls : ∀ j, u'.calls j = u.calls j ∨ ∃ c, u'.calls j = some c ∧ c.keyspace = k' ∧
    (j = u.next ∨ (u.calls j).map ArStoreCall.keyspace = some k')
  tasks : ∀ t, u'.store.tasks t = u.store.tasks t ∨ ∃ task, u'.store.tasks t = some task ∧
    task.keyspace = k' ∧ (t = u.store.next ∨ (u.store.tasks t).map ArTask.keyspace = some k')
  next : u.next ≤ u'.next
  storeNext : u.store.next ≤ u'.store.next

section StepOn

variable {newArReader : Bytes → Option ArReader} {k' : Bytes} {u u' : ArStoreWorld}

theorem ArTask.step_keyspace {s s' : ArLocalStore} {task task' : ArTask}
    (h : task.step newArReader s = some (s', task')) : task'.keyspace = task.keyspace := by
  cases task <;> obtain ⟨_, -, moved⟩ := Option.map_eq_some'.mp h <;> cases moved <;> rfl

/-- A step that changes neither the calls nor the local store. -/
theorem StepOn.frame (calls : u'.calls = u.calls) (store : u'.store = u.store) (next : u'.next = u.next) :
    StepOn k' u u' :=
  ⟨fun _ => .inl (congrFun calls _), fun _ => .inl (by rw [store]), next.ge, by rw [store]⟩

theorem StepOn.refl (u : ArStoreWorld) : StepOn k' u u := StepOn.frame rfl rfl rfl

theorem StepOn.recordSync (u : ArStoreWorld) (keyspace : Bytes) (now : Time) :
    StepOn k' u (u.recordSync keyspace now) :=
  StepOn.frame rfl rfl rfl

/-- Call `i`, on `k'`, moves to `c`. -/
theorem StepOn.setCall {i : Nat} {c : ArStoreCall} (stepped : StepOn k' u u')
    (found : (u.calls i).map ArStoreCall.keyspace = some k') (keyspace : c.keyspace = k') :
    StepOn k' u (u'.setCall i c) := by
  refine ⟨fun j => ?_, stepped.tasks, stepped.next, stepped.storeNext⟩
  by_cases here : j = i
  · subst here
    exact .inr ⟨c, Function.update_same _ _ _, keyspace, .inr found⟩
  · simp only [ArStoreWorld.setCall, Function.update_noteq here]
    exact stepped.calls j

/-- A call on `k'` makes a `Put` on `k'`. -/
theorem StepOn.localPut (u : ArStoreWorld) (stream : Bytes) (streamErr : Bool) (io : PutIO) :
    StepOn k' u (u.localCall (.put k' stream streamErr io)) := by
  refine ⟨fun _ => .inl rfl, fun t => ?_, le_refl _, Nat.le_succ _⟩
  by_cases here : t = u.store.next
  · subst here
    exact .inr ⟨_, Function.update_same _ _ _, rfl, .inl rfl⟩
  · exact .inl (Function.update_noteq here _ _)

/-- `LoadLocal` on `k'` is made. -/
theorem StepOn.localLoad (u : ArStoreWorld) (statOk openOk : Bool) :
    StepOn k' u (u.localCall (.loadLocal k' statOk openOk)) := by
  refine ⟨fun _ => .inl rfl, fun t => ?_, le_refl _, Nat.le_succ _⟩
  by_cases here : t = u.store.next
  · subst here
    exact .inr ⟨_, Function.update_same _ _ _, rfl, .inl rfl⟩
  · exact .inl (Function.update_noteq here _ _)

/-- A call `c` on `k'` is made. -/
theorem StepOn.spawn (u : ArStoreWorld) {c : ArStoreCall} (keyspace : c.keyspace = k') :
    StepOn k' u (u.spawn c) := by
  refine ⟨fun j => ?_, fun _ => .inl rfl, Nat.le_succ _, le_refl _⟩
  by_cases here : j = u.next
  · subst here
    exact .inr ⟨c, Function.update_same _ _ _, keyspace, .inl rfl⟩
  · exact .inl (Function.update_noteq here _ _)

theorem StepOn.upload (u : ArStoreWorld) (key : Bytes) (file : Option Bytes) :
    StepOn k' u { u with remote := Function.update u.remote key file } :=
  StepOn.frame rfl rfl rfl

theorem stepSync_stepOn {i : Nat} {ok : Bool} {now : Time} {streamErr : Bool} {io : PutIO}
    {pc : SyncPc} (found : (u.calls i).map ArStoreCall.keyspace = some k')
    (h : stepSync u i k' ok now streamErr io pc = some u') : StepOn k' u u' := by
  cases pc with
  | put child =>
    obtain ⟨r, -, rfl⟩ := Option.map_eq_some'.mp h
    split <;> exact (StepOn.refl u).setCall found rfl
  | record => cases h; exact (StepOn.recordSync u k' now).setCall found rfl
  | done => cases h
  | download =>
    simp only [stepSync] at h
    (repeat' split at h) <;> cases h
    · exact (StepOn.refl u).setCall found rfl
    · exact (StepOn.refl u).setCall found rfl
    · exact (StepOn.localPut u _ streamErr io).setCall found rfl
  | check => simp only [stepSync] at h; split at h <;> cases h <;> exact (StepOn.refl u).setCall found rfl

theorem stepIngest_stepOn {i : Nat} {file : Bytes} {ok : Bool} {now : Time} {streamErr : Bool}
    {io : PutIO} {pc : IngestPc} (found : (u.calls i).map ArStoreCall.keyspace = some k')
    (h : stepIngest u i k' file ok now streamErr io pc = some u') : StepOn k' u u' := by
  cases pc with
  | openFile =>
    simp only [stepIngest] at h
    split at h <;> cases h
    · exact (StepOn.refl u).setCall found rfl
    · exact (StepOn.localPut u _ streamErr io).setCall found rfl
  | put child =>
    obtain ⟨r, -, rfl⟩ := Option.map_eq_some'.mp h
    split <;> exact (StepOn.refl u).setCall found rfl
  | upload =>
    simp only [stepIngest] at h
    split at h <;> cases h
    · exact (StepOn.refl u).setCall found rfl
    · exact (StepOn.upload u _ _).setCall found rfl
  | record => cases h; exact (StepOn.recordSync u k' now).setCall found rfl
  | done => cases h

theorem arStep_stepOn {t : Nat} {store : ArWorld}
    (found : (u.store.tasks t).map ArTask.keyspace = some k')
    (h : arStep newArReader u.store (.run t) = some store) : StepOn k' u { u with store } := by
  obtain ⟨task, present, stepped⟩ := Option.map_eq_some'.mp h
  split at stepped
  · cases stepped; exact StepOn.refl u
  · rename_i s task' moved
    cases stepped
    refine ⟨fun _ => .inl rfl, fun t' => ?_, le_refl _, le_refl _⟩
    by_cases here : t' = t
    · subst here
      exact .inr ⟨task', Function.update_same _ _ _,
        (ArTask.step_keyspace moved).trans (by simpa [present] using found), .inr found⟩
    · exact .inl (Function.update_noteq here _ _)

/-- Every step is a step on the keyspace of its label. -/
theorem arStoreStep_stepOn {l : ArStoreLabel} (h : arStoreStep newArReader u l = some u')
    (labelled : u.labelKeyspace l = some k') : StepOn k' u u' := by
  cases l with
  | sync keyspace =>
    cases h; cases labelled; exact StepOn.spawn u rfl
  | ingest keyspace file =>
    cases h; cases labelled; exact StepOn.spawn u rfl
  | loadLocal keyspace statOk openOk =>
    cases h; cases labelled; exact StepOn.localLoad u statOk openOk
  | runLocal t =>
    obtain ⟨store, stepped, rfl⟩ := Option.map_eq_some'.mp h
    exact arStep_stepOn labelled stepped
  | run i ok now streamErr io =>
    simp only [arStoreStep] at h
    split at h
    all_goals simp only [ArStoreWorld.labelKeyspace, *, Option.map_some', ArStoreCall.keyspace,
      Option.some.injEq] at labelled
    · subst labelled
      exact stepSync_stepOn (by simp [*, ArStoreCall.keyspace]) h
    · subst labelled
      exact stepIngest_stepOn (by simp [*, ArStoreCall.keyspace]) h
    · cases h

end StepOn

/-- What a step keeps of keyspace `k`: its slice, its calls and its calls of the local store below
the counters, no new call on it, and counters that have not gone back. -/
structure KeepsKeyspace (k : Bytes) (u u' : ArStoreWorld) : Prop where
  slice : u'.slice k = u.slice k
  callKept : ∀ j c, j < u.next → u.calls j = some c → c.keyspace = k → u'.calls j = some c
  callBack : ∀ j c, u'.calls j = some c → c.keyspace = k → u.calls j = some c
  taskKept : ∀ t task, t < u.store.next → u.store.tasks t = some task → task.keyspace = k →
    u'.store.tasks t = some task
  taskBack : ∀ t task, u'.store.tasks t = some task → task.keyspace = k → u.store.tasks t = some task
  next : u.next ≤ u'.next
  storeNext : u.store.next ≤ u'.store.next

/-- A step on another keyspace keeps keyspace `k`. -/
theorem StepOn.keeps {k k' : Bytes} {u u' : ArStoreWorld} (stepped : StepOn k' u u') (other : k' ≠ k)
    (slice : u'.slice k = u.slice k) : KeepsKeyspace k u u' := by
  refine ⟨slice, fun j c below found keyspace => ?_, fun j c found keyspace => ?_,
    fun t task below found keyspace => ?_, fun t task found keyspace => ?_, stepped.next,
    stepped.storeNext⟩
  · rcases stepped.calls j with same | ⟨c', -, keyspace', fresh | was⟩
    · exact same.trans found
    · exact absurd fresh (Nat.ne_of_lt below)
    · simp only [found, Option.map_some', Option.some.injEq] at was
      exact absurd (was.symm.trans keyspace) other
  · rcases stepped.calls j with same | ⟨c', found', keyspace', -⟩
    · exact same ▸ found
    · cases found.symm.trans found'
      exact absurd (keyspace'.symm.trans keyspace) other
  · rcases stepped.tasks t with same | ⟨task', -, keyspace', fresh | was⟩
    · exact same.trans found
    · exact absurd fresh (Nat.ne_of_lt below)
    · simp only [found, Option.map_some', Option.some.injEq] at was
      exact absurd (was.symm.trans keyspace) other
  · rcases stepped.tasks t with same | ⟨task', found', keyspace', -⟩
    · exact same ▸ found
    · cases found.symm.trans found'
      exact absurd (keyspace'.symm.trans keyspace) other

/-! ## One call among calls on other keyspaces -/

/-- A call of the local store has returned. -/
def ArTask.Returned : ArTask → Prop
  | .put _ _ _ _ _ (.done _) | .loadLocal _ _ _ (.done _) => True
  | _ => False

/-- A call of the archive store has returned. -/
def ArStoreCall.Returned : ArStoreCall → Prop
  | .sync _ (.done _) | .ingest _ _ (.done _) => True
  | _ => False

/-- The only call of the local store on `k` that has not returned is the one at `child`, below the
counter. -/
def OnlyTaskOn (k : Bytes) (child : Nat) (u : ArStoreWorld) : Prop :=
  child < u.store.next ∧
    ∀ t task, u.store.tasks t = some task → task.keyspace = k → t = child ∨ task.Returned

/-- Every call of the local store on `k` has returned. -/
def ReturnedOn (k : Bytes) (u : ArStoreWorld) : Prop :=
  ∀ t task, u.store.tasks t = some task → task.keyspace = k → task.Returned

theorem arStep_returned {newArReader : Bytes → Option ArReader} {w : ArWorld} {t : Nat} {task : ArTask}
    (found : w.tasks t = some task) (returned : task.Returned) : arStep newArReader w (.run t) = some w := by
  simp only [arStep, found, Option.map_some']
  cases task with
  | put keyspace stream streamErr io uniqueId pc =>
    cases pc <;> first | rfl | cases returned
  | loadLocal keyspace statOk openOk pc =>
    cases pc <;> first | rfl | cases returned

/-- A call of the archive store that has returned takes no step. -/
theorem arStoreStep_returned {newArReader : Bytes → Option ArReader} {w : ArStoreWorld} {i : Nat}
    {c : ArStoreCall} (found : w.calls i = some c) (returned : c.Returned) (ok : Bool) (now : Time)
    (streamErr : Bool) (io : PutIO) : arStoreStep newArReader w (.run i ok now streamErr io) = none := by
  cases c with
  | sync keyspace pc => cases pc <;> simp_all [ArStoreCall.Returned, arStoreStep, stepSync]
  | ingest keyspace file pc => cases pc <;> simp_all [ArStoreCall.Returned, arStoreStep, stepIngest]

section Tasks

variable {k : Bytes} {u u' : ArStoreWorld}

theorem ArStoreWorld.readers_of_slice (same : u'.slice k = u.slice k) :
    u'.store.store.readers k = u.store.store.readers k :=
  congrArg (fun slice => slice.1.2.2) same

theorem ArStoreWorld.remote_of_slice (same : u'.slice k = u.slice k) :
    u'.remote (archiveKey k) = u.remote (archiveKey k) :=
  congrArg (fun slice => slice.2.1) same

theorem ArStoreWorld.lastSyncAt_of_slice (same : u'.slice k = u.slice k) :
    u'.lastSyncAt k = u.lastSyncAt k :=
  congrArg (fun slice => slice.2.2) same

theorem KeepsKeyspace.readers (keeps : KeepsKeyspace k u u') :
    u'.store.store.readers k = u.store.store.readers k :=
  ArStoreWorld.readers_of_slice keeps.slice

theorem KeepsKeyspace.remote (keeps : KeepsKeyspace k u u') :
    u'.remote (archiveKey k) = u.remote (archiveKey k) :=
  ArStoreWorld.remote_of_slice keeps.slice

theorem KeepsKeyspace.storeSlice (keeps : KeepsKeyspace k u u') :
    u'.store.store.slice k = u.store.store.slice k :=
  congrArg (fun slice => slice.1) keeps.slice

theorem OnlyTaskOn.keep {child : Nat} (only : OnlyTaskOn k child u) (keeps : KeepsKeyspace k u u') :
    OnlyTaskOn k child u' :=
  ⟨Nat.lt_of_lt_of_le only.1 keeps.storeNext, fun t task found keyspace =>
    only.2 t task (keeps.taskBack t task found keyspace) keyspace⟩

theorem ReturnedOn.keep (returned : ReturnedOn k u) (keeps : KeepsKeyspace k u u') : ReturnedOn k u' :=
  fun t task found keyspace => returned t task (keeps.taskBack t task found keyspace) keyspace

/-- A `Put` on `k` made when every call of the local store on `k` has returned is the only one
that has not. -/
theorem ReturnedOn.localPut (returned : ReturnedOn k u) (stream : Bytes) (streamErr : Bool)
    (io : PutIO) : OnlyTaskOn k u.store.next (u.localCall (.put k stream streamErr io)) := by
  refine ⟨Nat.lt_succ_self _, fun t task present keyspace => ?_⟩
  by_cases here : t = u.store.next
  · exact .inl here
  · simp only [ArStoreWorld.localCall, ArWorld.spawn, Function.update_noteq here] at present
    exact .inr (returned t task present keyspace)

/-- Once the only call of the local store on `k` that had not returned has, every call on `k`
has. -/
theorem OnlyTaskOn.returned {child : Nat} {task : ArTask} (only : OnlyTaskOn k child u)
    (found : u.store.tasks child = some task) (returned : task.Returned) : ReturnedOn k u :=
  fun t task' present keyspace => by
    rcases only.2 t task' present keyspace with rfl | done
    · cases found.symm.trans present
      exact returned
    · exact done

/-- A step that changes only the call `child` of the local store keeps it the only one on `k`. -/
theorem OnlyTaskOn.frame {child : Nat} {store : ArWorld} (only : OnlyTaskOn k child u)
    (others : ∀ t, t ≠ child → store.tasks t = u.store.tasks t) (next : store.next = u.store.next) :
    OnlyTaskOn k child { u with store } :=
  ⟨next ▸ only.1, fun t task present keyspace => by
    by_cases here : t = child
    · exact .inl here
    · exact only.2 t task ((others t here).symm.trans present) keyspace⟩

end Tasks

/-- Whether a label makes a call on `k`. -/
def ArStoreLabel.makesCallOn (k : Bytes) : ArStoreLabel → Bool
  | .sync keyspace | .ingest keyspace _ | .loadLocal keyspace _ _ => decide (keyspace = k)
  | .runLocal _ | .run .. => false

theorem arStoreStep_labelKeyspace {newArReader : Bytes → Option ArReader} {u u' : ArStoreWorld}
    {l : ArStoreLabel} (h : arStoreStep newArReader u l = some u') : ∃ k', u.labelKeyspace l = some k' := by
  cases l with
  | sync keyspace | ingest keyspace | loadLocal keyspace => exact ⟨keyspace, rfl⟩
  | runLocal t =>
    obtain ⟨store, stepped, -⟩ := Option.map_eq_some'.mp h
    obtain ⟨task, found, -⟩ := Option.map_eq_some'.mp stepped
    exact ⟨task.keyspace, by simp [ArStoreWorld.labelKeyspace, found]⟩
  | run i =>
    cases found : u.calls i with
    | none => simp [arStoreStep, found] at h
    | some c => exact ⟨c.keyspace, by simp [ArStoreWorld.labelKeyspace, found]⟩

/-- Call `i` is the only call on keyspace `k` in `u` that has not returned, and `inv` holds of
it. -/
structure OnlyCallOn (k : Bytes) (i : Nat) (inv : ArStoreCall → ArStoreWorld → Prop)
    (u : ArStoreWorld) : Prop where
  below : i < u.next
  only : ∀ j c, u.calls j = some c → c.keyspace = k → j = i ∨ c.Returned
  call : ∃ c, u.calls i = some c ∧ c.keyspace = k ∧ inv c u

section OnlyCall

variable {newArReader : Bytes → Option ArReader} {k : Bytes} {i : Nat}
  {inv : ArStoreCall → ArStoreWorld → Prop}
  (keep : ∀ c u u', inv c u → KeepsKeyspace k u u' → inv c u')
  (own : ∀ c u u' ok now streamErr io, inv c u → u.calls i = some c →
    arStoreStep newArReader u (.run i ok now streamErr io) = some u' →
    ∃ c', u'.calls = Function.update u.calls i (some c') ∧ c'.keyspace = k ∧ u'.next = u.next ∧
      inv c' u')
  (taskStep : ∀ c u t store, inv c u → u.calls i = some c →
    (u.store.tasks t).map ArTask.keyspace = some k →
    arStep newArReader u.store (.run t) = some store → inv c { u with store })

/-- A call on `k` made when every call on `k` has returned is the only one that has not. -/
theorem OnlyCallOn.spawn {w : ArStoreWorld} {c : ArStoreCall}
    (quiet : ∀ j c, w.calls j = some c → c.keyspace = k → c.Returned) (keyspace : c.keyspace = k)
    (holds : inv c (w.spawn c)) : OnlyCallOn k w.next inv (w.spawn c) := by
  refine ⟨Nat.lt_succ_self _, fun j c' present keyspace' => ?_, c, Function.update_same _ _ _,
    keyspace, holds⟩
  by_cases here : j = w.next
  · exact .inl here
  · simp only [ArStoreWorld.spawn, Function.update_noteq here] at present
    exact .inr (quiet j c' present keyspace')

include keep own taskStep in
/-- A step that makes no call on `k` keeps `OnlyCallOn`, given that `inv` is kept by steps on other
keyspaces, by the call's own steps and by the steps of the local store's calls on `k`. -/
theorem OnlyCallOn.step {u u' : ArStoreWorld} (only : OnlyCallOn k i inv u) {l : ArStoreLabel}
    (h : arStoreStep newArReader u l = some u') (alone : l.makesCallOn k = false) :
    OnlyCallOn k i inv u' := by
  obtain ⟨c, found, keyspace, holds⟩ := only.call
  obtain ⟨k', labelled⟩ := arStoreStep_labelKeyspace h
  by_cases same : k' = k
  · subst same
    cases l with
    | sync keyspace | ingest keyspace | loadLocal keyspace =>
      cases labelled
      simp [ArStoreLabel.makesCallOn] at alone
    | run j ok now streamErr io =>
      obtain ⟨c', present, keyspace'⟩ : ∃ c', u.calls j = some c' ∧ c'.keyspace = k' := by
        simp only [ArStoreWorld.labelKeyspace, Option.map_eq_some'] at labelled
        exact labelled
      rcases (only.only j c' present keyspace').imp_left Eq.symm with rfl | returned
      · obtain ⟨c'', calls, keyspace'', next, holds'⟩ := own c u u' ok now streamErr io holds found h
        refine ⟨next ▸ only.below, fun j c present keyspace => ?_, c'', by rw [calls,
          Function.update_same], keyspace'', holds'⟩
        by_cases here : j = i
        · exact .inl here
        · rw [calls, Function.update_noteq here] at present
          exact only.only j c present keyspace
      · cases (arStoreStep_returned present returned ok now streamErr io).symm.trans h
    | runLocal t =>
      obtain ⟨store, stepped, rfl⟩ := Option.map_eq_some'.mp h
      exact ⟨only.below, only.only, c, found, keyspace, taskStep c u t store holds found labelled stepped⟩
  · have keeps := (arStoreStep_stepOn h labelled).keeps same
      (arStoreStep_slice h (by rw [labelled]; exact fun equal => same (Option.some.inj equal)))
    exact ⟨Nat.lt_of_lt_of_le only.below keeps.next, fun j c present keyspace =>
      only.only j c (keeps.callBack j c present keyspace) keyspace, c,
      keeps.callKept i c only.below found keyspace, keyspace, keep c u u' holds keeps⟩

include keep own taskStep in
theorem OnlyCallOn.run : ∀ {ls : List ArStoreLabel} {u u' : ArStoreWorld}, OnlyCallOn k i inv u →
    arStoreRun newArReader u ls = some u' → ls.all (fun l => !l.makesCallOn k) = true →
    OnlyCallOn k i inv u'
  | [], _, _, only, ran, _ => by cases ran; exact only
  | _ :: _, _, _, only, ran, alone => by
    obtain ⟨_, stepped, rest⟩ := Option.bind_eq_some.mp ran
    simp only [List.all_cons, Bool.and_eq_true, Bool.not_eq_true'] at alone
    exact OnlyCallOn.run (only.step keep own taskStep stepped alone.1) rest alone.2

end OnlyCall

end Gscache
