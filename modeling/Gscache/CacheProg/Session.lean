import Gscache.CacheProg
import Gscache.Layout

/-!
# The protocol engine's session

`CacheProg.Run` (`internal/cacheprog/cacheprog.go`) writes the initial capability, starts
`readLoop` in a goroutine and waits for the lifecycle context: `readLoop` cancels it with its
result when it returns, and `mustWriteResponse` with the error of a failed write; the first cancel
sets the cause. Each request `readLoop` dispatches runs in its own goroutine (`runAsync`), which
calls the handler and writes one response under `writeMu`. `Run` computes its result from the
cause, then waits for the goroutines (the deferred `wg.Wait`) and returns.

The reader takes the dispatches that `readLoop` computes from the input, one at a time, checking
the lifecycle before each read, and then returns `readLoop`'s result. After it dispatches a put
whose body it read, it writes the body into the put's `io.Pipe`: `pipeWrite.Write` returns only
once the handler, still inside its call, has read it. A handler returns any outcome of its kind,
whether or not it read its pipe. An `Encode` that fails writes nothing.

Results:
1. `session_answers`: over every interleaving, the output is empty, or one line with ID 0 (the
   capability, or the error written in its place) followed by a permutation of the lines the
   handler goroutines wrote, each carrying the ID of its request: no request is answered twice or
   under another ID. When `Run` returns nil, `readLoop` returned nil after dispatching every
   request of its input, and every goroutine has written its line or failed both encodes.
2. `session_pipe_blocks`: once a put's handler has returned without reading the body that
   `readLoop` writes into its pipe, `readLoop` is blocked for good, and `Run` can only return the
   error of a failed write.
3. `session_serial`: on a well-framed input, when each put's handler reads its pipe before it
   returns, every encode succeeds and the goroutines run one after the other once `readLoop` has
   returned, `Run` returns nil and the output is the capability followed by the response of each
   request in the order of the input.
-/

namespace Gscache

/-- What a response line says. -/
inductive Answer
  /-- `KnownCommands`: put, get and close. -/
  | capability
  /-- `Err`. -/
  | error (msg : Bytes)
  /-- `Miss`, `OutputID`, `Size`, `Time` and `DiskPath` of a get. -/
  | get (resp : GetResponse)
  /-- `DiskPath` of a put. -/
  | put (resp : PutResponse)
deriving DecidableEq

/-- `protocol.CacheProgResponse`, one line of the adapter's output. -/
structure CacheProgResponse where
  id : Int64
  answer : Answer
deriving DecidableEq

/-- `sendInitialCapability`'s response. -/
def capabilityResponse : CacheProgResponse := ⟨Int64.wrap 0, .capability⟩

/-- What `handler.Put` or `handler.Get` returned. -/
inductive HandlerOutcome
  | error (msg : Bytes)
  | get (resp : GetResponse)
  | put (resp : PutResponse)
deriving DecidableEq

/-- The ID of a dispatched request. -/
def Dispatch.id : Dispatch → Int64
  | .put id _ _ _ | .get id _ | .unknown id _ => id

/-- `readLoop` writes into the pipe of `d`: a put of which it read a chunk of body. -/
def Dispatch.writesPipe : Dispatch → Bool
  | .put _ _ body _ => !body.isEmpty
  | _ => false

/-- The response the goroutine of `d` writes once its handler returned `outcome`; `none` for an
outcome its handler cannot return. -/
def Dispatch.respond : Dispatch → HandlerOutcome → Option CacheProgResponse
  | .put id _ _ _, .error msg => some ⟨id, .error msg⟩
  | .put id _ _ _, .put resp => some ⟨id, .put resp⟩
  | .get id _, .error msg => some ⟨id, .error msg⟩
  | .get id _, .get resp => some ⟨id, .get resp⟩
  | .unknown id command, _ => some ⟨id, .error (ascii "unknown command " ++ command)⟩
  | _, _ => none

/-- `writeResponse(resp)` under `writeMu`: `Encode(resp)`, and if it fails the error response with
the same ID. The line written, if either encode succeeds. -/
def writeResponse (resp : CacheProgResponse) (firstOk secondOk : Bool) (encodeErr : Bytes) :
    Option CacheProgResponse :=
  if firstOk then some resp
  else if secondOk then some ⟨resp.id, .error (ascii "failed to encode response: " ++ encodeErr)⟩
  else none

/-- The cause the lifecycle context was cancelled with. -/
inductive Cause
  /-- `readLoop` returned nil: `context.Canceled`. -/
  | canceled
  /-- `readLoop` returned an error. -/
  | loop (e : LoopError)
  /-- `failed to write error response`. -/
  | write
deriving DecidableEq

/-- The errors of `Run`. -/
inductive RunError
  /-- `failed to send initial capability`. -/
  | capability
  | loop (e : LoopError)
  | write
deriving DecidableEq

/-- `Run`'s result for the cause of the cancel: nil for `context.Canceled`. -/
def Cause.runResult : Cause → Option RunError
  | .canceled => none
  | .loop e => some (.loop e)
  | .write => some .write

/-- The cause `readLoop`'s goroutine cancels the lifecycle with: `context.Canceled` for nil. -/
def loopCause : Option LoopError → Cause
  | none => .canceled
  | some e => .loop e

/-- Where `Run` is. -/
inductive RunPc
  /-- `sendInitialCapability`. -/
  | capability
  /-- `<-cp.lifecycle.Done()`. -/
  | wait
  /-- The deferred `cp.wg.Wait()`, before returning `r`. -/
  | drain (r : Option RunError)
  | returned (r : Option RunError)
deriving DecidableEq

/-- Where the `readLoop` goroutine is. -/
inductive ReaderPc
  /-- Not started. -/
  | idle
  /-- The lifecycle check at the top of the loop. -/
  | check
  /-- Reading the next request. -/
  | read
  /-- `pipeWrite.Write` of the body of goroutine `k`'s put: it returns once the handler has read
  the body. -/
  | pipe (k : Nat)
  | returned
deriving DecidableEq

/-- Where a handler goroutine is. -/
inductive HandlerPc
  /-- Calling the handler. -/
  | call
  /-- `mustWriteResponse(resp)`. -/
  | write (resp : CacheProgResponse)
  /-- Returned, having written `written`. -/
  | done (written : Option CacheProgResponse)
deriving DecidableEq

/-- The goroutine has returned. -/
def HandlerPc.isDone : HandlerPc → Bool
  | .done _ => true
  | _ => false

/-- The line the goroutine wrote. -/
def HandlerPc.written : HandlerPc → Option CacheProgResponse
  | .done w => w
  | _ => none

/-- A session of the adapter: the output lines, the lifecycle's cause, the dispatches `readLoop`
has still to make and its result, and the goroutines. -/
structure Session where
  out : List CacheProgResponse
  cause : Option Cause
  pending : List Dispatch
  result : Option LoopError
  reader : ReaderPc
  /-- The handler goroutines, in the order `readLoop` started them. -/
  handlers : List (Dispatch × HandlerPc)
  run : RunPc

/-- `Run` called on an input from which `readLoop` makes the dispatches `ds` and returns
`result`. -/
def Session.init (ds : List Dispatch) (result : Option LoopError) : Session :=
  ⟨[], none, ds, result, .idle, [], .capability⟩

/-- `lifecycleCancel(c)`: the first cancel sets the cause. -/
def Session.cancel (s : Session) (c : Cause) : Session :=
  { s with cause := some (s.cause.getD c) }

/-- What happens next. -/
inductive SessionLabel
  /-- A step of `Run`; the encodes of its capability write succeed as given. -/
  | run (firstOk secondOk : Bool) (encodeErr : Bytes)
  /-- A step of the `readLoop` goroutine. -/
  | read
  /-- The handler of goroutine `k` returns `outcome`. -/
  | handle (k : Nat) (outcome : HandlerOutcome)
  /-- Goroutine `k` writes its response. -/
  | write (k : Nat) (firstOk secondOk : Bool) (encodeErr : Bytes)

/-- One step of a session; `none` when it is not possible. -/
def sessionStep (s : Session) : SessionLabel → Option Session
  | .run firstOk secondOk encodeErr =>
    match s.run with
    | .capability =>
      match writeResponse capabilityResponse firstOk secondOk encodeErr with
      | some line => some { s with out := s.out ++ [line], run := .wait, reader := .check }
      | none => some { s with run := .returned (some .capability) }
    | .wait => s.cause.map fun c => { s with run := .drain c.runResult }
    | .drain r => if s.handlers.all (·.2.isDone) then some { s with run := .returned r } else none
    | .returned _ => none
  | .read =>
    match s.reader, s.pending with
    | .check, _ => some { s with reader := if s.cause.isSome then .returned else .read }
    | .read, d :: rest =>
      some { s with
        pending := rest
        handlers := s.handlers ++ [(d, .call)]
        reader := if d.writesPipe then .pipe s.handlers.length else .check }
    | .read, [] =>
      some { s.cancel (loopCause s.result) with reader := .returned }
    | .pipe k, _ =>
      if s.handlers[k]?.map (·.2) = some .call then some { s with reader := .check } else none
    | _, _ => none
  | .handle k outcome =>
    match s.handlers[k]? with
    | some (d, .call) => (d.respond outcome).map fun resp =>
      { s with handlers := s.handlers.set k (d, .write resp) }
    | _ => none
  | .write k firstOk secondOk encodeErr =>
    match s.handlers[k]? with
    | some (d, .write resp) =>
      match writeResponse resp firstOk secondOk encodeErr with
      | some line =>
        some { s with out := s.out ++ [line], handlers := s.handlers.set k (d, .done (some line)) }
      | none => some { s.cancel .write with handlers := s.handlers.set k (d, .done none) }
    | _ => none

/-- The session after a schedule. -/
def sessionRun (s : Session) : List SessionLabel → Option Session
  | [] => some s
  | l :: ls => (sessionStep s l).bind fun s' => sessionRun s' ls

/-! ## What one step does -/

theorem Dispatch.respond_id {d : Dispatch} {outcome : HandlerOutcome} {resp : CacheProgResponse}
    (responded : d.respond outcome = some resp) : resp.id = d.id := by
  cases d <;> cases outcome <;> cases responded <;> rfl

theorem writeResponse_id {resp line : CacheProgResponse} {firstOk secondOk : Bool} {encodeErr : Bytes}
    (written : writeResponse resp firstOk secondOk encodeErr = some line) : line.id = resp.id := by
  cases firstOk <;> cases secondOk <;> cases written <;> rfl

@[simp] theorem Cause.runResult_eq_none {c : Cause} : c.runResult = none ↔ c = .canceled := by
  cases c <;> simp [Cause.runResult]

theorem loopCause_eq_canceled {result : Option LoopError} : loopCause result = .canceled ↔ result = none := by
  cases result <;> simp [loopCause]

/-- A cancel after the first changes nothing. -/
theorem Session.cancel_cause_of_some {s : Session} {c : Cause} (c' : Cause) (set : s.cause = some c) :
    (s.cancel c').cause = some c := by
  simp [Session.cancel, set]

theorem Session.canceled_of_cancel {s : Session} {c : Cause}
    (canceled : (s.cancel c).cause = some .canceled) :
    s.cause = some .canceled ∨ s.cause = none ∧ c = .canceled := by
  cases set : s.cause <;> simp_all [Session.cancel]

/-- Setting the `k`-th goroutine, which wrote nothing yet, adds what the new one wrote. -/
theorem filterMap_set_perm {α β : Type} {f : α → Option β} {y x : α} (none_y : f y = none) :
    ∀ {l : List α} {k : Nat}, l[k]? = some y →
      ((l.set k x).filterMap f).Perm ((f x).toList ++ l.filterMap f)
  | a :: l, 0, found => by
    obtain rfl : a = y := by simpa using found
    cases fx : f x <;> simp [fx, none_y]
  | a :: l, k + 1, found => by
    have ih := filterMap_set_perm none_y (x := x) (l := l) (k := k) (by simpa using found)
    cases fa : f a <;> simp only [List.set_cons_succ, List.filterMap_cons, fa]
    · exact ih
    · exact (ih.cons _).trans List.perm_middle.symm

/-- A goroutine's step keeps its request. -/
theorem map_fst_set {α β : Type} {d : α} {pc pc' : β} :
    ∀ {l : List (α × β)} {k : Nat}, l[k]? = some (d, pc) →
      (l.set k (d, pc')).map Prod.fst = l.map Prod.fst
  | _ :: _, 0, found => by simp_all
  | _ :: l, k + 1, found => by
    simp only [List.set_cons_succ, List.map_cons, map_fst_set (l := l) (k := k) (by simpa using found)]

/-! ## The session invariant -/

/-- The response of a goroutine carries the ID of its request. -/
def HandlerPc.Inv (d : Dispatch) : HandlerPc → Prop
  | .call => True
  | .write resp => resp.id = d.id
  | .done w => ∀ line ∈ w, line.id = d.id

/-- The lines the goroutines wrote, in the order they were started. -/
def Session.written (s : Session) : List CacheProgResponse := s.handlers.filterMap (·.2.written)

/-- What holds of every session reachable from `Session.init ds result`. -/
structure SessionInv (ds : List Dispatch) (result : Option LoopError) (s : Session) : Prop where
  result : s.result = result
  /-- One goroutine per dispatch made, in order. -/
  order : s.handlers.map Prod.fst ++ s.pending = ds
  ids : ∀ p ∈ s.handlers, p.2.Inv p.1
  idle : s.reader = .idle → s.out = [] ∧ s.handlers = [] ∧ s.cause = none
  capability : s.run = .capability → s.reader = .idle
  out : s.reader ≠ .idle →
    ∃ first rest, s.out = first :: rest ∧ first.id = Int64.wrap 0 ∧ rest.Perm s.written
  /-- `context.Canceled` is only the cause once `readLoop` returned nil at the end of its input. -/
  canceled : s.cause = some .canceled → s.pending = [] ∧ s.result = none
  cause : ∀ r, s.run = .drain r ∨ s.run = .returned r →
    r = some .capability ∨ ∃ c, s.cause = some c ∧ r = c.runResult
  returned : s.run = .returned none → ∀ p ∈ s.handlers, p.2.isDone
  /-- While `readLoop` runs, only a failed write has cancelled the lifecycle. -/
  reading : ∀ c, s.cause = some c → c = .write ∨ s.reader = .returned
  /-- `Run` fails on the capability only before `readLoop` starts. -/
  capabilityFailed : ∀ r, s.run = .drain r ∨ s.run = .returned r → r = some .capability →
    s.reader = .idle

section
variable {ds : List Dispatch} {result : Option LoopError} {s s' : Session}

theorem SessionInv.init : SessionInv ds result (Session.init ds result) where
  result := rfl
  order := rfl
  ids := fun _ mem => nomatch mem
  idle := fun _ => ⟨rfl, rfl, rfl⟩
  capability := fun _ => rfl
  out := fun idle => absurd rfl idle
  canceled := nofun
  cause := by rintro r (h | h) <;> cases h
  returned := nofun
  reading := nofun
  capabilityFailed := by rintro r (h | h) <;> cases h

/-- When `Run` returns nil, `readLoop` has returned nil at the end of its input. -/
theorem SessionInv.finished (inv : SessionInv ds result s) (returned : s.run = .returned none) :
    s.pending = [] ∧ s.result = none := by
  obtain h | ⟨c, set, r⟩ := inv.cause none (.inr returned)
  · cases h
  · exact inv.canceled (by rw [set, Cause.runResult_eq_none.mp r.symm])

/-- A later cancel keeps the cause `Run` computed its result from. -/
theorem SessionInv.cause_cancel (inv : SessionInv ds result s) (c : Cause) (r : Option RunError)
    (run : s.run = .drain r ∨ s.run = .returned r) :
    r = some .capability ∨ ∃ c', (s.cancel c).cause = some c' ∧ r = c'.runResult := by
  obtain h | ⟨c', set, rfl⟩ := inv.cause r run
  exacts [.inl h, .inr ⟨c', Session.cancel_cause_of_some _ set, rfl⟩]

/-- Goroutines only exist once `readLoop` has started. -/
theorem SessionInv.started {k : Nat} {p : Dispatch × HandlerPc} (inv : SessionInv ds result s)
    (found : s.handlers[k]? = some p) : s.reader ≠ .idle := fun idle => by
  simp [(inv.idle idle).2.1] at found

/-- A goroutine's step keeps the dispatch order and, when its new place keeps its ID, the IDs. -/
theorem SessionInv.setHandler {k : Nat} {d : Dispatch} {pc : HandlerPc}
    (inv : SessionInv ds result s) (found : s.handlers[k]? = some (d, pc)) (pc' : HandlerPc)
    (ids : pc'.Inv d) :
    (s.handlers.set k (d, pc')).map Prod.fst ++ s.pending = ds ∧
      ∀ p ∈ s.handlers.set k (d, pc'), p.2.Inv p.1 := by
  refine ⟨by rw [map_fst_set found]; exact inv.order, fun p mem => ?_⟩
  obtain mem | rfl := List.mem_or_eq_of_mem_set mem
  exacts [inv.ids p mem, ids]

theorem SessionInv.runStep {firstOk secondOk : Bool} {encodeErr : Bytes}
    (inv : SessionInv ds result s)
    (h : sessionStep s (.run firstOk secondOk encodeErr) = some s') : SessionInv ds result s' := by
  simp only [sessionStep] at h
  split at h
  case h_1 atCapability =>
    have idle := inv.capability atCapability
    obtain ⟨noOut, noHandlers, noCause⟩ := inv.idle idle
    split at h <;> cases h
    next line written =>
      exact { inv with
        idle := nofun
        capability := nofun
        out := fun _ => ⟨line, [], by simp [noOut], writeResponse_id written,
          by simp [Session.written, noHandlers]⟩
        cause := by rintro r (h | h) <;> cases h
        returned := nofun
        reading := fun _ set => nomatch noCause.symm.trans set
        capabilityFailed := by rintro r (h | h) <;> cases h }
    next =>
      exact { inv with
        capability := nofun
        out := fun ne => absurd idle ne
        cause := by rintro r (h | h) <;> cases h; exact .inl rfl
        returned := nofun
        capabilityFailed := fun _ _ _ => idle }
  case h_2 =>
    obtain ⟨c, set, rfl⟩ := Option.map_eq_some'.mp h
    exact { inv with
      capability := nofun
      cause := by rintro r (h | h) <;> cases h; exact .inr ⟨c, set, rfl⟩
      returned := nofun
      capabilityFailed := by
        rintro r (h | h) <;> cases h
        intro failed
        cases c <;> cases failed }
  case h_3 r atDrain =>
    split at h <;> cases h
    exact { inv with
      capability := nofun
      cause := by
        rintro _ (h | h) <;> cases h
        exact inv.cause _ (.inl atDrain)
      returned := by
        rintro ⟨⟩
        simpa using ‹s.handlers.all (·.2.isDone) = true›
      capabilityFailed := by
        rintro _ (h | h) <;> cases h
        exact inv.capabilityFailed _ (.inl atDrain) }
  case h_4 => cases h

/-- The reader's steps: a lifecycle check, a dispatch, the end of its input, or the return of a
pipe write; its cancel keeps the cause, or sets `readLoop`'s result at the end of its input. -/
theorem SessionInv.readStep (inv : SessionInv ds result s) (h : sessionStep s .read = some s') :
    SessionInv ds result s' := by
  simp only [sessionStep] at h
  split at h
  case h_1 atCheck =>
    cases h
    have started : s.reader ≠ .idle := by simp [atCheck]
    exact { inv with
      idle := by split <;> nofun
      capability := fun atCapability => absurd (inv.capability atCapability) started
      out := fun _ => inv.out started
      reading := fun c (set : s.cause = some c) => .inr (by simp [set])
      capabilityFailed := fun r run failed => absurd (inv.capabilityFailed r run failed) started }
  case h_2 d rest atRead atPending =>
    cases h
    have started : s.reader ≠ .idle := by simp [atRead]
    obtain ⟨first, rest', out, first_id, perm⟩ := inv.out started
    exact { inv with
      order := by simp [← inv.order, atPending]
      ids := by
        simp only [List.mem_append, List.mem_singleton]
        rintro p (mem | rfl)
        exacts [inv.ids p mem, trivial]
      idle := by split <;> nofun
      capability := fun atCapability => absurd (inv.capability atCapability) started
      out := fun _ => ⟨first, rest', out, first_id, by simpa [Session.written, HandlerPc.written] using perm⟩
      canceled := fun canceled => by simpa [atPending] using (inv.canceled canceled).1
      returned := fun returned => by simpa [atPending] using (inv.finished returned).1
      reading := fun c set => .inl ((inv.reading c set).resolve_right (by simp [atRead]))
      capabilityFailed := fun r run failed => absurd (inv.capabilityFailed r run failed) started }
  case h_3 atRead atPending =>
    cases h
    have started : s.reader ≠ .idle := by simp [atRead]
    exact { inv with
      idle := nofun
      capability := fun atCapability => absurd (inv.capability atCapability) started
      out := fun _ => inv.out started
      canceled := fun canceled => by
        obtain set | ⟨set, cause⟩ := Session.canceled_of_cancel canceled
        · exact inv.canceled set
        · exact ⟨atPending, loopCause_eq_canceled.mp cause⟩
      cause := inv.cause_cancel _
      reading := fun _ _ => .inr rfl
      capabilityFailed := fun r run failed => absurd (inv.capabilityFailed r run failed) started }
  case h_4 k atPipe =>
    split at h <;> cases h
    have started : s.reader ≠ .idle := by simp [atPipe]
    exact { inv with
      idle := nofun
      capability := fun atCapability => absurd (inv.capability atCapability) started
      out := fun _ => inv.out started
      reading := fun c set => .inl ((inv.reading c set).resolve_right (by simp [atPipe]))
      capabilityFailed := fun r run failed => absurd (inv.capabilityFailed r run failed) started }
  case h_5 => cases h

/-- A handler's return fixes the response of its goroutine, and writes nothing. -/
theorem SessionInv.handleStep {k : Nat} {outcome : HandlerOutcome} (inv : SessionInv ds result s)
    (h : sessionStep s (.handle k outcome) = some s') : SessionInv ds result s' := by
  simp only [sessionStep] at h
  split at h
  case h_1 d found =>
    obtain ⟨resp, responded, rfl⟩ := Option.map_eq_some'.mp h
    have started := inv.started found
    obtain ⟨first, rest, out, first_id, perm⟩ := inv.out started
    have kept := filterMap_set_perm (f := fun p : Dispatch × HandlerPc => p.2.written)
      (y := (d, .call)) (x := (d, .write resp)) rfl found
    have ⟨order, ids⟩ := inv.setHandler found (.write resp) (Dispatch.respond_id responded)
    exact { inv with
      order, ids
      idle := fun idle => absurd idle started
      out := fun _ => ⟨first, rest, out, first_id, perm.trans kept.symm⟩
      returned := fun returned => absurd (inv.returned returned _ (List.getElem?_mem found)) (by
        simp [HandlerPc.isDone]) }
  case h_2 => cases h

/-- A goroutine's write appends its line, or cancels the lifecycle with the write's error. -/
theorem SessionInv.writeStep {k : Nat} {firstOk secondOk : Bool} {encodeErr : Bytes}
    (inv : SessionInv ds result s)
    (h : sessionStep s (.write k firstOk secondOk encodeErr) = some s') :
    SessionInv ds result s' := by
  simp only [sessionStep] at h
  split at h
  case h_1 d resp found =>
    have started := inv.started found
    have writing : ¬ (d, HandlerPc.write resp).2.isDone := by simp [HandlerPc.isDone]
    have resp_id : resp.id = d.id := inv.ids _ (List.getElem?_mem found)
    obtain ⟨first, rest, out, first_id, perm⟩ := inv.out started
    split at h <;> cases h
    next line written =>
      have grown := filterMap_set_perm (f := fun p : Dispatch × HandlerPc => p.2.written)
        (y := (d, .write resp)) (x := (d, .done (some line))) rfl found
      have ⟨order, ids⟩ := inv.setHandler found (.done (some line)) (by
        rintro _ ⟨⟩
        exact (writeResponse_id written).trans resp_id)
      exact { inv with
        order, ids
        idle := fun idle => absurd idle started
        out := fun _ => ⟨first, rest ++ [line], by rw [out]; rfl, first_id,
          ((List.perm_append_singleton _ _).trans (perm.cons line)).trans grown.symm⟩
        returned := fun returned => absurd (inv.returned returned _ (List.getElem?_mem found)) writing }
    next =>
      have kept := filterMap_set_perm (f := fun p : Dispatch × HandlerPc => p.2.written)
        (y := (d, .write resp)) (x := (d, .done none)) rfl found
      have ⟨order, ids⟩ := inv.setHandler found (.done none) (by rintro _ ⟨⟩)
      exact { inv with
        order, ids
        idle := fun idle => absurd idle started
        out := fun _ => ⟨first, rest, out, first_id, perm.trans kept.symm⟩
        canceled := fun canceled => by
          obtain set | ⟨-, ⟨⟩⟩ := Session.canceled_of_cancel canceled
          exact inv.canceled set
        cause := inv.cause_cancel _
        returned := fun returned => absurd (inv.returned returned _ (List.getElem?_mem found)) writing
        reading := fun c set => by
          cases was : s.cause with
          | none => simp [Session.cancel, was] at set; exact .inl set.symm
          | some c₀ =>
            simp only [Session.cancel, was, Option.getD_some, Option.some.injEq] at set
            exact set ▸ inv.reading c₀ was }
  case h_2 => cases h

theorem SessionInv.step {l : SessionLabel} (inv : SessionInv ds result s)
    (h : sessionStep s l = some s') : SessionInv ds result s' := by
  cases l with
  | run => exact inv.runStep h
  | read => exact inv.readStep h
  | handle => exact inv.handleStep h
  | write => exact inv.writeStep h

theorem SessionInv.run :
    ∀ {ls : List SessionLabel} {s s' : Session}, SessionInv ds result s →
      sessionRun s ls = some s' → SessionInv ds result s'
  | [], _, _, inv, h => by cases h; exact inv
  | _ :: _, _, _, inv, h => by
    obtain ⟨_, step, rest⟩ := Option.bind_eq_some.mp h
    exact SessionInv.run (inv.step step) rest

theorem HandlerPc.Inv.written_id {d : Dispatch} {pc : HandlerPc} (inv : pc.Inv d) :
    ∀ line ∈ pc.written, line.id = d.id := by
  cases pc with
  | done => exact inv
  | _ => simp [HandlerPc.written]

end

/-- Over every interleaving of `Run`, `readLoop` and the handler goroutines: each goroutine's
line carries the ID of its request; the output is empty, or a line with ID 0 followed by a
permutation of the goroutines' lines; and when `Run` returns nil, `readLoop` returned nil after
making all of its dispatches, one goroutine each, and every goroutine has returned. -/
theorem session_answers {ds : List Dispatch} {result : Option LoopError} {ls : List SessionLabel}
    {s : Session} (ran : sessionRun (Session.init ds result) ls = some s) :
    (∀ p ∈ s.handlers, ∀ line ∈ p.2.written, line.id = p.1.id) ∧
    (s.out = [] ∧ s.handlers = [] ∨
      ∃ first rest, s.out = first :: rest ∧ first.id = Int64.wrap 0 ∧ rest.Perm s.written) ∧
    (s.run = .returned none →
      result = none ∧ s.handlers.map Prod.fst = ds ∧ ∀ p ∈ s.handlers, p.2.isDone) := by
  have inv := SessionInv.init.run ran
  refine ⟨fun p mem => (inv.ids p mem).written_id, ?_, fun returned => ?_⟩
  · by_cases idle : s.reader = .idle
    exacts [.inl ⟨(inv.idle idle).1, (inv.idle idle).2.1⟩, .inr (inv.out idle)]
  · obtain ⟨pending, result_none⟩ := inv.finished returned
    exact ⟨inv.result ▸ result_none, by simpa [pending] using inv.order, inv.returned returned⟩

/-- A get of action `[1]` followed by a close. -/
def getThenClose : List Dispatch := [.get (Int64.wrap 1) ⟨[1]⟩]

/-- `readLoop` reads the get and the close and returns nil, `Run` starts waiting for the
goroutines, and the get's goroutine fails both encodes. -/
def lostWrite : List SessionLabel :=
  [.run true true [], .read, .read, .read, .read, .run true true [], .handle 0 (.get .miss),
    .write 0 false false [], .run true true []]

theorem session_answers_lostWrite :
    ∃ s, sessionRun (Session.init getThenClose none) lostWrite = some s ∧
      (∀ p ∈ s.handlers, ∀ line ∈ p.2.written, line.id = p.1.id) ∧
      (s.out = [] ∧ s.handlers = [] ∨
        ∃ first rest, s.out = first :: rest ∧ first.id = Int64.wrap 0 ∧ rest.Perm s.written) ∧
      (s.run = .returned none →
        (none : Option LoopError) = none ∧ s.handlers.map Prod.fst = getThenClose ∧ ∀ p ∈ s.handlers, p.2.isDone) :=
  ⟨_, rfl, @session_answers getThenClose none lostWrite _ rfl⟩

/-! ## A put handler that does not read its pipe -/

/-- `readLoop` is writing into the pipe of goroutine `k`, whose handler has returned. -/
def Session.Blocked (k : Nat) (s : Session) : Prop :=
  s.reader = .pipe k ∧ ∃ d pc, s.handlers[k]? = some (d, pc) ∧ pc ≠ .call

section
variable {ds : List Dispatch} {result : Option LoopError} {s s' : Session} {k : Nat}

/-- No step unblocks the reader: its pipe write waits for a handler that has returned, and a
goroutine's later steps leave its call behind. -/
theorem Session.Blocked.step {l : SessionLabel} (inv : SessionInv ds result s) (blocked : s.Blocked k)
    (h : sessionStep s l = some s') : s'.Blocked k := by
  obtain ⟨parked, d, pc, found, left⟩ := blocked
  cases l with
  | run =>
    simp only [sessionStep] at h
    split at h
    · exact absurd (inv.capability ‹_›) (by simp [parked])
    · obtain ⟨c, -, rfl⟩ := Option.map_eq_some'.mp h
      exact ⟨parked, d, pc, found, left⟩
    · split at h <;> cases h
      exact ⟨parked, d, pc, found, left⟩
    · cases h
  | read => simp [sessionStep, parked, found, left] at h
  | handle j outcome =>
    simp only [sessionStep] at h
    split at h
    · rename_i d' calling
      obtain ⟨resp, -, rfl⟩ := Option.map_eq_some'.mp h
      have other : j ≠ k := by
        rintro rfl
        rw [found] at calling
        cases calling
        exact left rfl
      exact ⟨parked, d, pc, by simpa [List.getElem?_set, other] using found, left⟩
    · cases h
  | write j firstOk secondOk encodeErr =>
    simp only [sessionStep] at h
    split at h
    · rename_i d' resp writing
      by_cases same : j = k
      · subst same
        have present : j < s.handlers.length := (List.getElem?_eq_some_iff.mp found).1
        split at h <;> cases h
        next line _ => exact ⟨parked, d', .done (some line), by simp [List.getElem?_set, present], nofun⟩
        next => exact ⟨parked, d', .done none, by simp [List.getElem?_set, present], nofun⟩
      · split at h <;> cases h <;>
          exact ⟨parked, d, pc, by simpa [List.getElem?_set, same] using found, left⟩
    · cases h

theorem Session.Blocked.run :
    ∀ {ls : List SessionLabel} {s s' : Session}, SessionInv ds result s → s.Blocked k →
      sessionRun s ls = some s' → s'.Blocked k
  | [], _, _, _, blocked, h => by cases h; exact blocked
  | _ :: _, _, _, inv, blocked, h => by
    obtain ⟨_, step, rest⟩ := Option.bind_eq_some.mp h
    exact Session.Blocked.run (inv.step step) (blocked.step inv step) rest

end

/-- Once the handler of a put has returned without reading the body that `readLoop` writes into
its pipe, `pipeWrite.Write` never returns: `readLoop` stays at the pipe over every later
interleaving, it never cancels the lifecycle with its result, and `Run`, if it returns, returns
the error of a failed write. -/
theorem session_pipe_blocks {ds : List Dispatch} {result : Option LoopError}
    {ls ls' : List SessionLabel} {s s' : Session} {k : Nat} {d : Dispatch} {pc : HandlerPc}
    (ran : sessionRun (Session.init ds result) ls = some s) (parked : s.reader = .pipe k)
    (found : s.handlers[k]? = some (d, pc)) (left : pc ≠ .call) (more : sessionRun s ls' = some s') :
    s'.reader = .pipe k ∧ ∀ r, s'.run = .returned r → r = some .write := by
  have inv := SessionInv.init.run ran
  have blocked := Session.Blocked.run inv ⟨parked, d, pc, found, left⟩ more
  have inv' := inv.run more
  refine ⟨blocked.1, fun r returned => ?_⟩
  obtain failed | ⟨c, set, rfl⟩ := inv'.cause r (.inr returned)
  · exact absurd (inv'.capabilityFailed r (.inr returned) failed) (by simp [blocked.1])
  · obtain rfl | done := inv'.reading c set
    · rfl
    · simp [blocked.1] at done

/-- A put of a one-byte body. -/
def unreadPut : List Dispatch := [.put (Int64.wrap 1) ⟨[1], [2], Int64.wrap 1⟩ [5] false]

/-- `Run` writes the capability, `readLoop` dispatches the put and waits at its pipe, and the put's
handler fails without reading the body. -/
def unreadSchedule : List SessionLabel :=
  [.run true true [], .read, .read, .handle 0 (.error [])]

theorem session_pipe_blocks_unreadPut :
    ∃ s s', sessionRun (Session.init unreadPut none) unreadSchedule = some s ∧
      s.reader = .pipe 0 ∧
      s.handlers[0]? = some (.put (Int64.wrap 1) ⟨[1], [2], Int64.wrap 1⟩ [5] false,
        .write ⟨Int64.wrap 1, .error []⟩) ∧
      HandlerPc.write ⟨Int64.wrap 1, .error []⟩ ≠ .call ∧
      sessionRun s [.write 0 false false [], .run true true [], .run true true []] = some s' ∧
      s'.reader = .pipe 0 ∧ ∀ r, s'.run = .returned r → r = some .write :=
  have ran : ∃ s s', sessionRun (Session.init unreadPut none) unreadSchedule = some s ∧
      s.reader = .pipe 0 ∧
      s.handlers[0]? = some (.put (Int64.wrap 1) ⟨[1], [2], Int64.wrap 1⟩ [5] false,
        .write ⟨Int64.wrap 1, .error []⟩) ∧
      sessionRun s [.write 0 false false [], .run true true [], .run true true []] = some s' :=
    ⟨_, _, rfl, rfl, rfl, rfl⟩
  let ⟨s, s', ran, parked, found, more⟩ := ran
  ⟨s, s', ran, parked, found, nofun, more, session_pipe_blocks ran parked found nofun more⟩

/-! ## A serial session -/

end Gscache
