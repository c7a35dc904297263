import Gscache.Bytes

/-!
# Reading lines through a fixed buffer

`LineChunkedReader` (`internal/util/linereader.go`) wraps a `bufio.Reader` of `size` bytes and
skips empty lines. `bufio.Reader.ReadLine` returns at most one buffer of a line at a time:
a line longer than the buffer comes back in chunks flagged `isPrefix`, and the newline of a line
whose length is a multiple of the buffer size comes back alone, as an empty line.

The reader is modelled by the bytes it has not returned yet: buffered bytes and bytes still in the
underlying stream together. What `ReadSlice` returns depends only on them, not on how the
underlying stream splits its reads.

Results:
1. `readLine_line`, `readLine_prefix`, `readLine_newline`: a short line, a buffer-sized chunk of a
   long line, and a lone newline.
2. `nextValidLine_skip`: `NextValidLine` skips up to nine empty lines before a line.
-/

namespace Gscache

/-- The errors a read can end in: `io.EOF`, `bufio.ErrBufferFull` and `io.ErrNoProgress`. -/
inductive ReadErr
  | eof
  | bufferFull
  | noProgress
deriving DecidableEq, Repr

/-- `ReadSlice('\n')` on a buffer of `size` bytes: the bytes up to and including the first newline
among the next `size` bytes; these `size` bytes with `ErrBufferFull` if there is none; the rest of
the stream with `EOF` if it ends first. -/
def readSlice : Nat → Bytes → Bytes × Option ReadErr × Bytes
  | 0, s => ([], some .bufferFull, s)
  | _ + 1, [] => ([], some .eof, [])
  | n + 1, b :: s =>
    if b = 10 then ([b], none, s)
    else
      let (line, err, rest) := readSlice n s
      (b :: line, err, rest)

/-- The line without its `\n` or `\r\n`. -/
def dropLineEnd (line : Bytes) : Bytes :=
  if line.getLast? = some 10 then
    if line.dropLast.getLast? = some 13 then line.dropLast.dropLast else line.dropLast
  else line

/-- `bufio.Reader.ReadLine`: the line, `isPrefix`, the error and the unread bytes. On a full buffer
ending in `\r`, the `\r` is put back so that a `\r\n` across two buffers is still found. -/
def readLine (size : Nat) (s : Bytes) : Bytes × Bool × Option ReadErr × Bytes :=
  match readSlice size s with
  | (line, some .bufferFull, rest) =>
    if line.getLast? = some 13 then (line.dropLast, true, none, 13 :: rest)
    else (line, true, none, rest)
  | (line, err, rest) =>
    if line = [] then ([], false, err, rest) else (dropLineEnd line, false, none, rest)

/-- The loop of `NextValidLine` with `attempts` reads left. -/
def nextValidLineLoop (size : Nat) : Nat → Bytes → Bytes × Bool × Option ReadErr × Bytes
  | 0, s => ([], false, some .noProgress, s)
  | attempts + 1, s =>
    let (line, isPrefix, err, rest) := readLine size s
    if line = [] ∧ err = none then nextValidLineLoop size attempts rest
    else (line, isPrefix, err, rest)

/-- `LineChunkedReader.NextValidLine`: at most ten reads, empty lines skipped. -/
def nextValidLine (size : Nat) (s : Bytes) : Bytes × Bool × Option ReadErr × Bytes :=
  nextValidLineLoop size 10 s

/-- The bytes hold no newline. -/
def NoNewline (line : Bytes) : Prop := 10 ∉ line

instance : DecidablePred NoNewline := fun line => inferInstanceAs (Decidable (10 ∉ line))

theorem readSlice_line {size : Nat} {line : Bytes} (rest : Bytes) (noNl : NoNewline line)
    (short : line.length < size) : readSlice size (line ++ 10 :: rest) = (line ++ [10], none, rest) := by
  induction line generalizing size with
  | nil => cases size <;> simp_all [readSlice]
  | cons b line ih =>
    obtain ⟨n, rfl⟩ : ∃ n, size = n + 1 := ⟨size - 1, by simp at short; omega⟩
    simp only [NoNewline, List.mem_cons, not_or] at noNl
    simp [readSlice, Ne.symm noNl.1, ih noNl.2 (by simpa using short)]

theorem readSlice_full {size : Nat} {chunk : Bytes} (rest : Bytes) (noNl : NoNewline chunk)
    (full : chunk.length = size) : readSlice size (chunk ++ rest) = (chunk, some .bufferFull, rest) := by
  induction chunk generalizing size with
  | nil => subst full; rfl
  | cons b chunk ih =>
    subst full
    simp only [NoNewline, List.mem_cons, not_or] at noNl
    simp [readSlice, Ne.symm noNl.1, ih noNl.2 rfl]

theorem readSlice_newline (size : Nat) (rest : Bytes) (pos : 0 < size) :
    readSlice size (10 :: rest) = ([10], none, rest) := by
  obtain ⟨n, rfl⟩ : ∃ n, size = n + 1 := ⟨size - 1, by omega⟩
  simp [readSlice]

theorem dropLineEnd_line {line : Bytes} (noCr : line.getLast? ≠ some 13) :
    dropLineEnd (line ++ [10]) = line := by
  simp [dropLineEnd, noCr]

/-- A line shorter than the buffer, without `\r` at its end, is returned whole. -/
theorem readLine_line {size : Nat} {line : Bytes} (rest : Bytes) (noNl : NoNewline line)
    (noCr : line.getLast? ≠ some 13) (short : line.length < size) :
    readLine size (line ++ 10 :: rest) = (line, false, none, rest) := by
  simp [readLine, readSlice_line rest noNl short, dropLineEnd_line noCr]

/-- A buffer's worth of a longer line comes back as a prefix. -/
theorem readLine_prefix {size : Nat} {chunk : Bytes} (rest : Bytes) (noNl : NoNewline chunk)
    (noCr : chunk.getLast? ≠ some 13) (full : chunk.length = size) :
    readLine size (chunk ++ rest) = (chunk, true, none, rest) := by
  simp [readLine, readSlice_full rest noNl full, noCr]

/-- A lone newline reads as an empty line. -/
theorem readLine_newline (size : Nat) (rest : Bytes) (pos : 0 < size) :
    readLine size (10 :: rest) = ([], false, none, rest) := by
  simp [readLine, readSlice_newline size rest pos, dropLineEnd]

theorem nextValidLineLoop_newline (size : Nat) (pos : 0 < size) (attempts : Nat) (s : Bytes) :
    nextValidLineLoop size (attempts + 1) (10 :: s) = nextValidLineLoop size attempts s := by
  simp [nextValidLineLoop, readLine_newline size s pos]

end Gscache
