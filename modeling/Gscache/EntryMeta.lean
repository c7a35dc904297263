import Gscache.Bytes
import Mathlib.Tactic.NormNum

/-!
# The EntryMeta codec

`EntryMeta` (`internal/cache/entrymeta.go`) is the binary header of every stored object:

    u32 lenA | u32 lenO | ActionID | OutputID | i64 Size | i64 TimeNanos

all little-endian. `WriteTo` writes it and `ReadEntryMeta` reads it back from a stream, taking
exactly the bytes of the header. A `time.Time` is stored as its `UnixNano()`, whose int64
arithmetic wraps for instants outside 1678..2262; the zero `Time{}` is such an instant, and a
stored value equal to its wrapped `UnixNano()` is read back as `Time{}`.

Results:
1. `length_writeTo`: `WriteTo` writes `SerializedSize` bytes.
2. `readEntryMeta_writeTo`: `ReadEntryMeta` reads back both IDs and the size, leaves the rest of
   the stream unread, and reads back the time when it is the zero `Time` or an instant whose
   `UnixNano` fits in an int64 and differs from the zero time's wrapped `UnixNano`.
3. `readEntryMeta_sentinel_instant`: the instant of 1754 whose `UnixNano` is that wrapped value
   is read back as the zero `Time`, so the exception in 2 is needed.
4. `readEntryMeta_canonical`: in the other direction there is no exception. Every header that
   `ReadEntryMeta` accepts took `SerializedSize` bytes, and `WriteTo` writes those bytes back.
-/

namespace Gscache

/-! ## Fixed-width integers -/

/-- Go's `int64`: an integer in `[-2^63, 2^63)`. -/
@[ext] structure Int64 where
  val : Int
  ge : -2 ^ 63 ≤ val
  lt : val < 2 ^ 63
deriving DecidableEq

/-- The `int64` that Go's two's-complement arithmetic leaves of `x`. -/
def Int64.wrap (x : Int) : Int64 where
  val := (x + 2 ^ 63) % 2 ^ 64 - 2 ^ 63
  ge := by have := Int.emod_nonneg (x + 2 ^ 63) (by norm_num : (2 : Int) ^ 64 ≠ 0); omega
  lt := by have := Int.emod_lt_of_pos (x + 2 ^ 63) (by norm_num : (0 : Int) < 2 ^ 64); omega

/-- `uint64(x)`: the bits of an `int64` read as an unsigned number. -/
def Int64.toUInt64 (x : Int64) : Nat := (x.val % 2 ^ 64).toNat

theorem Int64.wrap_of_mem {x : Int} (ge : -2 ^ 63 ≤ x) (lt : x < 2 ^ 63) :
    (Int64.wrap x).val = x := by
  simp only [Int64.wrap]
  rw [Int.emod_eq_of_lt (by omega) (by omega)]
  omega

theorem Int64.wrap_val (x : Int64) : Int64.wrap x.val = x :=
  Int64.ext (Int64.wrap_of_mem x.ge x.lt)

theorem Int64.wrap_emod (x : Int) : Int64.wrap (x % 2 ^ 64) = Int64.wrap x := by
  simp only [Int64.wrap, Int64.mk.injEq]
  rw [Int.add_emod, Int.emod_emod_of_dvd _ (dvd_refl _), ← Int.add_emod]

/-- `int64(uint64(x)) = x`. -/
theorem Int64.wrap_toUInt64 (x : Int64) : Int64.wrap x.toUInt64 = x := by
  have nonneg : 0 ≤ x.val % 2 ^ 64 := Int.emod_nonneg _ (by norm_num)
  rw [Int64.toUInt64, Int.toNat_of_nonneg nonneg, Int64.wrap_emod, Int64.wrap_val]

/-- `uint64(int64(n))` for a `uint64` value `n`. -/
theorem Int64.toUInt64_wrap {n : Nat} (h : n < 2 ^ 64) : (Int64.wrap n).toUInt64 = n := by
  simp only [Int64.toUInt64, Int64.wrap]
  have : ((n + 2 ^ 63 : Int) % 2 ^ 64 - 2 ^ 63) % 2 ^ 64 = n := by
    norm_num at h ⊢
    omega
  rw [this, Int.toNat_natCast]

theorem Int64.toUInt64_lt (x : Int64) : x.toUInt64 < 256 ^ 8 := by
  have := Int.emod_lt_of_pos x.val (by norm_num : (0 : Int) < 2 ^ 64)
  have := Int.emod_nonneg x.val (by norm_num : (2 : Int) ^ 64 ≠ 0)
  simp only [Int64.toUInt64]
  omega

/-! ## Time -/

/-- A `time.Time` as the instant it denotes, in nanoseconds from the Unix epoch. The location
and the monotonic reading are not modelled: `EntryMeta` stores neither. -/
structure Time where
  unixNanos : Int
deriving DecidableEq

/-- `time.Time{}`: January 1 of year 1, 00:00:00 UTC, which is 62135596800 s before the
epoch. -/
def Time.zero : Time := ⟨-62135596800 * 10 ^ 9⟩

/-- `t.UnixNano()`: the nanosecond count in int64 arithmetic, which wraps. -/
def Time.unixNano (t : Time) : Int64 := Int64.wrap t.unixNanos

/-- `time.Unix(0, nsec)`. -/
def Time.unix (nsec : Int64) : Time := ⟨nsec.val⟩

/-- The stored value of the zero time: an instant of 1754. -/
theorem Time.zero_unixNano : Time.zero.unixNano.val = -6795364578871345152 := by
  norm_num [Time.zero, Time.unixNano, Int64.wrap]

/-! ## The codec -/

structure EntryMeta where
  actionID : Bytes
  outputID : Bytes
  size : Int64
  time : Time
deriving DecidableEq

/-- `SerializedSize`: two lengths, the two IDs, the size and the time. -/
def EntryMeta.serializedSize (em : EntryMeta) : Nat :=
  4 + 4 + em.actionID.length + em.outputID.length + 8 + 8

/-- The buffer that `WriteTo` fills and writes. `uint32(len(...))` keeps the low 32 bits of
each length; the IDs themselves are copied whole. -/
def EntryMeta.writeTo (em : EntryMeta) : Bytes :=
  leBytes 4 em.actionID.length ++ leBytes 4 em.outputID.length ++ em.actionID ++ em.outputID ++
    leBytes 8 em.size.toUInt64 ++ leBytes 8 em.time.unixNano.toUInt64

/-- `io.ReadFull(r, buf)` with `len(buf) = n` on the stream `s`: the `n` bytes and the rest of
the stream, `EOF` when the stream is empty, `unexpected EOF` when it ends early. -/
def readFull (n : Nat) (s : Bytes) : Except String (Bytes × Bytes) :=
  if n ≤ s.length then .ok (s.take n, s.drop n)
  else if s = [] then .error "EOF" else .error "unexpected EOF"

/-- `ReadEntryMeta`: the header and the rest of the stream. -/
def readEntryMeta (s : Bytes) : Except String (EntryMeta × Bytes) := do
  let (lengthHeader, s) ← readFull 8 s
  let actionIDLen := leNat (lengthHeader.take 4)
  let outputIDLen := leNat (lengthHeader.drop 4)
  let (remainingBuf, s) ← readFull (actionIDLen + outputIDLen + 16) s
  let actionID := remainingBuf.take actionIDLen
  let outputID := (remainingBuf.drop actionIDLen).take outputIDLen
  let fixed := remainingBuf.drop (actionIDLen + outputIDLen)
  let size := Int64.wrap (leNat (fixed.take 8))
  let timeNano := Int64.wrap (leNat (fixed.drop 8))
  let time := if timeNano = Time.zero.unixNano then Time.zero else Time.unix timeNano
  pure (⟨actionID, outputID, size, time⟩, s)

@[simp] theorem length_writeTo (em : EntryMeta) : em.writeTo.length = em.serializedSize := by
  simp [EntryMeta.writeTo, EntryMeta.serializedSize]
  omega

theorem readFull_append {n : Nat} {head : Bytes} (rest : Bytes) (h : head.length = n) :
    readFull n (head ++ rest) = .ok (head, rest) := by
  simp [readFull, ← h, List.take_left', List.drop_left']

theorem leNat_leBytes_of_lt {k n : Nat} (h : n < 256 ^ k) : leNat (leBytes k n) = n := by
  rw [leNat_leBytes, Nat.mod_eq_of_lt h]

/-- The stored time reads back as the zero time or as the instant of its `UnixNano`. -/
def EntryMeta.readTime (t : Time) : Time :=
  if t.unixNano = Time.zero.unixNano then Time.zero else Time.unix t.unixNano

theorem readEntryMeta_writeTo_eq (em : EntryMeta) (rest : Bytes)
    (hA : em.actionID.length < 2 ^ 32) (hO : em.outputID.length < 2 ^ 32) :
    readEntryMeta (em.writeTo ++ rest) =
      .ok (⟨em.actionID, em.outputID, em.size, EntryMeta.readTime em.time⟩, rest) := by
  have sizeLt := Int64.toUInt64_lt em.size
  have timeLt := Int64.toUInt64_lt em.time.unixNano
  have lens : em.writeTo ++ rest =
      (leBytes 4 em.actionID.length ++ leBytes 4 em.outputID.length) ++
      ((em.actionID ++ em.outputID ++ leBytes 8 em.size.toUInt64 ++
        leBytes 8 em.time.unixNano.toUInt64) ++ rest) := by simp [EntryMeta.writeTo]
  have hA' : em.actionID.length < 256 ^ 4 := hA
  have hO' : em.outputID.length < 256 ^ 4 := hO
  rw [readEntryMeta, lens, readFull_append _ (by simp)]
  simp only [bind, Except.bind, List.take_left' (length_leBytes 4 _),
    List.drop_left' (length_leBytes 4 _), leNat_leBytes_of_lt hA', leNat_leBytes_of_lt hO']
  rw [readFull_append _ (by simp; omega)]
  have fixed : ∀ tail : Bytes, (em.actionID ++ (em.outputID ++ tail)).drop
      (em.actionID.length + em.outputID.length) = tail := fun tail => by
    rw [← List.append_assoc, List.drop_left' (by simp)]
  simp only [pure, Except.pure, fixed, List.append_assoc, List.take_left' rfl, List.drop_left' rfl,
    List.take_left' (length_leBytes 8 _), List.drop_left' (length_leBytes 8 _),
    leNat_leBytes_of_lt sizeLt, leNat_leBytes_of_lt timeLt, Int64.wrap_toUInt64]
  simp [EntryMeta.readTime]

theorem readTime_zero : EntryMeta.readTime Time.zero = Time.zero := by
  simp [EntryMeta.readTime]

theorem readTime_of_mem {t : Time} (ge : -2 ^ 63 ≤ t.unixNanos) (lt : t.unixNanos < 2 ^ 63)
    (ne : t.unixNanos ≠ Time.zero.unixNano.val) : EntryMeta.readTime t = t := by
  have val : t.unixNano.val = t.unixNanos := Int64.wrap_of_mem ge lt
  have differs : t.unixNano ≠ Time.zero.unixNano := fun same => ne (val ▸ congrArg Int64.val same)
  simp [EntryMeta.readTime, differs, Time.unix, val]

/-- The header round trip: `WriteTo` writes `SerializedSize = 24 + len(ActionID) + len(OutputID)`
bytes, and `ReadEntryMeta` on them followed by any `rest` gives back the IDs and the size, leaves
`rest` unread, and gives back the time when it is the zero time or an instant whose `UnixNano`
fits in an int64 and is not the zero time's stored value. -/
theorem readEntryMeta_writeTo (em : EntryMeta) (rest : Bytes)
    (hA : em.actionID.length < 2 ^ 32) (hO : em.outputID.length < 2 ^ 32) :
    em.writeTo.length = em.serializedSize ∧
    em.serializedSize = 24 + em.actionID.length + em.outputID.length ∧
    ∃ em', readEntryMeta (em.writeTo ++ rest) = .ok (em', rest) ∧
      em'.actionID = em.actionID ∧ em'.outputID = em.outputID ∧ em'.size = em.size ∧
      (em.time = Time.zero ∨ (-2 ^ 63 ≤ em.time.unixNanos ∧ em.time.unixNanos < 2 ^ 63 ∧
        em.time.unixNanos ≠ Time.zero.unixNano.val) → em'.time = em.time) := by
  refine ⟨length_writeTo em, by simp [EntryMeta.serializedSize]; omega, _,
    readEntryMeta_writeTo_eq em rest hA hO, rfl, rfl, rfl, ?_⟩
  rintro (zero | ⟨ge, lt, ne⟩)
  · rw [zero, readTime_zero]
  · exact readTime_of_mem ge lt ne

theorem readEntryMeta_writeTo_small :
    ([0xab] : Bytes).length < 2 ^ 32 ∧ ([0x10] : Bytes).length < 2 ^ 32 ∧
    ((⟨[0xab], [0x10], Int64.wrap 3, ⟨1640995200123456789⟩⟩ : EntryMeta).writeTo.length =
      EntryMeta.serializedSize ⟨[0xab], [0x10], Int64.wrap 3, ⟨1640995200123456789⟩⟩ ∧
    EntryMeta.serializedSize ⟨[0xab], [0x10], Int64.wrap 3, ⟨1640995200123456789⟩⟩ = 24 + 1 + 1 ∧
    ∃ em', readEntryMeta ((⟨[0xab], [0x10], Int64.wrap 3, ⟨1640995200123456789⟩⟩ :
        EntryMeta).writeTo ++ ascii "foo") = .ok (em', ascii "foo") ∧
      em'.actionID = [0xab] ∧ em'.outputID = [0x10] ∧ em'.size = Int64.wrap 3 ∧
      ((⟨1640995200123456789⟩ : Time) = Time.zero ∨ (-2 ^ 63 ≤ (1640995200123456789 : Int) ∧
        (1640995200123456789 : Int) < 2 ^ 63 ∧ (1640995200123456789 : Int) ≠ Time.zero.unixNano.val) →
        em'.time = ⟨1640995200123456789⟩)) :=
  ⟨by decide, by decide, readEntryMeta_writeTo _ _ (by decide) (by decide)⟩

/-- The instant of 1754 whose Unix nanosecond count is the zero time's stored value. -/
def sentinelInstant : Time := ⟨-6795364578871345152⟩

/-- A header whose time is the instant of 1754 whose `UnixNano` fits in an int64 and equals the
zero time's wrapped `UnixNano`: it reads back with the zero time. -/
theorem readEntryMeta_sentinel_instant :
    readEntryMeta (EntryMeta.writeTo ⟨[], [], Int64.wrap 0, sentinelInstant⟩) =
      .ok (⟨[], [], Int64.wrap 0, Time.zero⟩, []) ∧
    -2 ^ 63 ≤ sentinelInstant.unixNanos ∧ sentinelInstant.unixNanos < 2 ^ 63 ∧
    Time.zero ≠ sentinelInstant := by
  have read := readEntryMeta_writeTo_eq ⟨[], [], Int64.wrap 0, sentinelInstant⟩ [] (by decide)
    (by decide)
  have sentinel : EntryMeta.readTime sentinelInstant = Time.zero := by
    have same : sentinelInstant.unixNano = Time.zero.unixNano :=
      Int64.ext (by rw [Time.zero_unixNano]; rfl)
    simp [EntryMeta.readTime, same]
  rw [List.append_nil, sentinel] at read
  exact ⟨read, by decide, by decide, by decide⟩

/-! ## Canonical headers -/

theorem readFull_ok {n : Nat} {s head rest : Bytes} (h : readFull n s = .ok (head, rest)) :
    head.length = n ∧ s = head ++ rest := by
  unfold readFull at h
  split at h
  · cases h; exact ⟨by simpa, (List.take_append_drop n s).symm⟩
  · split at h <;> cases h

/-- An 8-byte field read as `int64(binary.LittleEndian.Uint64(...))` writes back as itself. -/
theorem leBytes_toUInt64_wrap {bs : Bytes} (len : bs.length = 8) :
    leBytes 8 (Int64.wrap (leNat bs)).toUInt64 = bs := by
  have fits := leNat_lt bs
  rw [len] at fits
  rw [Int64.toUInt64_wrap (by norm_num at fits ⊢; exact fits), leBytes_leNat len]

/-- The time `ReadEntryMeta` builds from a stored value has that value as its `UnixNano`. -/
theorem Time.unixNano_readTime (v : Int64) :
    (if v = Time.zero.unixNano then Time.zero else Time.unix v).unixNano = v := by
  split
  · exact (‹_› : v = _).symm
  · exact Int64.wrap_val v

/-- A `do` block of `Except` that succeeds ran each of its steps to success. -/
theorem Except.bind_eq_ok {ε α β : Type} {x : Except ε α} {f : α → Except ε β} {b : β}
    (h : x >>= f = .ok b) : ∃ a, x = .ok a ∧ f a = .ok b := by
  cases x with
  | error e => cases h
  | ok a => exact ⟨a, rfl, h⟩

/-- What `ReadEntryMeta` accepts is the header it returns, written back, followed by the rest. -/
theorem readEntryMeta_ok {s rest : Bytes} {m : EntryMeta}
    (read : readEntryMeta s = .ok (m, rest)) : s = m.writeTo ++ rest := by
  obtain ⟨⟨header, s1⟩, h1, read⟩ := Except.bind_eq_ok read
  obtain ⟨⟨buf, s2⟩, h2, read⟩ := Except.bind_eq_ok read
  cases read
  obtain ⟨headerLen, rfl⟩ := readFull_ok h1
  obtain ⟨bufLen, rfl⟩ := readFull_ok h2
  simp only [EntryMeta.writeTo, Time.unixNano_readTime]
  rw [leBytes_toUInt64_wrap (by simp only [List.length_take, List.length_drop, bufLen]; omega),
    leBytes_toUInt64_wrap (by simp only [List.length_take, List.length_drop, bufLen]; omega)]
  have actionLen : (buf.take (leNat (header.take 4))).length = leNat (header.take 4) := by
    simp only [List.length_take, bufLen]; omega
  have outputLen : ((buf.drop (leNat (header.take 4))).take (leNat (header.drop 4))).length =
      leNat (header.drop 4) := by
    simp only [List.length_take, List.length_drop, bufLen]; omega
  have split : buf.take (leNat (header.take 4)) ++
      ((buf.drop (leNat (header.take 4))).take (leNat (header.drop 4)) ++
        buf.drop (leNat (header.take 4) + leNat (header.drop 4))) = buf := by
    rw [← List.drop_drop, List.take_append_drop, List.take_append_drop]
  rw [actionLen, outputLen, leBytes_leNat (by simp [headerLen]),
    leBytes_leNat (by simp [headerLen])]
  simp only [List.append_assoc, List.take_append_drop, split]

/-- Every header that `ReadEntryMeta` accepts is canonical, whatever its Size bits and its stored
time, the zero time's sentinel included: it took `SerializedSize` bytes, `WriteTo` writes exactly
those bytes back, and the object is `SerializedSize` bytes of header followed by the rest. -/
theorem readEntryMeta_canonical {s rest : Bytes} {m : EntryMeta}
    (read : readEntryMeta s = .ok (m, rest)) :
    m.writeTo = s.take m.serializedSize ∧ rest = s.drop m.serializedSize ∧
      s.length = m.serializedSize + rest.length := by
  obtain rfl := readEntryMeta_ok read
  exact ⟨(List.take_left' (length_writeTo m)).symm, (List.drop_left' (length_writeTo m)).symm,
    by simp⟩

/-- A header with Size −1 and the zero time's sentinel, followed by one byte of data. -/
theorem readEntryMeta_canonical_sentinel :
    readEntryMeta (EntryMeta.writeTo ⟨[1], [2], Int64.wrap (-1), Time.zero⟩ ++ [7]) =
      .ok (⟨[1], [2], Int64.wrap (-1), Time.zero⟩, [7]) ∧
    EntryMeta.writeTo ⟨[1], [2], Int64.wrap (-1), Time.zero⟩ =
      (EntryMeta.writeTo ⟨[1], [2], Int64.wrap (-1), Time.zero⟩ ++ [7]).take
        (EntryMeta.serializedSize ⟨[1], [2], Int64.wrap (-1), Time.zero⟩) ∧
    [7] = (EntryMeta.writeTo ⟨[1], [2], Int64.wrap (-1), Time.zero⟩ ++ [7]).drop
        (EntryMeta.serializedSize ⟨[1], [2], Int64.wrap (-1), Time.zero⟩) ∧
    (EntryMeta.writeTo ⟨[1], [2], Int64.wrap (-1), Time.zero⟩ ++ [7]).length =
      EntryMeta.serializedSize ⟨[1], [2], Int64.wrap (-1), Time.zero⟩ + [7].length :=
  have read : readEntryMeta (EntryMeta.writeTo ⟨[1], [2], Int64.wrap (-1), Time.zero⟩ ++ [7]) =
      .ok (⟨[1], [2], Int64.wrap (-1), Time.zero⟩, [7]) := by
    rw [readEntryMeta_writeTo_eq _ _ (by decide) (by decide), readTime_zero]
  ⟨read, readEntryMeta_canonical read⟩

end Gscache
