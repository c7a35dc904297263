import Gscache.Bytes

/-!
# Object keys and keyspaces

`internal/cache/backends/blob/key.go` names the remote objects: a standalone entry lives at
`b/XX/HHHH…` (`XX` the first byte of the ActionID, `HHHH…` the whole ActionID, both in
lower-case hex), and the bundle of keyspace `k` at `blobar/k.zip`. The compaction job lists the
bucket under `b/k` and parses each key back with `DecodeCacheEntityKey`.

`CacheEntityKey` and `CacheEntityKeyspace` index `actionID[0]`, which panics on an empty
ActionID; a Go call that can panic is modelled with `Option`, `none` being the panic.

Results:
1. `decodeCacheEntityKey_sound`: on every key, `DecodeCacheEntityKey` returns an error, or a
   non-empty ActionID whose `CacheEntityKey` is the key, or panics; and
   `decodeCacheEntityKey_panics_iff`: it panics exactly on the keys `b/??/` of length 5.
2. `decodeCacheEntityKey_b00`: the key `b/00/` makes it panic.
3. `decodeCacheEntityKey_of_cacheEntityKey`: every key `CacheEntityKey` writes parses back to its
   ActionID.
-/

namespace Gscache

/-- `CacheEntityKey`: `b/%02x/%x` of `actionID[0]` and `actionID`. -/
def cacheEntityKey (actionID : Bytes) : Option Bytes :=
  actionID.head?.map fun first => ascii "b/" ++ hexByte first ++ ascii "/" ++ hexEncode actionID

/-- The error `DecodeCacheEntityKey` returns: `invalid cache entity key <key>`. -/
def invalidCacheEntityKey (key : Bytes) : Bytes := ascii "invalid cache entity key " ++ key

/-- `DecodeCacheEntityKey`. Go's `||` evaluates `key[0]`, `key[1]` and `key[4]` only after
`len(key) < 5` is false, so the guard never indexes out of range. The last step recomputes the key
from the decoded ActionID, which panics when that ActionID is empty. -/
def decodeCacheEntityKey (key : Bytes) : Option (Except Bytes Bytes) :=
  if key.length < 5 ∨ key[0]? ≠ some 98 ∨ key[1]? ≠ some 47 ∨ key[4]? ≠ some 47 then
    some (.error (invalidCacheEntityKey key))
  else match hexDecode (key.drop 5) with
    | none => some (.error (invalidCacheEntityKey key))
    | some actionID => (cacheEntityKey actionID).map fun recomputed =>
      if recomputed ≠ key then .error (invalidCacheEntityKey key) else .ok actionID

/-- `CacheEntityNameInArchive`: the ActionID in hex, the name of its bundle entry. -/
def cacheEntityNameInArchive (actionID : Bytes) : Bytes := hexEncode actionID

/-- `ArchiveListPrefixKey`: `b/<keyspace>`. -/
def archiveListPrefixKey (keyspace : Bytes) : Bytes := ascii "b/" ++ keyspace

/-- `ArchiveKey`: `blobar/<keyspace>.zip`. -/
def archiveKey (keyspace : Bytes) : Bytes := ascii "blobar/" ++ keyspace ++ ascii ".zip"

/-- `ArchiveKeyspaces`: the sixteen hex digits. -/
def archiveKeyspaces : List Bytes := (List.range 16).map fun d => [hexDigit d]

/-- `CacheEntityKeyspace`: the first character of `%02x` of `actionID[0]`. -/
def cacheEntityKeyspace (actionID : Bytes) : Option Bytes :=
  actionID.head?.map fun first => (hexByte first).take 1

theorem cacheEntityKey_cons (first : UInt8) (rest : Bytes) :
    cacheEntityKey (first :: rest) =
      some (ascii "b/" ++ hexByte first ++ ascii "/" ++ hexEncode (first :: rest)) := rfl

theorem cacheEntityKey_nil : cacheEntityKey [] = none := rfl

theorem isSome_cacheEntityKey {actionID : Bytes} :
    (cacheEntityKey actionID).isSome ↔ actionID ≠ [] := by
  cases actionID <;> simp [cacheEntityKey]

/-- `DecodeCacheEntityKey` parses every key that `CacheEntityKey` writes back to its ActionID. -/
theorem decodeCacheEntityKey_of_cacheEntityKey {actionID key : Bytes}
    (named : cacheEntityKey actionID = some key) :
    decodeCacheEntityKey key = some (.ok actionID) := by
  cases actionID with
  | nil => cases named
  | cons first rest =>
    rw [cacheEntityKey_cons, Option.some.injEq] at named
    subst named
    have spelled : ascii "b/" ++ hexByte first ++ ascii "/" ++ hexEncode (first :: rest) =
        98 :: 47 :: hexDigit (first.toNat / 16) :: hexDigit (first.toNat % 16) :: 47 ::
          hexEncode (first :: rest) := rfl
    rw [decodeCacheEntityKey, spelled, if_neg (by simp)]
    simp only [List.drop_succ_cons, List.drop_zero, hexDecode_hexEncode, cacheEntityKey_cons,
      spelled]
    simp

/-- Every outcome of `DecodeCacheEntityKey` other than a panic is an error or an ActionID that
the key names. -/
theorem decodeCacheEntityKey_sound (key : Bytes) :
    decodeCacheEntityKey key = none ∨
    decodeCacheEntityKey key = some (.error (invalidCacheEntityKey key)) ∨
    ∃ actionID, actionID ≠ [] ∧ decodeCacheEntityKey key = some (.ok actionID) ∧
      cacheEntityKey actionID = some key := by
  unfold decodeCacheEntityKey
  split
  · exact .inr (.inl rfl)
  · split
    · exact .inr (.inl rfl)
    · rename_i actionID _
      cases actionID with
      | nil => exact .inl rfl
      | cons first rest =>
        by_cases same : cacheEntityKey (first :: rest) = some key
        · exact .inr (.inr ⟨_, List.cons_ne_nil _ _, by simp [same], same⟩)
        · refine .inr (.inl ?_)
          rw [cacheEntityKey_cons] at same ⊢
          rw [Option.map_some', if_pos (fun recomputed => same (congrArg some recomputed))]

/-- `DecodeCacheEntityKey` panics exactly on the keys `b/??/`: nothing follows the second
slash, `hex.DecodeString("")` succeeds with the empty ActionID, and `CacheEntityKey` indexes
its first byte. -/
theorem decodeCacheEntityKey_panics_iff (key : Bytes) :
    decodeCacheEntityKey key = none ↔ ∃ x y, key = [98, 47, x, y, 47] := by
  constructor
  · unfold decodeCacheEntityKey
    split
    · simp
    · rename_i guard
      split
      · simp
      · rename_i actionID decoded
        cases actionID with
        | cons first rest => simp [cacheEntityKey_cons]
        | nil =>
          intro _
          simp only [not_or, not_not, not_lt] at guard
          obtain ⟨long, at0, at1, at4⟩ := guard
          have short : key.drop 5 = [] := hexDecode_eq_nil.mp decoded
          match key, long, short with
          | [b0, b1, x, y, b4], _, _ =>
            simp only [List.getElem?_cons_zero, List.getElem?_cons_succ,
              Option.some.injEq] at at0 at1 at4
            exact ⟨x, y, by rw [at0, at1, at4]⟩
          | _ :: _ :: _ :: _ :: _ :: _ :: _, _, short => simp at short
  · rintro ⟨x, y, rfl⟩
    rfl

/-- The failing input: `DecodeCacheEntityKey("b/00/")` indexes an empty slice. -/
theorem decodeCacheEntityKey_b00 : decodeCacheEntityKey (ascii "b/00/") = none := by
  rw [decodeCacheEntityKey_panics_iff]
  exact ⟨48, 48, rfl⟩

end Gscache
