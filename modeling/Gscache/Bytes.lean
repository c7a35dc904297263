import Mathlib.Algebra.Group.Nat.Basic
import Mathlib.Data.List.Basic

/-!
# Byte strings

Go's `[]byte` and `string` values are byte strings (`Bytes`): a Go `string` is indexed by
byte, so a key is a byte string too. This module gives the encodings the program computes
itself: little-endian fixed-width integers (`binary.LittleEndian.PutUint32`, `PutUint64`,
`Uint32`, `Uint64`) and hexadecimal (`fmt`'s `%x` and `%02x` on bytes, `hex.DecodeString`).

Results:
1. `leNat_leBytes`: reading back `k` little-endian bytes gives the value modulo `256 ^ k`, and
   `leBytes_leNat`: writing back the value of `k` bytes gives those bytes.
2. `hexDecode_hexEncode`: `hex.DecodeString` inverts `%x`; hence `hexEncode_injective`.
-/

namespace Gscache

/-- A Go byte string (`[]byte`, or the bytes of a `string`). -/
abbrev Bytes := List UInt8

/-- The bytes of an ASCII string literal. -/
def ascii (s : String) : Bytes := s.toList.map Char.toUInt8

theorem UInt8.ofNat_toNat (b : UInt8) : UInt8.ofNat b.toNat = b :=
  UInt8.toNat.inj (UInt8.toNat_ofNat_of_lt (UInt8.toNat_lt_size b))

theorem UInt8.toNat_lt (b : UInt8) : b.toNat < 256 := UInt8.toNat_lt_size b

/-! ## Little-endian integers -/

/-- The low `k` bytes of `n`, least significant first (`binary.LittleEndian.PutUintN`). -/
def leBytes : Nat → Nat → Bytes
  | 0, _ => []
  | k + 1, n => UInt8.ofNat (n % 256) :: leBytes k (n / 256)

/-- The value of a little-endian byte string (`binary.LittleEndian.UintN`). -/
def leNat : Bytes → Nat
  | [] => 0
  | b :: bs => b.toNat + 256 * leNat bs

@[simp] theorem length_leBytes (k n : Nat) : (leBytes k n).length = k := by
  induction k generalizing n <;> simp [leBytes, *]

theorem leNat_leBytes (k n : Nat) : leNat (leBytes k n) = n % 256 ^ k := by
  induction k generalizing n with
  | zero => rw [leBytes, leNat, Nat.pow_zero, Nat.mod_one]
  | succ k ih =>
    have low : (UInt8.ofNat (n % 256)).toNat = n % 256 :=
      UInt8.toNat_ofNat_of_lt (Nat.mod_lt _ (by decide))
    rw [leBytes, leNat, ih, low, Nat.pow_succ', Nat.mod_mul]

/-- `PutUintN` of `UintN`: a little-endian byte string is the encoding of its value. -/
theorem leBytes_leNat {bs : Bytes} {k : Nat} (len : bs.length = k) : leBytes k (leNat bs) = bs := by
  subst len
  induction bs with
  | nil => rfl
  | cons b bs ih =>
    have := UInt8.toNat_lt b
    rw [List.length_cons, leBytes, leNat,
      show (b.toNat + 256 * leNat bs) % 256 = b.toNat by omega,
      show (b.toNat + 256 * leNat bs) / 256 = leNat bs by omega, ih, UInt8.ofNat_toNat]

theorem leNat_lt (bs : Bytes) : leNat bs < 256 ^ bs.length := by
  induction bs with
  | nil => exact Nat.one_pos
  | cons b bs ih =>
    have := UInt8.toNat_lt b
    rw [leNat, List.length_cons, Nat.pow_succ']
    omega

/-! ## Hexadecimal -/

/-- The lower-case hexadecimal digit of `d < 16`. -/
def hexDigit (d : Nat) : UInt8 :=
  if d < 10 then UInt8.ofNat (48 + d) else UInt8.ofNat (87 + d)

/-- `%02x` of one byte. -/
def hexByte (b : UInt8) : Bytes := [hexDigit (b.toNat / 16), hexDigit (b.toNat % 16)]

/-- `%x` of a byte string: two lower-case digits per byte. -/
def hexEncode (a : Bytes) : Bytes := a.flatMap hexByte

/-- The value of a hexadecimal digit of either case (`hex`'s `reverseHexTable`). -/
def hexVal (c : UInt8) : Option Nat :=
  if 48 ≤ c.toNat ∧ c.toNat ≤ 57 then some (c.toNat - 48)
  else if 97 ≤ c.toNat ∧ c.toNat ≤ 102 then some (c.toNat - 87)
  else if 65 ≤ c.toNat ∧ c.toNat ≤ 70 then some (c.toNat - 55)
  else none

/-- `hex.DecodeString`: `none` for an odd length or a byte that is not a hex digit. -/
def hexDecode : Bytes → Option Bytes
  | [] => some []
  | [_] => none
  | p :: q :: rest => do
    let hi ← hexVal p
    let lo ← hexVal q
    let tail ← hexDecode rest
    pure (UInt8.ofNat (16 * hi + lo) :: tail)

@[simp] theorem hexEncode_nil : hexEncode [] = [] := rfl

@[simp] theorem hexEncode_cons (b : UInt8) (a : Bytes) :
    hexEncode (b :: a) = hexByte b ++ hexEncode a := rfl

@[simp] theorem length_hexEncode (a : Bytes) : (hexEncode a).length = 2 * a.length := by
  induction a with
  | nil => rfl
  | cons b a ih => simp [hexByte, ih]; omega

theorem hexVal_hexDigit : ∀ d, d < 16 → hexVal (hexDigit d) = some d := by decide

theorem hexDecode_hexEncode (a : Bytes) : hexDecode (hexEncode a) = some a := by
  induction a with
  | nil => rfl
  | cons b a ih =>
    have hi := hexVal_hexDigit (b.toNat / 16) (by have := UInt8.toNat_lt b; omega)
    have lo := hexVal_hexDigit (b.toNat % 16) (Nat.mod_lt _ (by decide))
    have byte : UInt8.ofNat (16 * (b.toNat / 16) + b.toNat % 16) = b := by
      rw [Nat.div_add_mod]; exact UInt8.ofNat_toNat b
    show hexDecode (hexDigit _ :: hexDigit _ :: hexEncode a) = _
    simp [hexDecode, hi, lo, ih, byte]

theorem hexDecode_eq_nil {s : Bytes} : hexDecode s = some [] ↔ s = [] := by
  match s with
  | [] => simp [hexDecode]
  | [_] => simp [hexDecode]
  | p :: q :: rest =>
    simp only [hexDecode, reduceCtorEq, iff_false]
    cases hexVal p <;> cases hexVal q <;> cases hexDecode rest <;> simp

theorem hexEncode_injective : Function.Injective hexEncode := fun a a' same => by
  simpa [hexDecode_hexEncode] using congrArg hexDecode same

end Gscache
