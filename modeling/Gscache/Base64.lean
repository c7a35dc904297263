import Gscache.Bytes

/-!
# Base64

`encoding/base64.StdEncoding`: the standard alphabet with `=` padding. A put body travels to the
daemon as base64 between two quotes, and `decodePut` reads it back through `base64.NewDecoder`.

`Encode` turns each group of three bytes, read as a 24-bit value, into four characters; a last
group of one or two bytes gives two or three characters and `=` padding. The decoder reads
groups of four characters. It accepts padding only in the last group and ignores the unused
bits of a padded group (`StdEncoding` is not strict).

Results:
1. `base64Decode_base64Encode`: decoding the encoding of any bytes gives them back.
2. `not_mem_base64Encode`: the encoding holds no quote, no `\r` and no `\n`.
-/

namespace Gscache

/-- The character of a 6-bit value in `encodeStd`,
`ABCDEFGHIJKLMNOPQRSTUVWXYZabcdefghijklmnopqrstuvwxyz0123456789+/`. -/
def base64Char (v : Nat) : UInt8 :=
  let v := v % 64
  UInt8.ofNat (if v < 26 then v + 65 else if v < 52 then v + 71 else if v < 62 then v - 4
    else if v = 62 then 43 else 47)

/-- `StdPadding`, the character `=`. -/
def base64Pad : UInt8 := 61

/-- The 6-bit value of a character of the alphabet (the decoder's `decodeMap`); `none` for any
other byte. -/
def base64Value (c : UInt8) : Option Nat :=
  let n := c.toNat
  if 65 ≤ n ∧ n ≤ 90 then some (n - 65)
  else if 97 ≤ n ∧ n ≤ 122 then some (n - 71)
  else if 48 ≤ n ∧ n ≤ 57 then some (n + 4)
  else if n = 43 then some 62
  else if n = 47 then some 63
  else none

/-- The four characters of a 24-bit value. -/
def base64Quad (val : Nat) : Bytes :=
  [base64Char (val / 262144), base64Char (val / 4096), base64Char (val / 64), base64Char val]

/-- `StdEncoding.EncodeToString`. -/
def base64Encode : Bytes → Bytes
  | b0 :: b1 :: b2 :: rest =>
    base64Quad (b0.toNat * 65536 + b1.toNat * 256 + b2.toNat) ++ base64Encode rest
  | [b0, b1] => (base64Quad (b0.toNat * 65536 + b1.toNat * 256)).take 3 ++ [base64Pad]
  | [b0] => (base64Quad (b0.toNat * 65536)).take 2 ++ [base64Pad, base64Pad]
  | [] => []

/-- The bytes of the 24-bit value `val`, of which the first `n` are kept. -/
def base64Bytes (val n : Nat) : Bytes :=
  [UInt8.ofNat (val / 65536), UInt8.ofNat (val / 256), UInt8.ofNat val].take n

/-- `decodeQuantum` on four characters; padding is accepted only if the group is the `last`. -/
def base64Quantum (c0 c1 c2 c3 : UInt8) (last : Bool) : Option Bytes := do
  let v0 ← base64Value c0
  let v1 ← base64Value c1
  if last ∧ c2 = base64Pad ∧ c3 = base64Pad then
    pure (base64Bytes (v0 * 262144 + v1 * 4096) 1)
  else
    let v2 ← base64Value c2
    if last ∧ c3 = base64Pad then pure (base64Bytes (v0 * 262144 + v1 * 4096 + v2 * 64) 2)
    else
      let v3 ← base64Value c3
      pure (base64Bytes (v0 * 262144 + v1 * 4096 + v2 * 64 + v3) 3)

/-- `StdEncoding.DecodeString`: `none` on a corrupt input. -/
def base64Decode : Bytes → Option Bytes
  | [] => some []
  | c0 :: c1 :: c2 :: c3 :: rest => do
    let quantum ← base64Quantum c0 c1 c2 c3 rest.isEmpty
    let more ← base64Decode rest
    pure (quantum ++ more)
  | _ => none

/-! ## The alphabet -/

theorem UInt8.ofNat_of_mod {n : Nat} {b : UInt8} (h : n % 256 = b.toNat) : UInt8.ofNat n = b :=
  UInt8.toNat.inj h

theorem base64Char_mod (v : Nat) : base64Char (v % 64) = base64Char v := by
  simp [base64Char]

theorem base64Value_base64Char_of_lt : ∀ d, d < 64 → base64Value (base64Char d) = some d := by
  decide

theorem base64Value_base64Char (v : Nat) : base64Value (base64Char v) = some (v % 64) := by
  rw [← base64Char_mod]
  exact base64Value_base64Char_of_lt _ (Nat.mod_lt _ (by decide))

theorem base64Char_ne_of_lt : ∀ d, d < 64 →
    base64Char d ≠ base64Pad ∧ base64Char d ≠ 34 ∧ base64Char d ≠ 13 ∧ base64Char d ≠ 10 := by
  decide

theorem base64Char_ne (v : Nat) :
    base64Char v ≠ base64Pad ∧ base64Char v ≠ 34 ∧ base64Char v ≠ 13 ∧ base64Char v ≠ 10 := by
  rw [← base64Char_mod]
  exact base64Char_ne_of_lt _ (Nat.mod_lt _ (by decide))

example : (List.range 64).map base64Char =
    ascii "ABCDEFGHIJKLMNOPQRSTUVWXYZabcdefghijklmnopqrstuvwxyz0123456789+/" := by
  decide

/-! ## Round trip -/

/-- Four characters of the alphabet decode to the three bytes of the value they spell. -/
theorem base64Quantum_chars (v0 v1 v2 v3 : Nat) (last : Bool) :
    base64Quantum (base64Char v0) (base64Char v1) (base64Char v2) (base64Char v3) last =
      some (base64Bytes (v0 % 64 * 262144 + v1 % 64 * 4096 + v2 % 64 * 64 + v3 % 64) 3) := by
  simp [base64Quantum, base64Value_base64Char, (base64Char_ne v2).1, (base64Char_ne v3).1]

theorem base64Bytes_three (a b c : UInt8) :
    base64Bytes (a.toNat * 65536 + b.toNat * 256 + c.toNat) 3 = [a, b, c] := by
  have := UInt8.toNat_lt a; have := UInt8.toNat_lt b; have := UInt8.toNat_lt c
  simp only [base64Bytes, List.take]
  rw [UInt8.ofNat_of_mod (show _ % 256 = a.toNat by omega),
    UInt8.ofNat_of_mod (show _ % 256 = b.toNat by omega),
    UInt8.ofNat_of_mod (show _ % 256 = c.toNat by omega)]

theorem base64Decode_base64Encode (bytes : Bytes) :
    base64Decode (base64Encode bytes) = some bytes := by
  induction bytes using base64Encode.induct with
  | case1 a b c rest ih =>
    have := UInt8.toNat_lt a; have := UInt8.toNat_lt b; have := UInt8.toNat_lt c
    have spelled : (a.toNat * 65536 + b.toNat * 256 + c.toNat) / 262144 % 64 * 262144 +
        (a.toNat * 65536 + b.toNat * 256 + c.toNat) / 4096 % 64 * 4096 +
        (a.toNat * 65536 + b.toNat * 256 + c.toNat) / 64 % 64 * 64 +
        (a.toNat * 65536 + b.toNat * 256 + c.toNat) % 64 =
        a.toNat * 65536 + b.toNat * 256 + c.toNat := by omega
    simp only [base64Encode, base64Quad, List.cons_append, List.append_eq, List.nil_append,
      base64Decode, base64Quantum_chars, spelled, base64Bytes_three, ih]
    rfl
  | case2 a b =>
    have := UInt8.toNat_lt a; have := UInt8.toNat_lt b
    simp [base64Encode, base64Quad, base64Decode, base64Quantum, base64Value_base64Char,
      base64Char_ne, base64Bytes]
    exact ⟨UInt8.ofNat_of_mod (by omega), UInt8.ofNat_of_mod (by omega)⟩
  | case3 a =>
    have := UInt8.toNat_lt a
    simp [base64Encode, base64Quad, base64Decode, base64Quantum, base64Value_base64Char,
      base64Char_ne, base64Bytes]
    exact UInt8.ofNat_of_mod (by omega)
  | case4 => rfl

/-- The encoding holds no quote, no carriage return and no newline: the quote that follows it
ends it, and `base64.NewDecoder` drops no byte of it. -/
theorem not_mem_base64Encode (bytes : Bytes) :
    ∀ c ∈ base64Encode bytes, c ≠ 34 ∧ c ≠ 13 ∧ c ≠ 10 := by
  have pad : base64Pad ≠ 34 ∧ base64Pad ≠ 13 ∧ base64Pad ≠ 10 := by decide
  induction bytes using base64Encode.induct with
  | case1 _ _ _ _ ih =>
    simpa [base64Encode, base64Quad, base64Char_ne] using ih
  | case2 | case3 => simp [base64Encode, base64Quad, base64Char_ne, pad]
  | case4 => simp [base64Encode]

end Gscache
