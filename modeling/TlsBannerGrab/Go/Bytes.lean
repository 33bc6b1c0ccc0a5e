import Mathlib.Data.List.Basic
import Mathlib.Tactic.Ring

/-!
# Go values: byte strings, slices and decimal text

The scanner's data lives in Go `[]byte` and `string` values; both are byte sequences and are
modelled as `Bytes`. Go panics when a slice expression or `binary.BigEndian.Uint16` reaches past
the end of its operand: those primitives return `Option` here, `none` standing for the panic,
so "never slices out of range" is the statement that a function never returns `none`.

* `GoError` — Go `error` values, with the two `ztls` sentinels the code compares against;
* `bigEndian` — `new(big.Int).SetBytes(b)`, with `bigEndian_append`;
* `beUint16` / `be16` — the 16-bit big-endian length prefixes of TLS (`beUint16_be16`);
* `atoi` — `strconv.Atoi`; on three bytes it lands in `[200, 300)` exactly when they are `2`
  followed by two ASCII digits (`atoi_mem_200_300`).
-/

namespace TlsBannerGrab.Go

/-- A Go `[]byte` or `string`: Go strings are byte sequences, not text. -/
abbrev Bytes := List UInt8

/-- The bytes Go stores for an ASCII string literal. -/
def ascii (s : String) : Bytes := s.toList.map fun ch => ch.toNat.toUInt8

/-- A Go `error`. The two `ztls` sentinels are compared by identity in the source
(`err == ztls.ErrUnimplementedCipher`, `err == ztls.HeartbleedError`); any other error is
known by its message. -/
inductive GoError
  | msg (text : Bytes)
  | unimplementedCipher
  | heartbleed
  deriving DecidableEq, Repr

/-- An ASCII decimal digit: the class `\d` of Go regexps and the digits `strconv` accepts. -/
def isDigit (b : UInt8) : Bool := 48 ≤ b.toNat && b.toNat ≤ 57

/-! ## Slices -/

/-- `b[lo:]`; Go panics when `lo > len(b)`. -/
def sliceFrom (b : Bytes) (lo : Nat) : Option Bytes :=
  if lo ≤ b.length then some (b.drop lo) else none

/-- `b[0:hi]`; Go panics when `hi > len(b)` (every slice cut here has `cap = len`). -/
def sliceTo (b : Bytes) (hi : Nat) : Option Bytes :=
  if hi ≤ b.length then some (b.take hi) else none

theorem sliceFrom_of_le {b : Bytes} {lo : Nat} (h : lo ≤ b.length) :
    sliceFrom b lo = some (b.drop lo) := if_pos h

theorem sliceTo_of_le {b : Bytes} {hi : Nat} (h : hi ≤ b.length) :
    sliceTo b hi = some (b.take hi) := if_pos h

/-- `make([]byte, n)`. -/
def makeBytes (n : Nat) : Bytes := List.replicate n 0

/-- `copy(dst, src)`: the first `min(len(dst), len(src))` bytes of `dst` take `src`'s values. -/
def goCopy (dst src : Bytes) : Bytes := src.take dst.length ++ dst.drop src.length

@[simp] theorem length_makeBytes (n : Nat) : (makeBytes n).length = n := List.length_replicate n 0

/-- Copying into a slice made with the source's length reproduces the source. -/
@[simp] theorem goCopy_makeBytes (src : Bytes) : goCopy (makeBytes src.length) src = src := by
  simp [goCopy, makeBytes]

/-- `dst[0:n]` after `n := copy`-style reading of `src` into `dst`: the bytes read, when they
fit. -/
theorem sliceTo_goCopy {dst src : Bytes} (h : src.length ≤ dst.length) :
    sliceTo (goCopy dst src) src.length = some src := by
  rw [sliceTo_of_le (by simp [goCopy]; omega)]
  simp [goCopy, List.take_append_eq_append_take, List.take_of_length_le h]

/-! ## Unsigned big-endian integers -/

/-- `new(big.Int).SetBytes(b)`: the unsigned big-endian value of `b`. -/
def bigEndian (b : Bytes) : Nat := b.foldl (fun acc x => acc * 256 + x.toNat) 0

private theorem foldl_bigEndian (b : Bytes) (n : Nat) :
    b.foldl (fun acc x => acc * 256 + x.toNat) n = n * 256 ^ b.length + bigEndian b := by
  induction b generalizing n with
  | nil => simp [bigEndian]
  | cons x rest ih =>
    simp only [bigEndian, List.foldl_cons, List.length_cons] at ih ⊢
    rw [ih, ih (0 * 256 + x.toNat), Nat.pow_succ]
    ring

@[simp] theorem bigEndian_nil : bigEndian [] = 0 := rfl

theorem bigEndian_append (a b : Bytes) :
    bigEndian (a ++ b) = bigEndian a * 256 ^ b.length + bigEndian b := by
  rw [bigEndian, List.foldl_append, foldl_bigEndian]
  rfl

theorem bigEndian_cons (x : UInt8) (b : Bytes) :
    bigEndian (x :: b) = x.toNat * 256 ^ b.length + bigEndian b := by
  rw [← List.singleton_append, bigEndian_append]
  simp [bigEndian]

theorem bigEndian_append_singleton (b : Bytes) (x : UInt8) :
    bigEndian (b ++ [x]) = bigEndian b * 256 + x.toNat := by
  simp [bigEndian_append, bigEndian]

/-- `k` bytes hold less than `256 ^ k`. -/
theorem bigEndian_lt (b : Bytes) : bigEndian b < 256 ^ b.length := by
  induction b with
  | nil => simp
  | cons x b ih =>
    have hx : x.toNat * 256 ^ b.length ≤ 255 * 256 ^ b.length :=
      Nat.mul_le_mul_right _ (Nat.le_of_lt_succ x.toNat_lt_size)
    rw [bigEndian_cons, List.length_cons, Nat.pow_succ]
    omega

/-- `binary.BigEndian.Uint16(b)`: the first two bytes as a big-endian value; Go panics when
fewer than two bytes remain. -/
def beUint16 : Bytes → Option Nat
  | b0 :: b1 :: _ => some (b0.toNat * 256 + b1.toNat)
  | _ => none

/-- The two bytes of the big-endian encoding of a 16-bit length `n`. -/
def be16 (n : Nat) : Bytes := [(n / 256).toUInt8, (n % 256).toUInt8]

@[simp] theorem length_be16 (n : Nat) : (be16 n).length = 2 := rfl

theorem toNat_toUInt8 {n : Nat} (h : n < 256) : n.toUInt8.toNat = n :=
  Nat.mod_eq_of_lt h

theorem beUint16_be16 {n : Nat} (rest : Bytes) (h : n < 65536) :
    beUint16 (be16 n ++ rest) = some n := by
  simp only [be16, List.cons_append, List.nil_append, beUint16,
    toNat_toUInt8 (show n / 256 < 256 by omega), toNat_toUInt8 (Nat.mod_lt n (by omega))]
  congr 1
  omega

/-- Every two bytes are the encoding of the value `beUint16` reads from them. -/
theorem be16_beUint16 (b0 b1 : UInt8) : be16 (b0.toNat * 256 + b1.toNat) = [b0, b1] := by
  have h0 := b0.toNat_lt_size
  have h1 := b1.toNat_lt_size
  simp only [be16, List.cons.injEq, and_true]
  constructor <;> apply UInt8.toNat.inj <;> rw [toNat_toUInt8 (by simp [UInt8.size] at *; omega)]
    <;> simp [UInt8.size] at * <;> omega

/-! ## Decimal text -/

/-- The value of a run of ASCII digits. -/
def decimal (ds : Bytes) : Nat := ds.foldl (fun acc d => acc * 10 + (d.toNat - 48)) 0

/-- The sign `strconv.Atoi` strips off the front (`true` for `-`), and the digits after it. -/
def splitSign : Bytes → Bool × Bytes
  | a :: rest =>
    if a = 45 then (true, rest) else if a = 43 then (false, rest) else (false, a :: rest)
  | [] => (false, [])

/-- `strconv.Atoi(s)`: an optional `+` or `-` and one or more ASCII digits, whose value must fit
a 64-bit `int`. `none` is any of its errors: every caller here discards which one. -/
def atoi (s : Bytes) : Option Int :=
  let ds := (splitSign s).2
  if ds ≠ [] ∧ ds.all isDigit then
    let n : Int := if (splitSign s).1 then -(decimal ds : Int) else decimal ds
    if -2 ^ 63 ≤ n ∧ n < 2 ^ 63 then some n else none
  else none

/-- On three bytes, `strconv.Atoi` yields a value in `[200, 300)` exactly when the bytes are `2`
and two ASCII digits: a sign, or any byte that is not a digit, rules it out. -/
theorem atoi_mem_200_300 (a b c : UInt8) :
    (∃ n, atoi [a, b, c] = some n ∧ 200 ≤ n ∧ n < 300) ↔
      a = 50 ∧ isDigit b ∧ isDigit c := by
  have h50 : a = 50 ↔ a.toNat = 50 := ⟨fun h => h ▸ rfl, fun h => UInt8.toNat.inj h⟩
  by_cases h45 : a = 45
  · -- a minus sign: the value is not positive
    simp [atoi, splitSign, decimal, isDigit, h45]
    omega
  · by_cases h43 : a = 43
    · -- a plus sign: two digits stay below 100
      simp [atoi, splitSign, decimal, isDigit, h43]
      omega
    · -- three digits: the hundreds digit decides
      simp [atoi, splitSign, decimal, h45, h43, h50]
      simp only [isDigit, Bool.and_eq_true, decide_eq_true_eq]
      constructor
      · rintro ⟨n, ⟨⟨ha, hb, hc⟩, -, rfl⟩, h1, h2⟩
        omega
      · rintro ⟨h, hb, hc⟩
        exact ⟨_, ⟨⟨by omega, hb, hc⟩, by omega, rfl⟩, by omega, by omega⟩

end TlsBannerGrab.Go
