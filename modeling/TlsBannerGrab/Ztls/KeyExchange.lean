import TlsBannerGrab.Go.Bytes
import Mathlib.Algebra.BigOperators.Fin

/-!
# Key-exchange parameter decoders (`ztls`)

The server key exchange of a DHE or export-RSA handshake carries big integers.
`DHParams.unmarshal` reads three 16-bit length-prefixed big-endian fields off the front of the
key blob and stores each into its receiver as soon as it is read; `rsaExportParams.makeLog`
folds the raw exponent into a `uint32` by shift-and-OR and reads the modulus as a big integer.

* `unmarshal_accepts_iff` — `unmarshal` never panics, returns `true` exactly on buffers laid out
  as three prefixed fields and a suffix (a layout then unique), and then holds their values;
* `marshalJSON_isSome_iff` — `DHParams.marshalJSON` dereferences no nil `*big.Int` exactly on a
  receiver with all three integers, as an accepted one has;
* `natBytes_bigEndian`, `bitLen_natBytes` — `Bytes()` after `SetBytes` gives the input back
  without its leading zero bytes, and `BitLen()` ends in the last byte `Bytes()` returns;
* `marshalJSON_unmarshal` — the logged DH parameters are the wire fields so stripped;
* `makeLog_exponent` — the exponent is the big-endian value of the raw bytes modulo `2^32`;
* `makeLog_modulus` — the logged modulus is the raw one so stripped, and encodes the key's `N`;
* `marshalJSON_ids` — an export signature algorithm serialises its two ids losslessly, with an
  empty name past the end of a name table.
-/

namespace TlsBannerGrab.Ztls

open TlsBannerGrab.Go

/-! ## Big-integer output -/

/-- `(*big.Int).Bytes()`: the big-endian magnitude with no leading zero byte. -/
def natBytes (n : Nat) : Bytes := go n n
where
  /-- Peel the low byte off `n`; `fuel ≥ n` bounds the number of bytes. -/
  go : Nat → Nat → Bytes
    | 0, _ => []
    | fuel + 1, n => if n = 0 then [] else go fuel (n / 256) ++ [(n % 256).toUInt8]

/-- `(*big.Int).BitLen()`. -/
def bitLen (n : Nat) : Nat := if n = 0 then 0 else n.log2 + 1

private theorem bigEndian_natBytes_go (fuel n : Nat) (h : n ≤ fuel) :
    bigEndian (natBytes.go fuel n) = n := by
  induction fuel generalizing n with
  | zero => simp [natBytes.go]; omega
  | succ fuel ih =>
    simp only [natBytes.go]
    split
    · simp; omega
    · rw [bigEndian_append, ih _ (by omega)]
      simp [bigEndian, toNat_toUInt8 (Nat.mod_lt n (by omega))]
      omega

/-- `Bytes()` loses nothing: reading its output back as big-endian gives the integer. -/
theorem bigEndian_natBytes (n : Nat) : bigEndian (natBytes n) = n :=
  bigEndian_natBytes_go n n le_rfl

/-- Any fuel at least `n` gives the same bytes. -/
private theorem natBytes_go_fuel {f₁ f₂ n : Nat} (h₁ : n ≤ f₁) (h₂ : n ≤ f₂) :
    natBytes.go f₁ n = natBytes.go f₂ n := by
  induction f₁ generalizing n f₂ with
  | zero =>
    obtain rfl : n = 0 := by omega
    cases f₂ <;> rfl
  | succ k ih =>
    cases f₂ with
    | zero =>
      obtain rfl : n = 0 := by omega
      rfl
    | succ m =>
      simp only [natBytes.go]
      split
      · rfl
      · rw [@ih m (n / 256) (by omega) (by omega)]

/-- A positive integer's bytes: those of its quotient by 256, then its low byte. -/
theorem natBytes_of_pos {n : Nat} (h : 0 < n) :
    natBytes n = natBytes (n / 256) ++ [(n % 256).toUInt8] := by
  obtain ⟨k, rfl⟩ : ∃ k, n = k + 1 := ⟨n - 1, by omega⟩
  rw [natBytes, natBytes.go, if_neg (by omega), natBytes_go_fuel (by omega) (le_refl _)]
  rfl

/-- `Bytes()` after `SetBytes`: the bytes come back without their leading zeros. -/
theorem natBytes_bigEndian (b : Bytes) : natBytes (bigEndian b) = b.dropWhile (· == 0) := by
  induction b using List.reverseRecOn with
  | nil => rfl
  | append_singleton b x ih =>
    rw [bigEndian_append_singleton, List.dropWhile_append]
    have hx : x.toNat < 256 := x.toNat_lt_size
    by_cases h0 : bigEndian b * 256 + x.toNat = 0
    · -- all zero: nothing is left on either side
      have hnil : b.dropWhile (· == 0) = [] := by rw [← ih, show bigEndian b = 0 by omega]; rfl
      have hx0 : x = 0 := UInt8.toNat.inj (show x.toNat = 0 by omega)
      rw [h0, hnil, hx0]
      rfl
    · have hq : (bigEndian b * 256 + x.toNat) / 256 = bigEndian b := by omega
      have hr : (bigEndian b * 256 + x.toNat) % 256 = x.toNat := by omega
      rw [natBytes_of_pos (by omega), hq, hr, ih, UInt8.toNat.inj (toNat_toUInt8 hx)]
      split
      · -- `b` is all zeros, so `x` is the first byte kept
        rename_i hnil
        have hb : bigEndian b = 0 := by
          rw [← bigEndian_natBytes (bigEndian b), ih, List.isEmpty_iff.mp hnil]; rfl
        have hx0 : x ≠ 0 := fun e => h0 (by rw [hb, e]; rfl)
        rw [List.isEmpty_iff.mp hnil]
        simp [hx0]
      · rfl

/-- A positive integer takes no more bytes than it needs: `256 ^ (k - 1) ≤ n` for `k` bytes. -/
theorem pow_length_natBytes_le (n : Nat) (h : 0 < n) : 256 ^ (natBytes n).length ≤ n * 256 := by
  induction n using Nat.strong_induction_on with
  | _ n ih =>
    rw [natBytes_of_pos h, List.length_append, List.length_singleton, Nat.pow_succ]
    by_cases hq : n / 256 = 0
    · rw [hq]
      simp only [show natBytes 0 = [] from rfl, List.length_nil, Nat.pow_zero]
      omega
    · have hlow := ih (n / 256) (by omega) (by omega)
      have hle : n / 256 * 256 ≤ n := Nat.div_mul_le_self n 256
      omega

/-- `BitLen()` and `Bytes()` agree: the bit length ends in the last byte. -/
theorem bitLen_natBytes (n : Nat) :
    bitLen n ≤ 8 * (natBytes n).length ∧ 8 * (natBytes n).length < bitLen n + 8 := by
  rcases Nat.eq_zero_or_pos n with rfl | hn
  · exact ⟨le_refl _, by decide⟩
  have hn0 : n ≠ 0 := by omega
  have hlt : n < 2 ^ (8 * (natBytes n).length) := by
    have := bigEndian_lt (natBytes n)
    rwa [bigEndian_natBytes, show (256 : Nat) = 2 ^ 8 from rfl, ← Nat.pow_mul] at this
  have hge : 2 ^ (8 * (natBytes n).length - 8) ≤ n := by
    have hL : 1 ≤ (natBytes n).length := by rw [natBytes_of_pos hn]; simp
    have := pow_length_natBytes_le n hn
    rw [show (256 : Nat) = 2 ^ 8 from rfl, ← Nat.pow_mul,
      show 8 * (natBytes n).length = 8 * (natBytes n).length - 8 + 8 by omega, Nat.pow_add] at this
    exact Nat.le_of_mul_le_mul_right this (by norm_num)
  simp only [bitLen, if_neg hn0]
  have upper := (Nat.log2_lt hn0).mpr hlt
  have lower := (Nat.le_log2 hn0).mpr hge
  omega

/-! ## Diffie–Hellman parameters -/

/-- `DHParams`: the prime, generator and server public value of a DHE key exchange, each a
`*big.Int` (`none` is a nil pointer). -/
structure DHParams where
  p : Option Nat
  g : Option Nat
  ys : Option Nat
  deriving DecidableEq, Repr

/-- One block of `(*DHParams).unmarshal`: a 16-bit big-endian length, then that many bytes,
returned with what follows them. The outer `none` is a Go panic; `some none` is the method's
`return false`. -/
def readPrefixed (buf : Bytes) : Option (Option (Bytes × Bytes)) :=
  if buf.length < 2 then some none else do
    let length ← beUint16 buf
    let buf ← sliceFrom buf 2
    if buf.length < length then some none else do
      let field ← sliceTo buf length
      let buf ← sliceFrom buf length
      some (some (field, buf))

/-- `(*DHParams).unmarshal(buf)`: the result, and the receiver as the method leaves it. Each
integer is stored as soon as it is read, so a later failure leaves the earlier ones set. -/
def DHParams.unmarshal (params : DHParams) (buf : Bytes) : Option (Bool × DHParams) := do
  let some (pBytes, buf) ← readPrefixed buf | some (false, params)
  let params := { params with p := some (bigEndian pBytes) }
  let some (gBytes, buf) ← readPrefixed buf | some (false, params)
  let params := { params with g := some (bigEndian gBytes) }
  let some (ysBytes, _) ← readPrefixed buf | some (false, params)
  some (true, { params with ys := some (bigEndian ysBytes) })

/-- `buf` is three 16-bit length-prefixed fields `p`, `g`, `ys` followed by `rest`. -/
def DHWire (p g ys rest buf : Bytes) : Prop :=
  p.length < 65536 ∧ g.length < 65536 ∧ ys.length < 65536 ∧
    buf = be16 p.length ++ (p ++ (be16 g.length ++ (g ++ (be16 ys.length ++ (ys ++ rest)))))

/-- On two or more bytes, `readPrefixed` in closed form. -/
theorem readPrefixed_cons (b0 b1 : UInt8) (t : Bytes) :
    readPrefixed (b0 :: b1 :: t) =
      if t.length < b0.toNat * 256 + b1.toNat then some none
      else some (some (t.take (b0.toNat * 256 + b1.toNat),
        t.drop (b0.toNat * 256 + b1.toNat))) := by
  simp only [readPrefixed, List.length_cons, beUint16, Option.bind_eq_bind, Option.some_bind]
  rw [if_neg (by omega), sliceFrom_of_le (by simp)]
  simp only [Option.some_bind, List.drop_succ_cons, List.drop_zero]
  split
  · rfl
  · rw [sliceTo_of_le (by omega), sliceFrom_of_le (by omega)]
    rfl

theorem readPrefixed_exists (buf : Bytes) : ∃ r, readPrefixed buf = some r := by
  match buf with
  | b0 :: b1 :: t => rw [readPrefixed_cons]; split <;> exact ⟨_, rfl⟩
  | [] => exact ⟨_, rfl⟩
  | [_] => exact ⟨_, rfl⟩

theorem readPrefixed_prefixed {field rest : Bytes} (h : field.length < 65536) :
    readPrefixed (be16 field.length ++ (field ++ rest)) = some (some (field, rest)) := by
  have body : sliceFrom (be16 field.length ++ (field ++ rest)) 2 = some (field ++ rest) :=
    (sliceFrom_of_le (by simp)).trans (congrArg some (List.drop_left' (length_be16 _)))
  simp [readPrefixed, beUint16_be16 _ h, body, sliceTo_of_le, sliceFrom_of_le]

theorem readPrefixed_eq_some {buf field rest : Bytes}
    (h : readPrefixed buf = some (some (field, rest))) :
    field.length < 65536 ∧ buf = be16 field.length ++ (field ++ rest) := by
  match buf, h with
  | b0 :: b1 :: t, h =>
    rw [readPrefixed_cons] at h
    split at h
    · cases h
    · simp only [Option.some.injEq, Prod.mk.injEq] at h
      obtain ⟨rfl, rfl⟩ := h
      have hb0 := b0.toNat_lt_size
      have hb1 := b1.toNat_lt_size
      rw [List.length_take, Nat.min_eq_left (by omega), be16_beUint16]
      exact ⟨by simp [UInt8.size] at *; omega, by simp⟩

/-- `unmarshal` never panics, and it accepts only after reading all three blocks. -/
theorem unmarshal_cases (params : DHParams) (buf : Bytes) :
    ∃ ok q, params.unmarshal buf = some (ok, q) ∧
      (ok = true → ∃ pBytes gBytes ysBytes buf1 buf2 rest,
        readPrefixed buf = some (some (pBytes, buf1)) ∧
        readPrefixed buf1 = some (some (gBytes, buf2)) ∧
        readPrefixed buf2 = some (some (ysBytes, rest))) := by
  obtain ⟨r1, h1⟩ := readPrefixed_exists buf
  rcases r1 with _ | ⟨pBytes, buf1⟩
  · -- the prime's block is cut short
    refine ⟨false, params, ?_, nofun⟩
    simp only [DHParams.unmarshal, h1, Option.bind_eq_bind, Option.some_bind]
  obtain ⟨r2, h2⟩ := readPrefixed_exists buf1
  rcases r2 with _ | ⟨gBytes, buf2⟩
  · -- the generator's block is cut short
    refine ⟨false, { params with p := some (bigEndian pBytes) }, ?_, nofun⟩
    simp only [DHParams.unmarshal, h1, h2, Option.bind_eq_bind, Option.some_bind]
  obtain ⟨r3, h3⟩ := readPrefixed_exists buf2
  rcases r3 with _ | ⟨ysBytes, rest⟩
  · -- the public value's block is cut short
    refine ⟨false, { params with p := some (bigEndian pBytes), g := some (bigEndian gBytes) }, ?_,
      nofun⟩
    simp only [DHParams.unmarshal, h1, h2, h3, Option.bind_eq_bind, Option.some_bind]
  · refine ⟨true,
      ⟨some (bigEndian pBytes), some (bigEndian gBytes), some (bigEndian ysBytes)⟩, ?_,
      fun _ => ⟨pBytes, gBytes, ysBytes, buf1, buf2, rest, h1, h2, h3⟩⟩
    simp only [DHParams.unmarshal, h1, h2, h3, Option.bind_eq_bind, Option.some_bind]

theorem unmarshal_exists (params : DHParams) (buf : Bytes) :
    ∃ r, params.unmarshal buf = some r :=
  let ⟨_, _, h, _⟩ := unmarshal_cases params buf
  ⟨_, h⟩

theorem unmarshal_dhWire (params : DHParams) {p g ys rest buf : Bytes}
    (h : DHWire p g ys rest buf) :
    params.unmarshal buf =
      some (true, ⟨some (bigEndian p), some (bigEndian g), some (bigEndian ys)⟩) := by
  obtain ⟨hp, hg, hys, rfl⟩ := h
  simp only [DHParams.unmarshal, readPrefixed_prefixed hp, readPrefixed_prefixed hg,
    readPrefixed_prefixed hys, Option.bind_eq_bind, Option.some_bind]

theorem unmarshal_eq_true {params q : DHParams} {buf : Bytes}
    (h : params.unmarshal buf = some (true, q)) : ∃ p g ys rest, DHWire p g ys rest buf := by
  obtain ⟨ok, q', h', blocks⟩ := unmarshal_cases params buf
  rw [h] at h'
  obtain ⟨pBytes, gBytes, ysBytes, _, _, rest, h1, h2, h3⟩ :=
    blocks (Prod.mk.inj (Option.some.inj h')).1.symm
  obtain ⟨hp, rfl⟩ := readPrefixed_eq_some h1
  obtain ⟨hg, rfl⟩ := readPrefixed_eq_some h2
  obtain ⟨hys, rfl⟩ := readPrefixed_eq_some h3
  exact ⟨pBytes, gBytes, ysBytes, rest, hp, hg, hys, rfl⟩

/-- The layout is unambiguous: each length prefix fixes where its field ends. -/
theorem dhWire_unique {p g ys rest p' g' ys' rest' buf : Bytes}
    (h : DHWire p g ys rest buf) (h' : DHWire p' g' ys' rest' buf) :
    p = p' ∧ g = g' ∧ ys = ys' ∧ rest = rest' := by
  obtain ⟨hp, hg, hys, rfl⟩ := h
  obtain ⟨hp', hg', hys', e⟩ := h'
  have e1 := (readPrefixed_prefixed hp).symm.trans (e ▸ readPrefixed_prefixed hp')
  simp only [Option.some.injEq, Prod.mk.injEq] at e1
  obtain ⟨rfl, e1⟩ := e1
  have e2 := (readPrefixed_prefixed hg).symm.trans (e1 ▸ readPrefixed_prefixed hg')
  simp only [Option.some.injEq, Prod.mk.injEq] at e2
  obtain ⟨rfl, e2⟩ := e2
  have e3 := (readPrefixed_prefixed hys).symm.trans (e2 ▸ readPrefixed_prefixed hys')
  simp only [Option.some.injEq, Prod.mk.injEq] at e3
  exact ⟨rfl, rfl, e3⟩

/-- **DHE parameter decoding.** `unmarshal` never panics; it returns `true` exactly on buffers
made of three 16-bit length-prefixed fields and a suffix, a layout then unique, and leaves the
receiver holding the three big-endian values. -/
theorem unmarshal_accepts_iff (params : DHParams) (buf : Bytes) :
    (∃ r, params.unmarshal buf = some r) ∧
    ∀ ok q, params.unmarshal buf = some (ok, q) →
      (ok = true ↔ ∃ p g ys rest, DHWire p g ys rest buf) ∧
      ∀ p g ys rest, DHWire p g ys rest buf →
        q = ⟨some (bigEndian p), some (bigEndian g), some (bigEndian ys)⟩ ∧
        ∀ p' g' ys' rest', DHWire p' g' ys' rest' buf →
          p' = p ∧ g' = g ∧ ys' = ys ∧ rest' = rest := by
  refine ⟨unmarshal_exists params buf,
    fun ok q h => ⟨⟨?_, ?_⟩, fun p g ys rest hw => ?_⟩⟩
  · rintro rfl
    exact unmarshal_eq_true h
  · rintro ⟨p, g, ys, rest, hw⟩
    rw [unmarshal_dhWire params hw] at h
    exact (Prod.mk.inj (Option.some.inj h)).1.symm
  · rw [unmarshal_dhWire params hw] at h
    exact ⟨(Prod.mk.inj (Option.some.inj h)).2.symm,
      fun p' g' ys' rest' hw' => dhWire_unique hw' hw⟩

/-- The object `(*DHParams).MarshalJSON` hands to `json.Marshal`. -/
structure DHParamsJSON where
  prime : Bytes
  primeLength : Nat
  generator : Bytes
  publicExponent : Bytes
  deriving DecidableEq, Repr

/-- `(*DHParams).MarshalJSON`, up to `json.Marshal`; `none` is the nil-pointer panic of calling
`Bytes` or `BitLen` on an absent integer. -/
def DHParams.marshalJSON (params : DHParams) : Option DHParamsJSON := do
  let p ← params.p
  let g ← params.g
  let ys ← params.ys
  some ⟨natBytes p, bitLen p, natBytes g, natBytes ys⟩

theorem marshalJSON_isSome_iff (params : DHParams) :
    params.marshalJSON.isSome ↔ params.p.isSome ∧ params.g.isSome ∧ params.ys.isSome := by
  rcases params with ⟨_ | p, _ | g, _ | ys⟩ <;> simp [DHParams.marshalJSON]

/-- Serialising decoded parameters loses nothing: each field reads back to its integer. -/
theorem marshalJSON_bigEndian {params : DHParams} {j : DHParamsJSON}
    (h : params.marshalJSON = some j) :
    params.p = some (bigEndian j.prime) ∧ params.g = some (bigEndian j.generator) ∧
      params.ys = some (bigEndian j.publicExponent) := by
  rcases params with ⟨_ | p, _ | g, _ | ys⟩ <;> simp [DHParams.marshalJSON] at h
  subst h
  simp [bigEndian_natBytes]

/-- **Decode, then log.** Whatever buffer `unmarshal` accepts, the JSON of the decoded receiver
holds the three wire fields with their leading zero bytes stripped, and a prime length that
ends in the prime's last byte. -/
theorem marshalJSON_unmarshal {params q : DHParams} {buf : Bytes}
    (h : params.unmarshal buf = some (true, q)) :
    ∃ p g ys rest j, DHWire p g ys rest buf ∧ q.marshalJSON = some j ∧
      j.prime = p.dropWhile (· == 0) ∧ j.generator = g.dropWhile (· == 0) ∧
      j.publicExponent = ys.dropWhile (· == 0) ∧
      j.primeLength ≤ 8 * j.prime.length ∧ 8 * j.prime.length < j.primeLength + 8 := by
  obtain ⟨p, g, ys, rest, hw⟩ := unmarshal_eq_true h
  rw [unmarshal_dhWire params hw] at h
  cases (Prod.mk.inj (Option.some.inj h)).2
  exact ⟨p, g, ys, rest, _, hw, rfl, natBytes_bigEndian p, natBytes_bigEndian g,
    natBytes_bigEndian ys, bitLen_natBytes _⟩

/-- A prime sent as `00 17` is logged as the single byte `17`. -/
theorem marshalJSON_unmarshal_padded_prime :
    (⟨none, none, none⟩ : DHParams).unmarshal [0, 2, 0, 23, 0, 1, 2, 0, 1, 5] =
        some (true, ⟨some 23, some 2, some 5⟩) ∧
      ∃ p g ys rest j, DHWire p g ys rest [0, 2, 0, 23, 0, 1, 2, 0, 1, 5] ∧
        (⟨some 23, some 2, some 5⟩ : DHParams).marshalJSON = some j ∧
        j.prime = p.dropWhile (· == 0) ∧ j.generator = g.dropWhile (· == 0) ∧
        j.publicExponent = ys.dropWhile (· == 0) ∧
        j.primeLength ≤ 8 * j.prime.length ∧ 8 * j.prime.length < j.primeLength + 8 :=
  ⟨rfl, @marshalJSON_unmarshal ⟨none, none, none⟩ _ _ rfl⟩

/-! ## Export RSA parameters -/

/-- `rsaExportParams`: the raw modulus and exponent bytes of an export-RSA key exchange. -/
structure rsaExportParams where
  rawModulus : Bytes
  rawExponent : Bytes
  deriving DecidableEq, Repr

/-- `rsa.PublicKey`. -/
structure PublicKey where
  n : Nat
  e : Int
  deriving DecidableEq, Repr

/-- `RSAExportParams`, the logged form of the export-RSA parameters. -/
structure RSAExportParams where
  publicKey : PublicKey
  modulus : Bytes
  exponent : UInt32
  length : Nat
  deriving DecidableEq, Repr

/-- `(*rsaExportParams).MakeLog`. -/
def rsaExportParams.makeLog (params : rsaExportParams) : RSAExportParams :=
  let exponent : UInt32 := params.rawExponent.foldl (fun e b => (e <<< 8) ||| b.toUInt32) 0
  let modulus := bigEndian params.rawModulus
  { publicKey := ⟨modulus, exponent.toNat⟩
    modulus := natBytes modulus
    exponent := exponent
    length := bitLen modulus }

/-- One turn of the exponent loop: `exponent <<= 8; exponent |= uint32(b)`. -/
theorem shiftLeft_or_toNat (e : UInt32) (b : UInt8) :
    ((e <<< 8) ||| b.toUInt32).toNat = (e.toNat * 256 + b.toNat) % 2 ^ 32 := by
  have hb : b.toNat < 2 ^ 8 := b.toNat_lt_size
  show (e.toBitVec <<< (8 : UInt32).toBitVec ||| b.toUInt32.toBitVec).toNat = _
  rw [BitVec.shiftLeft_eq', BitVec.toNat_or, BitVec.toNat_shiftLeft]
  show (e.toNat <<< 8) % 2 ^ 32 ||| b.toNat = _
  rw [Nat.shiftLeft_eq, show (e.toNat * 2 ^ 8) % 2 ^ 32 = 2 ^ 8 * (e.toNat % 2 ^ 24) by omega,
    ← Nat.mul_add_lt_is_or hb]
  omega

/-- The whole exponent loop, from any starting value. -/
theorem foldl_shiftLeft_or_toNat (bs : Bytes) (e : UInt32) :
    (bs.foldl (fun (e : UInt32) (b : UInt8) => (e <<< 8) ||| b.toUInt32) e).toNat =
      (e.toNat * 256 ^ bs.length + bigEndian bs) % 2 ^ 32 := by
  induction bs generalizing e with
  | nil => simp [Nat.mod_eq_of_lt e.toNat_lt_size]
  | cons b bs ih =>
    rw [List.foldl_cons, ih, shiftLeft_or_toNat, bigEndian_cons, List.length_cons, Nat.pow_succ]
    rw [Nat.add_mod, Nat.mul_mod, Nat.mod_mod, ← Nat.mul_mod, ← Nat.add_mod]
    congr 1
    ring

/-- The big-endian value as the positional sum `Σ b[i] * 256^(len - 1 - i)`. -/
theorem bigEndian_eq_sum (bs : Bytes) :
    bigEndian bs = ∑ i : Fin bs.length, (bs.get i).toNat * 256 ^ (bs.length - 1 - i) := by
  induction bs with
  | nil => rfl
  | cons b bs ih =>
    show _ = ∑ i : Fin (bs.length + 1), ((b :: bs).get i).toNat * 256 ^ (bs.length + 1 - 1 - i)
    rw [Fin.sum_univ_succ, bigEndian_cons, ih]
    simp [Nat.sub_sub, Nat.add_comm 1]

/-- **Export exponent.** `MakeLog` stores the raw exponent's big-endian value modulo `2^32`
(so exactly that value when it is below `2^32`, leading zero bytes or not), repeats it as the
public key's `E`, and takes the modulus's big-endian value as `N`. -/
theorem makeLog_exponent (params : rsaExportParams) :
    params.makeLog.exponent.toNat =
      (∑ i : Fin params.rawExponent.length,
        (params.rawExponent.get i).toNat * 256 ^ (params.rawExponent.length - 1 - i)) % 2 ^ 32 ∧
    (bigEndian params.rawExponent < 2 ^ 32 →
      params.makeLog.exponent.toNat = bigEndian params.rawExponent) ∧
    params.makeLog.publicKey.e = params.makeLog.exponent.toNat ∧
    params.makeLog.publicKey.n = bigEndian params.rawModulus := by
  have hexp : params.makeLog.exponent.toNat = bigEndian params.rawExponent % 2 ^ 32 := by
    simp [rsaExportParams.makeLog, foldl_shiftLeft_or_toNat]
  exact ⟨hexp.trans (by rw [bigEndian_eq_sum]), fun hlt => hexp.trans (Nat.mod_eq_of_lt hlt),
    rfl, rfl⟩

/-- **Export modulus.** `MakeLog` logs the raw modulus without its leading zero bytes, as the
bytes of the public key's `N`, with a bit length that ends in the last of those bytes. -/
theorem makeLog_modulus (params : rsaExportParams) :
    params.makeLog.modulus = params.rawModulus.dropWhile (· == 0) ∧
      bigEndian params.makeLog.modulus = params.makeLog.publicKey.n ∧
      params.makeLog.length ≤ 8 * params.makeLog.modulus.length ∧
      8 * params.makeLog.modulus.length < params.makeLog.length + 8 :=
  ⟨natBytes_bigEndian _, bigEndian_natBytes _, bitLen_natBytes _⟩

/-! ## Export signature algorithms -/

/-- `ExportSignatureAlgorithm`: a hash id in the high byte, a signature algorithm id in the
low byte. -/
abbrev ExportSignatureAlgorithm := UInt16

/-- `exportHashes`. -/
def exportHashes : List String := ["MD5", "SHA-1", "SHA-224", "SHA-256", "SHA-384", "SHA-512"]

/-- `exportAlgorithms`. -/
def exportAlgorithms : List String := ["anon", "RSA", "DSA", "ECDSA"]

/-- The object `(*ExportSignatureAlgorithm).MarshalJSON` hands to `json.Marshal`; an empty name
is left out of the JSON (`omitempty`). -/
structure ExportSignatureAlgorithmJSON where
  value : UInt16
  hashName : String
  hashID : Nat
  algName : String
  algID : Nat
  deriving DecidableEq, Repr

/-- `(*ExportSignatureAlgorithm).MarshalJSON`, up to `json.Marshal`. -/
def ExportSignatureAlgorithm.marshalJSON (esa : ExportSignatureAlgorithm) :
    ExportSignatureAlgorithmJSON :=
  let value : UInt16 := esa
  let hash := (value >>> 8).toUInt8.toNat
  let alg := value.toUInt8.toNat
  { value := value
    hashName := if h : hash < exportHashes.length then exportHashes[hash] else ""
    hashID := hash
    algName := if h : alg < exportAlgorithms.length then exportAlgorithms[alg] else ""
    algID := alg }

theorem toNat_shiftRight_8_toUInt8 (v : UInt16) : (v >>> 8).toUInt8.toNat = v.toNat / 256 := by
  have hv : v.toNat < 65536 := v.toNat_lt_size
  show ((v.toBitVec >>> (8 : UInt16).toBitVec).toNat) % 256 = _
  rw [BitVec.ushiftRight_eq', BitVec.toNat_ushiftRight]
  show (v.toNat >>> 8) % 256 = _
  rw [Nat.shiftRight_eq_div_pow]
  omega

/-- The two ids determine the value, and an id past the end of its table gets an empty name
rather than a panic. -/
theorem marshalJSON_ids (esa : ExportSignatureAlgorithm) :
    esa.marshalJSON.hashID * 256 + esa.marshalJSON.algID = esa.toNat ∧
    esa.marshalJSON.value = esa ∧
    (exportHashes.length ≤ esa.marshalJSON.hashID → esa.marshalJSON.hashName = "") ∧
    (exportAlgorithms.length ≤ esa.marshalJSON.algID → esa.marshalJSON.algName = "") := by
  refine ⟨?_, rfl, fun h => dif_neg (Nat.not_lt.mpr h), fun h => dif_neg (Nat.not_lt.mpr h)⟩
  show (esa >>> 8).toUInt8.toNat * 256 + esa.toNat % 256 = _
  rw [toNat_shiftRight_8_toUInt8]
  omega

end TlsBannerGrab.Ztls
