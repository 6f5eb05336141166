import OneInfra.Lib.BigEndian

/-!
# Masks of leading ones

`leadingOnes ones len` is the byte string of length `len` whose first `ones` bits are set.
A byte string and such a mask, bit by bit, is the string with its last bits cleared: the
value rounded down to a multiple of a power of two.
-/

namespace OneInfra.Lib

open BigEndian

/-- A mask with `ones` leading ones, of `len` bytes. -/
def leadingOnes (ones len : Nat) : List UInt8 :=
  (List.range len).map fun i => UInt8.ofNat (0xff - 0xff >>> min 8 (ones - 8 * i))

/-- A byte string with a mask. -/
def maskBytes (mask bytes : List UInt8) : List UInt8 :=
  List.zipWith (· &&& ·) bytes mask

@[simp]
theorem length_leadingOnes (ones len : Nat) : (leadingOnes ones len).length = len := by
  simp [leadingOnes]

theorem leadingOnes_succ (ones len : Nat) :
    leadingOnes ones (len + 1) =
      leadingOnes ones len ++ [UInt8.ofNat (0xff - 0xff >>> min 8 (ones - 8 * len))] := by
  simp [leadingOnes, List.range_succ]

/-- The last bytes of a mask are a mask. -/
theorem drop_leadingOnes (ones k len : Nat) :
    (leadingOnes ones (k + len)).drop k = leadingOnes (ones - 8 * k) len := by
  unfold leadingOnes
  rw [List.range_add, List.map_append, List.drop_left' (by simp), List.map_map]
  apply List.map_congr_left
  intro i _
  show UInt8.ofNat (0xff - 0xff >>> min 8 (ones - 8 * (k + i))) = _
  rw [show ones - 8 * (k + i) = ones - 8 * k - 8 * i by omega]

/-- One byte under a mask with `k` leading ones. -/
theorem toNat_and_leadingOnes (b : UInt8) {k : Nat} (hk : k ≤ 8) :
    (b &&& UInt8.ofNat (0xff - 0xff >>> k)).toNat = b.toNat / 2 ^ (8 - k) * 2 ^ (8 - k) := by
  have hall : ∀ k < 9, ∀ n < 256, (UInt8.ofNat n &&& UInt8.ofNat (0xff - 0xff >>> k)).toNat =
      n / 2 ^ (8 - k) * 2 ^ (8 - k) := by decide +kernel
  have h := hall k (by omega) b.toNat b.toNat_lt
  rwa [UInt8.ofNat_toNat] at h

/-- A mask of leading ones clears the last bits. -/
theorem ofBytes_maskBytes (ones : Nat) (bytes : List UInt8) :
    ofBytes (maskBytes (leadingOnes ones bytes.length) bytes) =
      ofBytes bytes / 2 ^ (8 * bytes.length - ones) * 2 ^ (8 * bytes.length - ones) := by
  -- by the last byte, whose mask is zero unless all bytes before it are kept
  induction bytes using List.reverseRecOn with
  | nil => simp [maskBytes, ofBytes, leadingOnes]
  | append_singleton bytes b ih =>
    have hmask : maskBytes (leadingOnes ones (bytes ++ [b]).length) (bytes ++ [b]) =
        maskBytes (leadingOnes ones bytes.length) bytes ++
          [b &&& UInt8.ofNat (0xff - 0xff >>> min 8 (ones - 8 * bytes.length))] := by
      unfold maskBytes
      rw [List.length_append, List.length_singleton, leadingOnes_succ,
        List.zipWith_append (by simp)]
      rfl
    rw [hmask, ofBytes_concat, ofBytes_concat, ih, toNat_and_leadingOnes b (by omega),
      List.length_append, List.length_singleton]
    have hb := b.toNat_lt
    by_cases hones : ones ≤ 8 * bytes.length
    · have hlast : min 8 (ones - 8 * bytes.length) = 0 := by omega
      have hbits : 8 * (bytes.length + 1) - ones = 8 + (8 * bytes.length - ones) := by omega
      have hquotient : (ofBytes bytes * 256 + b.toNat) / 2 ^ 8 = ofBytes bytes := by omega
      rw [hlast, hbits, pow_add, ← Nat.div_div_eq_div_mul, hquotient, Nat.div_eq_of_lt hb]
      ring
    · have hinit : 8 * bytes.length - ones = 0 := by omega
      have hlast : 8 - min 8 (ones - 8 * bytes.length) = 8 * (bytes.length + 1) - ones := by omega
      rw [hinit, hlast, pow_zero]
      generalize hbits : 8 * (bytes.length + 1) - ones = bits
      have hsmall : bits < 8 := by omega
      interval_cases bits <;> omega

/-- Two byte strings agree under a mask of leading ones if their values do after the last
bits. -/
theorem maskBytes_eq_iff {ones : Nat} {bytes bytes' : List UInt8}
    (hlen : bytes.length = bytes'.length) :
    maskBytes (leadingOnes ones bytes.length) bytes =
        maskBytes (leadingOnes ones bytes.length) bytes' ↔
      ofBytes bytes / 2 ^ (8 * bytes.length - ones) =
        ofBytes bytes' / 2 ^ (8 * bytes.length - ones) := by
  have hvalue := ofBytes_maskBytes ones bytes
  have hvalue' := ofBytes_maskBytes ones bytes'
  rw [← hlen] at hvalue'
  have hpos : 0 < 2 ^ (8 * bytes.length - ones) := Nat.two_pow_pos _
  constructor
  · intro h
    rw [h, hvalue'] at hvalue
    exact (Nat.eq_of_mul_eq_mul_right hpos hvalue).symm
  · intro h
    apply ofBytes_inj
    · simp [maskBytes, hlen]
    · rw [hvalue, hvalue', h]

/-- A mask keeps the byte strings whose last bits are zero. -/
theorem maskBytes_eq_self {ones : Nat} {bytes : List UInt8}
    (hdvd : 2 ^ (8 * bytes.length - ones) ∣ ofBytes bytes) :
    maskBytes (leadingOnes ones bytes.length) bytes = bytes := by
  apply ofBytes_inj
  · simp [maskBytes]
  · rw [ofBytes_maskBytes, Nat.div_mul_cancel hdvd]

/-- A mask has its number of leading ones. -/
theorem leadingOnes_inj {ones ones' len : Nat} (hle : ones ≤ 8 * len) (hle' : ones' ≤ 8 * len)
    (h : leadingOnes ones len = leadingOnes ones' len) : ones = ones' := by
  induction len with
  | zero => omega
  | succ len ih =>
    have hbyte : ∀ k < 9, ∀ k' < 9,
        UInt8.ofNat (0xff - 0xff >>> k) = UInt8.ofNat (0xff - 0xff >>> k') → k = k' := by
      decide +kernel
    rw [leadingOnes_succ, leadingOnes_succ] at h
    obtain ⟨hinit, hlast⟩ := List.append_inj' h rfl
    have hlast' : min 8 (ones - 8 * len) = min 8 (ones' - 8 * len) :=
      hbyte _ (by omega) _ (by omega) (List.cons.inj hlast).1
    by_cases hsmall : ones ≤ 8 * len
    · exact ih hsmall (by omega) hinit
    · omega

end OneInfra.Lib
