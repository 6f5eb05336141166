import Mathlib.Data.Nat.Digits.Lemmas

/-!
# Natural numbers as big-endian bytes

`ofBytes` reads a byte string as a number, and `toBytes` writes a number
without leading zero bytes, so zero is the empty string.  The length of
`toBytes n` is the only thing that depends on the size of `n`.

Byte strings of one length are the numbers below a power of 256, and a
concatenation reads as a quotient and a remainder by such a power.
-/

namespace OneInfra.Lib.BigEndian

/-- The number that a byte string writes in base 256. -/
def ofBytes (bytes : List UInt8) : Nat :=
  bytes.foldl (fun n b => n * 256 + b.toNat) 0

/-- The bytes of a number, the most significant one first. -/
def toBytes (n : Nat) : List UInt8 :=
  ((Nat.digits 256 n).map UInt8.ofNat).reverse

theorem length_toBytes_le_iff (n k : Nat) : (toBytes n).length ≤ k ↔ n < 256 ^ k := by
  rw [toBytes, List.length_reverse, List.length_map]
  exact Nat.digits_length_le_iff (by decide) n

/-! ## The value of a byte string -/

theorem ofBytes_concat (bytes : List UInt8) (b : UInt8) :
    ofBytes (bytes ++ [b]) = ofBytes bytes * 256 + b.toNat := by
  simp [ofBytes]

theorem ofBytes_append (bytes bytes' : List UInt8) :
    ofBytes (bytes ++ bytes') = ofBytes bytes * 256 ^ bytes'.length + ofBytes bytes' := by
  induction bytes' using List.reverseRecOn with
  | nil => simp [ofBytes]
  | append_singleton bytes' b ih =>
    rw [← List.append_assoc, ofBytes_concat, ih, ofBytes_concat, List.length_append,
      List.length_singleton]
    ring

theorem ofBytes_lt (bytes : List UInt8) : ofBytes bytes < 256 ^ bytes.length := by
  induction bytes using List.reverseRecOn with
  | nil => simp [ofBytes]
  | append_singleton bytes b ih =>
    have hb := b.toNat_lt
    rw [ofBytes_concat, List.length_append, List.length_singleton, pow_succ]
    omega

/-- Two byte strings of one length with one value are equal. -/
theorem ofBytes_inj {bytes bytes' : List UInt8} (hlen : bytes.length = bytes'.length)
    (hvalue : ofBytes bytes = ofBytes bytes') : bytes = bytes' := by
  induction bytes using List.reverseRecOn generalizing bytes' with
  | nil => exact (List.length_eq_zero_iff.mp hlen.symm).symm
  | append_singleton bytes b ih =>
    cases bytes' using List.reverseRecOn with
    | nil => simp at hlen
    | append_singleton bytes' b' =>
      have hb := b.toNat_lt
      have hb' := b'.toNat_lt
      rw [ofBytes_concat, ofBytes_concat] at hvalue
      have hlast : b = b' := by
        apply UInt8.toNat_inj.mp
        omega
      have hinit : bytes = bytes' := by
        apply ih
        · simpa using hlen
        · omega
      rw [hinit, hlast]

theorem ofBytes_toBytes (n : Nat) : ofBytes (toBytes n) = n := by
  have hdigits : ∀ digits : List Nat, (∀ d ∈ digits, d < 256) →
      ofBytes ((digits.map UInt8.ofNat).reverse) = Nat.ofDigits 256 digits := by
    intro digits
    induction digits with
    | nil => intro _; rfl
    | cons d digits ih =>
      intro hsmall
      have hd := hsmall d List.mem_cons_self
      rw [List.map_cons, List.reverse_cons, ofBytes_concat,
        ih fun d' hd' => hsmall d' (List.mem_cons_of_mem _ hd'), Nat.ofDigits_cons,
        UInt8.toNat_ofNat_of_lt' hd]
      omega
  rw [toBytes, hdigits _ fun d hd => Nat.digits_lt_base (by decide) hd, Nat.ofDigits_digits]

/-- The last bytes of a string are the value modulo a power. -/
theorem ofBytes_drop (bytes : List UInt8) (k : Nat) :
    ofBytes (bytes.drop k) = ofBytes bytes % 256 ^ (bytes.length - k) := by
  have hsplit := ofBytes_append (bytes.take k) (bytes.drop k)
  rw [List.take_append_drop, List.length_drop] at hsplit
  have hlt := ofBytes_lt (bytes.drop k)
  rw [List.length_drop] at hlt
  rw [hsplit, Nat.mul_add_mod', Nat.mod_eq_of_lt hlt]

/-- A number between two powers has as many bytes as the larger power. -/
theorem length_toBytes_eq_succ_iff (n k : Nat) :
    (toBytes n).length = k + 1 ↔ 256 ^ k ≤ n ∧ n < 256 ^ (k + 1) := by
  have hle := length_toBytes_le_iff n (k + 1)
  have hlt := length_toBytes_le_iff n k
  constructor
  · intro h
    constructor
    · by_contra hsmall
      have := hlt.mpr (by omega)
      omega
    · exact hle.mp (by omega)
  · intro ⟨hlow, hhigh⟩
    have h₁ := hle.mpr hhigh
    have h₂ : ¬ (toBytes n).length ≤ k := by
      intro h
      have := hlt.mp h
      omega
    omega

end OneInfra.Lib.BigEndian
