import OneInfra.Cluster.VPN
import OneInfra.Lib.LeadingOnes

/-!
# Networks by numbers

A network of the package `net` is a list of bytes with a mask.  `IPNet.Parsed` says what
`net.ParseCIDR` returns: an address of four or sixteen bytes and a mask of leading ones that
keeps the address.

`contains_iff` reads `IPNet.Contains` as a statement on numbers.  An address of sixteen bytes
that is an IPv4 address is compared by its last four bytes, on both sides.
`Parsed.ipv4` and `Parsed.ipv6` are the two forms of a network in that comparison.
-/

namespace OneInfra

open Lib BigEndian

/-- Adding to a multiple of `m` keeps the quotient if and only if less than `m` is added. -/
theorem add_div_eq_div_iff {a k m : Nat} (hpos : 0 < m) (hdvd : m ∣ a) :
    (a + k) / m = a / m ↔ k < m := by
  obtain ⟨q, rfl⟩ := hdvd
  rw [Nat.mul_add_div hpos, Nat.mul_div_cancel_left q hpos, Nat.add_eq_left,
    Nat.div_eq_zero_iff_lt hpos]

/-- A multiple of a power of two and all numbers up to the next one are below a larger power. -/
theorem add_pow_le {a bits size : Nat} (hdvd : 2 ^ bits ∣ a) (hlt : a < 2 ^ size)
    (hbits : bits ≤ size) : a + 2 ^ bits ≤ 2 ^ size := by
  obtain ⟨q, rfl⟩ := hdvd
  obtain ⟨r, rfl⟩ := Nat.exists_eq_add_of_le hbits
  rw [pow_add] at hlt ⊢
  have hq : q < 2 ^ r := Nat.lt_of_mul_lt_mul_left hlt
  calc 2 ^ bits * q + 2 ^ bits = 2 ^ bits * (q + 1) := by ring
    _ ≤ 2 ^ bits * 2 ^ r := Nat.mul_le_mul_left _ hq

/-! ## The two forms of an address -/

theorem to4_eq_some_iff {ip number : List UInt8} :
    to4 ip = some number ↔ number.length = 4 ∧ (ip = number ∨ ip = v4InV6Prefix ++ number) := by
  unfold to4
  split_ifs with hfour hsixteen
  · rw [Option.some_inj]
    constructor
    · intro h
      rw [← h]
      exact ⟨hfour, .inl rfl⟩
    · intro ⟨hlen, h⟩
      rcases h with h | h
      · exact h
      · rw [h, List.length_append, hlen] at hfour
        cases hfour
  · have hsplit : ip = v4InV6Prefix ++ ip.drop 12 := by
      rw [← hsixteen.2, List.take_append_drop]
    rw [Option.some_inj]
    constructor
    · intro h
      rw [h] at hsplit
      refine ⟨?_, .inr hsplit⟩
      rw [← h, List.length_drop, hsixteen.1]
    · intro ⟨hlen, h⟩
      rcases h with h | h
      · rw [h] at hfour
        exact absurd hlen hfour
      · rw [h]
        rfl
  · simp only [false_iff]
    intro ⟨hlen, h⟩
    rcases h with h | h
    · rw [h] at hfour
      exact hfour hlen
    · rw [h] at hsixteen
      apply hsixteen
      constructor
      · rw [List.length_append, hlen]
        rfl
      · rfl

/-- An IPv4 address in its 16-byte form. -/
theorem ofBytes_v4InV6Prefix {number : List UInt8} (hlen : number.length = 4) :
    ofBytes (v4InV6Prefix ++ number) = 0xffff * 2 ^ 32 + ofBytes number := by
  rw [ofBytes_append, hlen]
  rfl

namespace IPNet

/-- The network that `net.ParseCIDR` returns for a mask of `ones` leading ones. -/
structure Parsed (n : IPNet) (ones : Nat) : Prop where
  length : n.ip.length = 4 ∨ n.ip.length = 16
  ones_le : ones ≤ 8 * n.ip.length
  mask : n.mask = leadingOnes ones n.ip.length
  masked : maskBytes n.mask n.ip = n.ip

instance (n : IPNet) (ones : Nat) : Decidable (n.Parsed ones) :=
  decidable_of_iff (((n.ip.length = 4 ∨ n.ip.length = 16) ∧ ones ≤ 8 * n.ip.length) ∧
      n.mask = leadingOnes ones n.ip.length ∧ maskBytes n.mask n.ip = n.ip)
    ⟨fun h => ⟨h.1.1, h.1.2, h.2.1, h.2.2⟩, fun h => ⟨⟨h.length, h.ones_le⟩, h.mask, h.masked⟩⟩

/-- The number of bits that the mask leaves open.  The network has the addresses from its
number on, `2 ^ hostBits` of them. -/
def hostBits (n : IPNet) (ones : Nat) : Nat := 8 * n.ip.length - ones

variable {n : IPNet} {ones : Nat}

theorem Parsed.dvd (h : n.Parsed ones) : 2 ^ n.hostBits ones ∣ ofBytes n.ip := by
  have hvalue := ofBytes_maskBytes ones n.ip
  rw [← h.mask, h.masked] at hvalue
  exact Dvd.intro_left _ hvalue.symm

/-- `Contains` compares the numbers of two addresses of one length after the open bits. -/
theorem contains_iff {number ip : List UInt8}
    (hn : n.networkNumberAndMask = some (number, leadingOnes ones number.length)) :
    n.contains ip = true ↔ ((to4 ip).getD ip).length = number.length ∧
      ofBytes ((to4 ip).getD ip) / 2 ^ (8 * number.length - ones) =
        ofBytes number / 2 ^ (8 * number.length - ones) := by
  unfold contains
  rw [hn]
  simp only [Option.map_some, Option.getD_some, Bool.and_eq_true, decide_eq_true_iff]
  refine and_congr_right fun hlen => ?_
  exact (maskBytes_eq_iff hlen.symm).trans eq_comm

/-- An IPv4 network, which may be written in sixteen bytes. -/
theorem Parsed.ipv4 (h : n.Parsed ones) {number : List UInt8} (hnum : to4 n.ip = some number) :
    number.length = 4 ∧ n.hostBits ones ≤ 32 ∧ 2 ^ n.hostBits ones ∣ ofBytes number ∧
      n.networkNumberAndMask = some (number, leadingOnes (32 - n.hostBits ones) 4) ∧
      n.number = 0xffff * 2 ^ 32 + ofBytes number := by
  obtain ⟨hlen, hip⟩ := to4_eq_some_iff.mp hnum
  have hones := h.ones_le
  have hdvd := h.dvd
  rcases hip with hip | hip
  · have hfour : n.ip.length = 4 := by rw [hip, hlen]
    have hbits : n.hostBits ones = 32 - ones := by
      unfold hostBits
      omega
    have hones' : 32 - (32 - ones) = ones := by omega
    rw [hip] at hdvd
    refine ⟨hlen, by omega, hdvd, ?_, ?_⟩
    · unfold networkNumberAndMask
      rw [hnum, h.mask, hfour, hbits, hones']
      simp [hlen]
    · unfold IPNet.number to16
      rw [if_pos hfour, hip, Option.getD_some, ofBytes_v4InV6Prefix hlen]
  · have hsixteen : n.ip.length = 16 := by
      rw [hip, List.length_append, hlen]
      rfl
    have hbits : n.hostBits ones = 128 - ones := by
      unfold hostBits
      omega
    have hvalue : ofBytes n.ip = 0xffff * 2 ^ 32 + ofBytes number := by
      rw [hip, ofBytes_v4InV6Prefix hlen]
    have hlt : ofBytes number < 2 ^ 32 := by
      have hlt := ofBytes_lt number
      rwa [hlen] at hlt
    -- the sixteen bits that are set before the last 32 are in the mask
    have hmapped : n.hostBits ones ≤ 32 := by
      by_contra hlarge
      have hodd : 2 ^ 33 ∣ 0xffff * 2 ^ 32 + ofBytes number := by
        rw [← hvalue]
        exact (pow_dvd_pow 2 (by omega)).trans hdvd
      omega
    have hones' : 32 - n.hostBits ones = ones - 8 * 12 := by omega
    refine ⟨hlen, hmapped, ?_, ?_, ?_⟩
    · rw [hvalue] at hdvd
      have hpre : 2 ^ n.hostBits ones ∣ 0xffff * 2 ^ 32 :=
        Dvd.dvd.mul_left (pow_dvd_pow 2 hmapped) 0xffff
      exact (Nat.dvd_add_right hpre).mp hdvd
    · unfold networkNumberAndMask
      rw [hnum, h.mask, hsixteen, hones', ← drop_leadingOnes ones 12 4]
      simp [hlen]
    · unfold IPNet.number to16
      rw [if_neg (by omega), if_pos hsixteen, Option.getD_some, hvalue]

/-- A network that is not an IPv4 one. -/
theorem Parsed.ipv6 (h : n.Parsed ones) (hnum : to4 n.ip = none) :
    n.ip.length = 16 ∧ n.networkNumberAndMask = some (n.ip, leadingOnes ones 16) ∧
      n.number = ofBytes n.ip := by
  have hfour : n.ip.length ≠ 4 := by
    intro hfour
    unfold to4 at hnum
    rw [if_pos hfour] at hnum
    cases hnum
  have hsixteen : n.ip.length = 16 := h.length.resolve_left hfour
  refine ⟨hsixteen, ?_, ?_⟩
  · unfold networkNumberAndMask
    rw [hnum, h.mask, hsixteen]
    simp [hsixteen]
  · unfold IPNet.number to16
    rw [if_neg hfour, if_pos hsixteen, Option.getD_some]

/-- Between addresses of one length and one form, `Contains` compares all bits after the open
ones. -/
theorem Parsed.contains_iff_div (h : n.Parsed ones) {ip : List UInt8}
    (hlen : ip.length = n.ip.length) (hsame : (to4 ip).isSome = (to4 n.ip).isSome) :
    n.contains ip = true ↔
      ofBytes ip / 2 ^ n.hostBits ones = ofBytes n.ip / 2 ^ n.hostBits ones := by
  cases hnum : to4 n.ip with
  | none =>
    obtain ⟨hsixteen, hform, -⟩ := h.ipv6 hnum
    have hform' : n.networkNumberAndMask = some (n.ip, leadingOnes ones n.ip.length) := by
      rw [hform, hsixteen]
    have hip : to4 ip = none := by
      rw [hnum] at hsame
      exact Option.not_isSome_iff_eq_none.mp (by simp [hsame])
    rw [contains_iff hform', hip, Option.getD_none]
    exact and_iff_right hlen
  | some number =>
    obtain ⟨hfour, hbits, -, hform, -⟩ := h.ipv4 hnum
    have hform' : n.networkNumberAndMask =
        some (number, leadingOnes (32 - n.hostBits ones) number.length) := by rw [hform, hfour]
    have hopen : 8 * number.length - (32 - n.hostBits ones) = n.hostBits ones := by omega
    rw [hnum] at hsame
    obtain ⟨number', hnum'⟩ := Option.isSome_iff_exists.mp hsame
    obtain ⟨hfour', hip⟩ := to4_eq_some_iff.mp hnum'
    obtain ⟨-, hnip⟩ := to4_eq_some_iff.mp hnum
    have hdvd : 2 ^ n.hostBits ones ∣ 0xffff * 2 ^ 32 :=
      Dvd.dvd.mul_left (pow_dvd_pow 2 hbits) 0xffff
    rw [contains_iff hform', hnum', Option.getD_some, hopen, hfour, hfour', and_iff_right rfl]
    -- the two addresses have one length, so both are in the short form or both in the long one
    rcases hip with hip | hip <;> rcases hnip with hnip | hnip <;>
      rw [hip, hnip] at hlen ⊢
    · simp [v4InV6Prefix, hfour, hfour'] at hlen
    · simp [v4InV6Prefix, hfour, hfour'] at hlen
    · rw [ofBytes_v4InV6Prefix hfour, ofBytes_v4InV6Prefix hfour', Nat.add_div_of_dvd_right hdvd,
        Nat.add_div_of_dvd_right hdvd, Nat.add_left_cancel_iff]

/-- An address that is contained in a network has its form. -/
theorem Parsed.isSome_to4_of_contains (h : n.Parsed ones) {ip : List UInt8}
    (hcont : n.contains ip = true) :
    (to4 ip).isSome = (to4 n.ip).isSome := by
  cases hnum : to4 n.ip with
  | none =>
    obtain ⟨hsixteen, hform, -⟩ := h.ipv6 hnum
    have hform' : n.networkNumberAndMask = some (n.ip, leadingOnes ones n.ip.length) := by
      rw [hform, hsixteen]
    cases hip : to4 ip with
    | none => rfl
    | some number' =>
      have hshort := ((contains_iff hform').mp hcont).1
      rw [hip, Option.getD_some, (to4_eq_some_iff.mp hip).1, hsixteen] at hshort
      cases hshort
  | some number =>
    obtain ⟨hfour, hbits, -, hform, -⟩ := h.ipv4 hnum
    have hform' : n.networkNumberAndMask =
        some (number, leadingOnes (32 - n.hostBits ones) number.length) := by rw [hform, hfour]
    cases hip : to4 ip with
    | some number' => rfl
    | none =>
      have hlong := ((contains_iff hform').mp hcont).1
      rw [hip, Option.getD_none, hfour] at hlong
      rw [to4_eq_some_iff.mpr ⟨hlong, .inl rfl⟩] at hip
      cases hip

end IPNet

end OneInfra
