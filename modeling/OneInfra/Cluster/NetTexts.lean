import OneInfra.Cluster.Networks

/-!
# The texts of addresses and networks

What the documentation of the package `net` says about the texts of addresses and networks,
as far as the peers of a VPN go through them.  `NetText.Documented` has the four facts: an
address is read back from its text, the text of a network is the text of its address and the
number of leading ones of the mask, and both the address and the network are read back from
such a text.  The address comes back in its 16-byte form.

An IPv4 network that is written in sixteen bytes is read back in four.  It is the same
network by its numbers: `Documented.parseCIDR_ipNetString`.

`NetText.dotted` is a set of texts that is as documented.  For IPv4 they are those of the package.
An IPv6 address is written in the same way, with sixteen numbers.
-/

namespace OneInfra

open Lib BigEndian

/-- An address in its short form: four bytes for IPv4, and sixteen for any other. -/
def IsShort (ip : List UInt8) : Prop :=
  ip.length = 4 ∨ ip.length = 16 ∧ to4 ip = none

/-- The long form of an address has the address as its short form. -/
theorem IsShort.to16 {ip : List UInt8} (h : IsShort ip) :
    ∃ long, OneInfra.to16 ip = some long ∧ long.length = 16 ∧ (to4 long).getD long = ip := by
  unfold OneInfra.to16
  rcases h with hfour | ⟨hsixteen, hnone⟩
  · refine ⟨v4InV6Prefix ++ ip, if_pos hfour, ?_, ?_⟩
    · rw [List.length_append, hfour]
      rfl
    · rw [to4_eq_some_iff.mpr ⟨hfour, .inr rfl⟩, Option.getD_some]
  · refine ⟨ip, ?_, hsixteen, ?_⟩
    · rw [if_neg (by omega), if_pos hsixteen]
    · rw [hnone, Option.getD_none]

namespace IPNet

/-- The mask of a network with another address of its family. -/
theorem networkNumberAndMask_of_mask {n : IPNet} {number mask ip address : List UInt8}
    (hn : n.networkNumberAndMask = some (number, mask)) (hip : (to4 ip).getD ip = address)
    (hlen : address.length = number.length) :
    (⟨ip, n.mask⟩ : IPNet).networkNumberAndMask = some (address, mask) := by
  unfold networkNumberAndMask at hn ⊢
  dsimp only at hn ⊢
  rw [hip]
  split_ifs at hn with hfour hmask hmask' hsixteen hmask
  all_goals
    obtain ⟨rfl, rfl⟩ := Prod.mk.inj (Option.some.inj hn)
    simp [*]

/-- A network with an address in its short form and a mask of the same length. -/
theorem networkNumberAndMask_short {ip : List UInt8} (hshort : IsShort ip) (ones : Nat) :
    (⟨ip, leadingOnes ones ip.length⟩ : IPNet).networkNumberAndMask =
      some (ip, leadingOnes ones ip.length) := by
  unfold networkNumberAndMask
  rcases hshort with hfour | ⟨hsixteen, hnone⟩
  · rw [to4_eq_some_iff.mpr ⟨hfour, .inl rfl⟩]
    simp [hfour]
  · rw [hnone]
    simp [hsixteen]

/-- The network of one address. -/
theorem networkNumberAndMask_long {ip long : List UInt8} (hshort : IsShort ip)
    (hlong : to16 ip = some long) :
    (⟨long, leadingOnes 128 16⟩ : IPNet).networkNumberAndMask =
      some (ip, leadingOnes (8 * ip.length) ip.length) := by
  obtain ⟨_, hlong', hsixteen, hip⟩ := hshort.to16
  cases hlong.symm.trans hlong'
  unfold networkNumberAndMask
  dsimp only
  rw [hip]
  rcases hshort with hfour | ⟨hlen, -⟩
  · rw [if_pos hfour, if_neg (by simp), if_pos (by simp), hfour, drop_leadingOnes 128 12 4]
  · rw [if_neg (by omega), if_pos hlen, if_pos (by simp), hlen]

/-- The second network has the numbers of the first one, with masks of `ones` and `ones'`
leading ones. -/
structure Same (n : IPNet) (ones : Nat) (n' : IPNet) (ones' : Nat) : Prop where
  parsed : n'.Parsed ones'
  number : n'.number = n.number
  hostBits : n'.hostBits ones' = n.hostBits ones
  family : (to4 n'.ip).isSome = (to4 n.ip).isSome

theorem Same.refl {n : IPNet} {ones : Nat} (h : n.Parsed ones) : n.Same ones n ones :=
  ⟨h, rfl, rfl, rfl⟩

theorem Same.trans {n n' n'' : IPNet} {ones ones' ones'' : Nat} (h : n.Same ones n' ones')
    (h' : n'.Same ones' n'' ones'') : n.Same ones n'' ones'' :=
  ⟨h'.parsed, h'.number.trans h.number, h'.hostBits.trans h.hostBits, h'.family.trans h.family⟩

end IPNet

namespace NetText

/-- The text of an address with a prefix length. -/
def cidrText (net : NetText) (ip : List UInt8) (ones : Nat) : String :=
  net.ipString ip ++ "/" ++ toString ones

/-- The texts are as the package `net` documents them.  The argument `parseCIDRAddress` is the
first result of `net.ParseCIDR`. -/
structure Documented (net : NetText) (parseCIDRAddress : String → Option (List UInt8)) :
    Prop where
  parseIP_ipString : ∀ {ip}, IsShort ip → net.parseIP (net.ipString ip) = to16 ip
  ipNetString_eq : ∀ {n : IPNet} {number ones},
    n.networkNumberAndMask = some (number, leadingOnes ones number.length) →
      ones ≤ 8 * number.length → net.ipNetString n = net.cidrText number ones
  parseCIDR_cidrText : ∀ {ip ones}, IsShort ip → ones ≤ 8 * ip.length →
    net.parseCIDR (net.cidrText ip ones) =
      some ⟨maskBytes (leadingOnes ones ip.length) ip, leadingOnes ones ip.length⟩
  parseCIDRAddress_cidrText : ∀ {ip ones}, IsShort ip → ones ≤ 8 * ip.length →
    parseCIDRAddress (net.cidrText ip ones) = to16 ip

section Documented

variable {net : NetText} {parseCIDRAddress : String → Option (List UInt8)}

/-- A network comes back from its text. -/
theorem Documented.parseCIDR_ipNetString (hnet : net.Documented parseCIDRAddress) {n : IPNet}
    {ones : Nat} (h : n.Parsed ones) :
    ∃ n' ones', net.parseCIDR (net.ipNetString n) = some n' ∧ n.Same ones n' ones' := by
  cases hnum : to4 n.ip with
  | none =>
    obtain ⟨hlen, hform, -⟩ := h.ipv6 hnum
    have hform' : n.networkNumberAndMask = some (n.ip, leadingOnes ones n.ip.length) := by
      rw [hform, hlen]
    refine ⟨n, ones, ?_, .refl h⟩
    rw [hnet.ipNetString_eq hform' h.ones_le,
      hnet.parseCIDR_cidrText (.inr ⟨hlen, hnum⟩) h.ones_le, ← h.mask, h.masked]
  | some number =>
    obtain ⟨hfour, hbits, hdvd, hform, hvalue⟩ := h.ipv4 hnum
    have hform' : n.networkNumberAndMask =
        some (number, leadingOnes (32 - n.hostBits ones) number.length) := by rw [hform, hfour]
    have hones : 32 - n.hostBits ones ≤ 8 * number.length := by omega
    have hopen : 8 * number.length - (32 - n.hostBits ones) = n.hostBits ones := by omega
    have hmasked : maskBytes (leadingOnes (32 - n.hostBits ones) number.length) number =
        number := by
      apply maskBytes_eq_self
      rw [hopen]
      exact hdvd
    refine ⟨⟨number, leadingOnes (32 - n.hostBits ones) number.length⟩, 32 - n.hostBits ones,
      ?_, ⟨⟨.inl hfour, hones, rfl, hmasked⟩, ?_, hopen, ?_⟩⟩
    · rw [hnet.ipNetString_eq hform' hones, hnet.parseCIDR_cidrText (.inl hfour) hones, hmasked]
    · rw [hvalue]
      unfold IPNet.number to16
      rw [if_pos hfour, Option.getD_some, ofBytes_v4InV6Prefix hfour]
    · rw [hnum, to4_eq_some_iff.mpr ⟨hfour, .inl rfl⟩]

/-- An address is the only one in the network that is read from its text with all bits in the
mask. -/
theorem Documented.parseCIDR_all (hnet : net.Documented parseCIDRAddress) {address : List UInt8}
    (hshort : IsShort address) :
    ∃ n, net.parseCIDR (net.cidrText address (8 * address.length)) = some n ∧
      ∀ ip, n.contains ip = true ↔ (to4 ip).getD ip = address := by
  have hopen : 8 * address.length - 8 * address.length = 0 := by omega
  have hmasked : maskBytes (leadingOnes (8 * address.length) address.length) address =
      address := by
    apply maskBytes_eq_self
    rw [hopen, pow_zero]
    exact one_dvd _
  refine ⟨⟨address, leadingOnes (8 * address.length) address.length⟩, ?_, ?_⟩
  · rw [hnet.parseCIDR_cidrText hshort le_rfl, hmasked]
  · intro ip
    rw [IPNet.contains_iff (IPNet.networkNumberAndMask_short hshort _), hopen, pow_zero,
      Nat.div_one, Nat.div_one]
    constructor
    · intro h
      exact ofBytes_inj h.1 h.2
    · intro h
      rw [h]
      exact ⟨rfl, rfl⟩

end Documented

/-! ## Texts of numbers with dots between them -/

/-- The decimal number of a byte. -/
def decimal (byte : UInt8) : List Char := (toString byte.toNat).toList

theorem decimal_spec : ∀ byte, parseDecimal (decimal byte) = some byte.toNat ∧
    '.' ∉ decimal byte ∧ '/' ∉ decimal byte := by
  have hall : ∀ n < 256, parseDecimal (decimal (UInt8.ofNat n)) = some (UInt8.ofNat n).toNat ∧
      '.' ∉ decimal (UInt8.ofNat n) ∧ '/' ∉ decimal (UInt8.ofNat n) := by decide +kernel
  intro byte
  have h := hall byte.toNat byte.toNat_lt
  rwa [UInt8.ofNat_toNat] at h

/-- The numbers of the bytes. -/
def dottedText (ip : List UInt8) : List Char := ['.'].intercalate (ip.map decimal)

/-- Four or sixteen numbers below 256, separated by dots. -/
def parseDotted (text : List Char) : Option (List UInt8) := do
  let numbers ← (text.splitOn '.').mapM parseDecimal
  if (numbers.length = 4 ∨ numbers.length = 16) ∧ numbers.all (· < 256) then
    some (numbers.map UInt8.ofNat)
  else none

/-- An address, and a number after a slash. -/
def parseDottedCIDR (text : List Char) : Option (List UInt8 × Nat) :=
  match text.splitOn '/' with
  | [address, length] => do some (← parseDotted address, ← parseDecimal length)
  | _ => none

/-- The texts with dots. -/
def dotted : NetText where
  parseCIDR text := (parseDottedCIDR text.toList).map fun (ip, ones) =>
    ⟨maskBytes (leadingOnes ones ip.length) ip, leadingOnes ones ip.length⟩
  parseIP text := parseDotted text.toList >>= to16
  ipString ip := String.ofList (dottedText ip)
  ipNetString n :=
    match n.networkNumberAndMask with
    | none => "<nil>"
    | some (number, mask) =>
      match (List.range (8 * number.length + 1)).find? (leadingOnes · number.length = mask) with
      | none => "<nil>"
      | some ones => String.ofList (dottedText number) ++ "/" ++ toString ones

example : dotted.parseCIDR "10.0.7.9/16" = some ⟨[10, 0, 0, 0], [255, 255, 0, 0]⟩ := by
  decide +kernel

theorem mapM_parseDecimal (ip : List UInt8) :
    (ip.map decimal).mapM parseDecimal = some (ip.map UInt8.toNat) := by
  induction ip with
  | nil => rfl
  | cons byte ip ih =>
    rw [List.map_cons, List.mapM_cons, (decimal_spec byte).1, ih]
    rfl

theorem parseDotted_dottedText {ip : List UInt8} (h : IsShort ip) :
    parseDotted (dottedText ip) = some ip := by
  have hlen : ip.length = 4 ∨ ip.length = 16 := h.imp_right And.left
  have hne : ip.map decimal ≠ [] := by
    intro hnil
    rw [List.map_eq_nil_iff.mp hnil, List.length_nil] at hlen
    omega
  have hsplit : (dottedText ip).splitOn '.' = ip.map decimal := by
    refine List.splitOn_intercalate '.' (fun part hpart => ?_) hne
    obtain ⟨byte, -, rfl⟩ := List.mem_map.mp hpart
    exact (decimal_spec byte).2.1
  have hbytes : (ip.map UInt8.toNat).map UInt8.ofNat = ip := by
    rw [List.map_map]
    exact (List.map_congr_left fun byte _ => UInt8.ofNat_toNat).trans (List.map_id ip)
  have hsmall : (ip.map UInt8.toNat).all (· < 256) = true := by
    simpa using fun byte _ => byte.toNat_lt
  unfold parseDotted
  rw [hsplit, mapM_parseDecimal]
  show (if _ then _ else _) = _
  rw [if_pos ⟨by rwa [List.length_map], hsmall⟩, hbytes]

theorem slash_notMem_dottedText (ip : List UInt8) : '/' ∉ dottedText ip := by
  unfold dottedText
  induction ip with
  | nil => exact List.not_mem_nil
  | cons byte ip ih =>
    cases ip with
    | nil => simpa using (decimal_spec byte).2.2
    | cons next ip =>
      rw [List.map_cons, List.map_cons, List.intercalate_cons_cons, List.mem_append,
        List.mem_append, not_or, not_or]
      exact ⟨⟨(decimal_spec byte).2.2, by decide⟩, ih⟩

theorem parseDottedCIDR_cidrText {ip : List UInt8} (h : IsShort ip) {ones : Nat}
    (hones : ones ≤ 8 * ip.length) :
    parseDottedCIDR (dotted.cidrText ip ones).toList = some (ip, ones) := by
  have hparse : ∀ ones < 129, parseDecimal (toString ones).toList = some ones ∧
      '/' ∉ (toString ones).toList := by decide +kernel
  have hlt : ones < 129 := by
    rcases h with hfour | ⟨hsixteen, -⟩
    · omega
    · omega
  have htext : (dotted.cidrText ip ones).toList =
      dottedText ip ++ '/' :: (toString ones).toList := by
    show (String.ofList (dottedText ip) ++ "/" ++ toString ones).toList = _
    rw [String.toList_append, String.toList_append, String.toList_ofList, List.append_assoc]
    rfl
  unfold parseDottedCIDR
  rw [htext, List.splitOn_append_cons_of_beq _ _ (beq_self_eq_true _),
    List.splitOn_eq_singleton (slash_notMem_dottedText ip),
    List.splitOn_eq_singleton (hparse ones hlt).2, List.singleton_append]
  dsimp only
  rw [parseDotted_dottedText h, (hparse ones hlt).1]
  rfl

theorem documented_dotted : dotted.Documented fun text =>
    (parseDottedCIDR text.toList).bind fun parsed => to16 parsed.1 where
  parseIP_ipString := by
    intro ip hshort
    show parseDotted (String.ofList (dottedText ip)).toList >>= to16 = to16 ip
    rw [String.toList_ofList, parseDotted_dottedText hshort]
    rfl
  ipNetString_eq := by
    intro n number ones hn hones
    have hfind : (List.range (8 * number.length + 1)).find?
        (fun ones' => leadingOnes ones' number.length = leadingOnes ones number.length) =
          some ones := by
      refine List.find?_range_eq_some.mpr ⟨by simp, by simp; omega, ?_⟩
      intro ones' hlt
      have hne : leadingOnes ones' number.length ≠ leadingOnes ones number.length := by
        intro heq
        have := leadingOnes_inj (by omega) hones heq
        omega
      simp [hne]
    show (match n.networkNumberAndMask with
      | none => "<nil>"
      | some (number, mask) =>
        match (List.range (8 * number.length + 1)).find?
            (leadingOnes · number.length = mask) with
        | none => "<nil>"
        | some ones => String.ofList (dottedText number) ++ "/" ++ toString ones) = _
    rw [hn]
    dsimp only
    rw [hfind]
    rfl
  parseCIDR_cidrText := by
    intro ip ones hshort hones
    show (parseDottedCIDR (dotted.cidrText ip ones).toList).map _ = _
    rw [parseDottedCIDR_cidrText hshort hones]
    rfl
  parseCIDRAddress_cidrText := by
    intro ip ones hshort hones
    rw [parseDottedCIDR_cidrText hshort hones]
    rfl

end NetText

end OneInfra
