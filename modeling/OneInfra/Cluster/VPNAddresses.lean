import OneInfra.Cluster.Networks

/-!
# The addresses of VPN peers

`requestVPNIP` adds the number of the next peer to the number of the network, writes the sum
without leading zero bytes and drops two bytes unless sixteen were written.  That gives back
an IPv4 address, whose sixteen bytes have ten leading zeros, and an IPv6 address whose first
byte is not zero.

The two cases are the two forms of a network in `OneInfra.Cluster.Networks`.  In both,
`IPNet.Contains` decides on the bytes that are left: `contains_slice_ipv4` and
`contains_slice_ipv6` say how, by the size of the sum.  For an IPv6 address whose first byte
is zero, too few bytes are left and no network contains them.
-/

namespace OneInfra

open Lib BigEndian

/-! ## The bytes that are left -/

/-- The bytes of the next address as `requestVPNIP` writes them. -/
def vpnAssignedIPSlice (number : Nat) : List UInt8 :=
  if (toBytes number).length = 16 then toBytes number else (toBytes number).drop 2

theorem to4_eq_none_of_length {ip : List UInt8} (hfour : ip.length ≠ 4)
    (hsixteen : ip.length ≠ 16) : to4 ip = none := by
  unfold to4
  rw [if_neg hfour, if_neg fun h => hsixteen h.1]

/-- An address of sixteen bytes that is an IPv4 address is a small number. -/
theorem to4_eq_none_of_le {ip : List UInt8} (hfour : ip.length ≠ 4)
    (hlarge : 2 ^ 48 ≤ ofBytes ip) : to4 ip = none := by
  by_contra h
  obtain ⟨number, hnum⟩ := Option.ne_none_iff_exists'.mp h
  obtain ⟨hlen, hip⟩ := to4_eq_some_iff.mp hnum
  rcases hip with hip | hip
  · rw [hip] at hfour
    exact hfour hlen
  · have hlt := ofBytes_lt number
    rw [hip, ofBytes_v4InV6Prefix hlen] at hlarge
    rw [hlen] at hlt
    omega

namespace IPNet

variable {n : IPNet} {ones k : Nat}

/-- In an IPv4 network the last four bytes are left, and they are contained as long as the
address is in the network. -/
theorem contains_slice_ipv4 (h : n.Parsed ones) {number : List UInt8}
    (hnum : to4 n.ip = some number) (hk : k < 2 ^ 63) :
    2 ≤ (toBytes (n.number + k)).length ∧
      (n.contains (vpnAssignedIPSlice (n.number + k)) = true ↔ k < 2 ^ n.hostBits ones) ∧
      (k < 2 ^ n.hostBits ones → (to16 (vpnAssignedIPSlice (n.number + k))).map ofBytes =
        some (n.number + k)) := by
  obtain ⟨hlen, hbits, hdvd, hform, hvalue⟩ := h.ipv4 hnum
  have hlt : ofBytes number < 2 ^ 32 := by
    have hlt := ofBytes_lt number
    rwa [hlen] at hlt
  have hform' : n.networkNumberAndMask =
      some (number, leadingOnes (32 - n.hostBits ones) number.length) := by rw [hform, hlen]
  have hopen : 8 * number.length - (32 - n.hostBits ones) = n.hostBits ones := by omega
  rw [contains_iff hform', hopen, hvalue]
  by_cases hfit : ofBytes number + k < 2 ^ 32
  · -- six bytes are written and four of them are left
    have hsix : (toBytes (0xffff * 2 ^ 32 + ofBytes number + k)).length = 6 := by
      apply (length_toBytes_eq_succ_iff _ 5).mpr
      constructor <;> omega
    have hslice : vpnAssignedIPSlice (0xffff * 2 ^ 32 + ofBytes number + k) =
        (toBytes (0xffff * 2 ^ 32 + ofBytes number + k)).drop 2 := by
      unfold vpnAssignedIPSlice
      rw [if_neg (by omega)]
    have hfour : (vpnAssignedIPSlice (0xffff * 2 ^ 32 + ofBytes number + k)).length = 4 := by
      rw [hslice, List.length_drop, hsix]
    have hlast : ofBytes (vpnAssignedIPSlice (0xffff * 2 ^ 32 + ofBytes number + k)) =
        ofBytes number + k := by
      rw [hslice, ofBytes_drop, ofBytes_toBytes, hsix]
      omega
    have hto4 : to4 (vpnAssignedIPSlice (0xffff * 2 ^ 32 + ofBytes number + k)) =
        some (vpnAssignedIPSlice (0xffff * 2 ^ 32 + ofBytes number + k)) :=
      to4_eq_some_iff.mpr ⟨hfour, .inl rfl⟩
    refine ⟨by omega, ?_, ?_⟩
    · rw [hto4, Option.getD_some, hlast, hfour, hlen,
        add_div_eq_div_iff (Nat.two_pow_pos _) hdvd]
      exact and_iff_right rfl
    · intro _
      unfold to16
      rw [if_pos hfour, Option.map_some, ofBytes_v4InV6Prefix hfour, hlast, Nat.add_assoc]
  · -- more bytes are left than an IPv4 address has
    have hspace := add_pow_le hdvd hlt hbits
    have hmany : ¬ (toBytes (0xffff * 2 ^ 32 + ofBytes number + k)).length ≤ 6 := by
      rw [length_toBytes_le_iff]
      omega
    have hfew : (toBytes (0xffff * 2 ^ 32 + ofBytes number + k)).length ≤ 8 := by
      rw [length_toBytes_le_iff]
      omega
    have hslice : (vpnAssignedIPSlice (0xffff * 2 ^ 32 + ofBytes number + k)).length =
        (toBytes (0xffff * 2 ^ 32 + ofBytes number + k)).length - 2 := by
      unfold vpnAssignedIPSlice
      rw [if_neg (by omega), List.length_drop]
    have hto4 : to4 (vpnAssignedIPSlice (0xffff * 2 ^ 32 + ofBytes number + k)) = none :=
      to4_eq_none_of_length (by omega) (by omega)
    refine ⟨by omega, ?_, ?_⟩
    · rw [hto4, Option.getD_none]
      constructor
      · intro hcont
        omega
      · intro hinside
        omega
    · intro hinside
      omega

/-- In another network the sixteen bytes are left if the first one is not zero.  They are
contained as long as the address is in the network. -/
theorem contains_slice_ipv6 (h : n.Parsed ones) (hnum : to4 n.ip = none) (hk : k ≤ 2 ^ 128) :
    (n.contains (vpnAssignedIPSlice (n.number + k)) = true ↔
        k < 2 ^ n.hostBits ones ∧ 2 ^ 120 ≤ n.number + k) ∧
      (k < 2 ^ n.hostBits ones → 2 ^ 120 ≤ n.number + k →
        (to16 (vpnAssignedIPSlice (n.number + k))).map ofBytes = some (n.number + k)) := by
  obtain ⟨hlen, hform, hvalue⟩ := h.ipv6 hnum
  have hlt : ofBytes n.ip < 2 ^ 128 := by
    have hlt := ofBytes_lt n.ip
    rwa [hlen] at hlt
  have hbits : n.hostBits ones ≤ 128 := by
    unfold hostBits
    omega
  have hspace := add_pow_le h.dvd hlt hbits
  have hform' : n.networkNumberAndMask = some (n.ip, leadingOnes ones n.ip.length) := by
    rw [hform, hlen]
  rw [contains_iff hform', hvalue]
  by_cases hsixteen : (toBytes (ofBytes n.ip + k)).length = 16
  · have hrange := (length_toBytes_eq_succ_iff _ 15).mp hsixteen
    have hslice : vpnAssignedIPSlice (ofBytes n.ip + k) = toBytes (ofBytes n.ip + k) := by
      unfold vpnAssignedIPSlice
      rw [if_pos hsixteen]
    have hto4 : to4 (toBytes (ofBytes n.ip + k)) = none := by
      apply to4_eq_none_of_le (by omega)
      rw [ofBytes_toBytes]
      omega
    rw [hslice, hto4, Option.getD_none, ofBytes_toBytes, hsixteen, hlen]
    refine ⟨?_, ?_⟩
    · have hopen : 8 * 16 - ones = n.hostBits ones := by
        unfold hostBits
        omega
      rw [hopen, add_div_eq_div_iff (Nat.two_pow_pos _) h.dvd]
      constructor
      · intro hcont
        exact ⟨hcont.2, by omega⟩
      · intro hinside
        exact ⟨rfl, hinside.1⟩
    · intro _ _
      unfold to16
      rw [if_neg (by omega), if_pos hsixteen, Option.map_some, ofBytes_toBytes]
  · -- too few bytes are left, or too many were written
    have hfew : (toBytes (ofBytes n.ip + k)).length ≤ 17 := by
      rw [length_toBytes_le_iff]
      omega
    have hrange : ¬ (256 ^ 15 ≤ ofBytes n.ip + k ∧ ofBytes n.ip + k < 256 ^ 16) :=
      mt (length_toBytes_eq_succ_iff _ 15).mpr hsixteen
    have hslice : (vpnAssignedIPSlice (ofBytes n.ip + k)).length =
        (toBytes (ofBytes n.ip + k)).length - 2 := by
      unfold vpnAssignedIPSlice
      rw [if_neg hsixteen, List.length_drop]
    have hshort : ((to4 (vpnAssignedIPSlice (ofBytes n.ip + k))).getD
        (vpnAssignedIPSlice (ofBytes n.ip + k))).length ≠ 16 := by
      by_cases hfour : (vpnAssignedIPSlice (ofBytes n.ip + k)).length = 4
      · rw [to4_eq_some_iff.mpr ⟨hfour, .inl rfl⟩, Option.getD_some]
        omega
      · rw [to4_eq_none_of_length hfour (by omega), Option.getD_none]
        omega
    refine ⟨?_, ?_⟩
    · constructor
      · intro hcont
        exact absurd (hcont.1.trans hlen) hshort
      · intro hinside
        omega
    · intro hinside hlarge
      omega

end IPNet

namespace Cluster

/-! ## The next address -/

/-- The next peer gets the text of the address after the network number, by as many as there
are peers and one more, if the network has that address.  Else there is an error. -/
def AssignsNext (net : NetText) (cluster : Cluster) (cidr : IPNet) (ones : Nat) : Prop :=
  if cluster.vpnPeers.keys.card + 1 < 2 ^ cidr.hostBits ones then
    ∃ address, (to16 address).map ofBytes =
        some (cidr.number + (cluster.vpnPeers.keys.card + 1)) ∧
      cluster.requestVPNIP net = .ok (net.ipString address)
  else ∃ message, cluster.requestVPNIP net = .error (.error message)

section RequestVPNIP

variable {net : NetText} {cluster : Cluster} {cidr : IPNet} {ones : Nat}

theorem requestVPNIP_of_contains (hcidr : cluster.vpn.cidr = some cidr)
    (hlen : 2 ≤ (toBytes (cluster.nextVPNNumber cidr)).length)
    (hcont : cidr.contains (vpnAssignedIPSlice (cluster.nextVPNNumber cidr)) = true) :
    cluster.requestVPNIP net =
      .ok (net.ipString (vpnAssignedIPSlice (cluster.nextVPNNumber cidr))) := by
  unfold requestVPNIP
  rw [hcidr]
  dsimp only
  rw [if_neg (by omega)]
  exact if_pos hcont

theorem requestVPNIP_of_not_contains (hcidr : cluster.vpn.cidr = some cidr)
    (hlen : 2 ≤ (toBytes (cluster.nextVPNNumber cidr)).length)
    (hcont : ¬ cidr.contains (vpnAssignedIPSlice (cluster.nextVPNNumber cidr)) = true) :
    ∃ message, cluster.requestVPNIP net = .error (.error message) := by
  refine ⟨"not enough IP addresses to assign in the \"" ++ net.ipNetString cidr ++ "\" CIDR", ?_⟩
  unfold requestVPNIP
  rw [hcidr]
  dsimp only
  rw [if_neg (by omega)]
  exact if_neg hcont

/-- A request that returns gives the next address exactly if its bytes are contained as long as
the address is in the network. -/
theorem assignsNext_iff_contains (hcidr : cluster.vpn.cidr = some cidr)
    (hlen : 2 ≤ (toBytes (cluster.nextVPNNumber cidr)).length)
    (hslice : cidr.contains (vpnAssignedIPSlice (cluster.nextVPNNumber cidr)) = true →
      (to16 (vpnAssignedIPSlice (cluster.nextVPNNumber cidr))).map ofBytes =
        some (cluster.nextVPNNumber cidr)) :
    cluster.AssignsNext net cidr ones ↔
      (cidr.contains (vpnAssignedIPSlice (cluster.nextVPNNumber cidr)) = true ↔
        cluster.vpnPeers.keys.card + 1 < 2 ^ cidr.hostBits ones) := by
  unfold AssignsNext
  by_cases hcont : cidr.contains (vpnAssignedIPSlice (cluster.nextVPNNumber cidr)) = true
  · have hok := @requestVPNIP_of_contains net cluster cidr hcidr hlen hcont
    rw [iff_true_left hcont]
    split_ifs with hinside
    · exact iff_of_true ⟨_, hslice hcont, hok⟩ hinside
    · refine iff_of_false ?_ hinside
      intro ⟨message, herr⟩
      rw [hok] at herr
      cases herr
  · obtain ⟨message, herr⟩ :=
      @requestVPNIP_of_not_contains net cluster cidr hcidr hlen hcont
    rw [iff_false_left hcont]
    split_ifs with hinside
    · refine iff_of_false ?_ (not_not_intro hinside)
      intro ⟨address, _, hok⟩
      rw [herr] at hok
      cases hok
    · exact iff_of_true ⟨message, herr⟩ hinside

/-- The next peer gets its address in every IPv4 network.  In another network it does if the
sum is not below 256 and its first byte is not zero, or the network is exhausted. -/
theorem assignsNext_iff (hcidr : cluster.vpn.cidr = some cidr) (hparsed : cidr.Parsed ones)
    (hcount : cluster.vpnPeers.keys.card + 1 < 2 ^ 63) :
    cluster.AssignsNext net cidr ones ↔
      (to4 cidr.ip).isSome = true ∨ (256 ≤ cluster.nextVPNNumber cidr ∧
        (cluster.vpnPeers.keys.card + 1 < 2 ^ cidr.hostBits ones →
          2 ^ 120 ≤ cluster.nextVPNNumber cidr)) := by
  cases hnum : to4 cidr.ip with
  | some number =>
    obtain ⟨hlen, hcont, hslice⟩ := IPNet.contains_slice_ipv4 hparsed hnum hcount
    rw [assignsNext_iff_contains hcidr hlen fun h => hslice (hcont.mp h)]
    exact iff_of_true hcont (.inl rfl)
  | none =>
    have hfew : cluster.vpnPeers.keys.card + 1 ≤ 2 ^ 128 := by omega
    obtain ⟨hcont, hslice⟩ := IPNet.contains_slice_ipv6 hparsed hnum hfew
    by_cases hsmall : cluster.nextVPNNumber cidr < 256
    · -- the request panics
      obtain ⟨message, hpanic⟩ := (requestVPNIP_panics_iff net hcidr).mpr hsmall
      refine iff_of_false ?_ ?_
      · intro h
        unfold AssignsNext at h
        rw [hpanic] at h
        split_ifs at h
        · obtain ⟨_, _, h⟩ := h
          cases h
        · obtain ⟨_, h⟩ := h
          cases h
      · intro h
        rcases h with h | h
        · cases h
        · omega
    · have hlen : 2 ≤ (toBytes (cluster.nextVPNNumber cidr)).length := by
        have hle := length_toBytes_le_iff (cluster.nextVPNNumber cidr) 1
        omega
      rw [assignsNext_iff_contains hcidr hlen fun h =>
        hslice (hcont.mp h).1 (hcont.mp h).2]
      have hcont' : cidr.contains (vpnAssignedIPSlice (cluster.nextVPNNumber cidr)) = true ↔
          cluster.vpnPeers.keys.card + 1 < 2 ^ cidr.hostBits ones ∧
            2 ^ 120 ≤ cluster.nextVPNNumber cidr := hcont
      rw [hcont', and_iff_left_iff_imp]
      constructor
      · intro h
        exact .inr ⟨by omega, h⟩
      · intro h
        exact (h.resolve_left (by simp)).2

end RequestVPNIP

/-- A cluster without peers in the given VPN network. -/
def withVPNNetwork (cidr : IPNet) : Cluster :=
  { name := "cluster", «namespace» := "default", vpn := { enabled := true, cidr := some cidr } }

/-- The network `64:ff9b::/96`, whose first byte is zero, is said to be exhausted for the first
peer, and in `::/64` the request panics.  Both have room for it. -/
theorem requestVPNIP_zero_byte :
    let wellKnown : IPNet :=
      ⟨[0, 0x64, 0xff, 0x9b, 0, 0, 0, 0, 0, 0, 0, 0, 0, 0, 0, 0], leadingOnes 96 16⟩
    let unspecified : IPNet := ⟨List.replicate 16 0, leadingOnes 64 16⟩
    wellKnown.Parsed 96 ∧ unspecified.Parsed 64 ∧
      1 < 2 ^ wellKnown.hostBits 96 ∧ 1 < 2 ^ unspecified.hostBits 64 ∧
      (∃ message, (withVPNNetwork wellKnown).requestVPNIP .ipv4 = .error (.error message)) ∧
      ∃ message, (withVPNNetwork unspecified).requestVPNIP .ipv4 = .error (.panic message) := by
  intro wellKnown unspecified
  refine ⟨by decide +kernel, by decide +kernel, by decide, by decide, ?_, ?_⟩
  · exact requestVPNIP_of_not_contains rfl (by decide +kernel) (by decide +kernel)
  · exact (requestVPNIP_panics_iff _ rfl).mpr (by decide +kernel)

/-- The first peer of an IPv6 network gets its address. -/
theorem assignsNext_iff_documentation :
    let cidr : IPNet :=
      ⟨[0x20, 0x01, 0x0d, 0xb8, 0, 0, 0, 0, 0, 0, 0, 0, 0, 0, 0, 0], leadingOnes 32 16⟩
    cidr.Parsed 32 ∧ (withVPNNetwork cidr).AssignsNext .ipv4 cidr 32 := by
  intro cidr
  have hparsed : cidr.Parsed 32 := by decide +kernel
  refine ⟨hparsed, (assignsNext_iff rfl hparsed (by decide +kernel)).mpr (.inr ?_)⟩
  decide +kernel

end Cluster

end OneInfra
