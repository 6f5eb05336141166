import OneInfra.Cluster.Networks
import OneInfra.Cluster.NodeJoinRequests

/-!
# Addresses in the service network

`KubernetesServiceIP` and `CoreDNSServiceIP` of `internal/pkg/cluster/cluster_ips.go` add an
offset to the last byte of the network number.  Whether that is an address of the network
depends on the number of open bits only: with eight or more the last byte is zero, and with
fewer it is a multiple of the size of the network.  In a network that is too small the byte
leaves the network, and it may wrap around.
-/

namespace OneInfra

open Lib BigEndian

namespace IPNet

variable {n : IPNet} {ones : Nat}

/-- In a network with more than `offset` addresses the last byte of the network number has
room for the offset. -/
theorem Parsed.last_add_lt (h : n.Parsed ones) {init : List UInt8} {last offset : UInt8}
    (hip : n.ip = init ++ [last]) (hoffset : offset.toNat < 2 ^ n.hostBits ones) :
    last.toNat + offset.toNat < 256 := by
  have hdvd := h.dvd
  have hlast := last.toNat_lt
  have hlt := offset.toNat_lt
  rw [hip, ofBytes_concat] at hdvd
  by_cases hbits : 8 ≤ n.hostBits ones
  · have hzero : 2 ^ 8 ∣ ofBytes init * 256 + last.toNat := (pow_dvd_pow 2 hbits).trans hdvd
    omega
  · have hbyte : 2 ^ n.hostBits ones ∣ ofBytes init * 256 :=
      Dvd.dvd.mul_left (pow_dvd_pow 2 (by omega : n.hostBits ones ≤ 8)) _
    have hspace := add_pow_le ((Nat.dvd_add_right hbyte).mp hdvd) hlast (by omega)
    omega

theorem isSome_to4_concat {init : List UInt8} {last last' : UInt8} :
    (to4 (init ++ [last'])).isSome = (to4 (init ++ [last])).isSome := by
  unfold to4
  have htake : init.length = 15 → (init ++ [last']).take 12 = (init ++ [last]).take 12 := by
    intro hlen
    rw [List.take_append_of_le_length (by omega), List.take_append_of_le_length (by omega)]
  by_cases hfour : init.length = 3
  · simp [hfour]
  · by_cases hsixteen : init.length = 15
    · simp only [List.length_append, List.length_singleton, hsixteen, htake hsixteen]
      by_cases hmapped : (init ++ [last]).take 12 = v4InV6Prefix <;> simp [hmapped]
    · simp [hfour, hsixteen]

end IPNet

namespace Cluster

/-- The result of a service address: an error, or the text of the address after the network
number by the offset, which the service network contains. -/
def IsServiceAddress (net : NetText) (cluster : Cluster) (offset : Nat) :
    Except Fault String → Prop
  | .error fault => ∃ message, fault = .error message
  | .ok text => ∃ cidr address, net.parseCIDR cluster.serviceCIDR = some cidr ∧
      address.length = cidr.ip.length ∧ ofBytes address = ofBytes cidr.ip + offset ∧
      cidr.contains address = true ∧ text = net.ipString address

section ServiceIP

variable {net : NetText} {cluster : Cluster} {cidr : IPNet} {ones : Nat}

/-- In a parsed network, the address is right exactly if the network has more than `offset`
addresses. -/
theorem isServiceAddress_serviceIP_iff (hparse : net.parseCIDR cluster.serviceCIDR = some cidr)
    (hparsed : cidr.Parsed ones) (offset : UInt8) :
    IsServiceAddress net cluster offset.toNat (serviceIP offset net cluster) ↔
      offset.toNat < 2 ^ cidr.hostBits ones := by
  have hne : cidr.ip ≠ [] := by
    intro hnil
    have hlen := hparsed.length
    rw [hnil] at hlen
    simp at hlen
  obtain ⟨init, last, hip⟩ := List.eq_nil_or_concat cidr.ip |>.resolve_left hne
  rw [List.concat_eq_append] at hip
  have hserviceIP : serviceIP offset net cluster =
      .ok (net.ipString (init ++ [last + offset])) := by
    unfold serviceIP
    rw [hparse]
    dsimp only
    rw [hip]
    simp
  rw [hserviceIP]
  constructor
  · intro ⟨cidr', address, hparse', hlen, hvalue, hcont, _⟩
    rw [hparse, Option.some_inj] at hparse'
    rw [← hparse'] at hlen hvalue hcont
    have hdiv := (hparsed.contains_iff_div hlen
      (hparsed.isSome_to4_of_contains hcont)).mp hcont
    rw [hvalue] at hdiv
    exact (add_div_eq_div_iff (Nat.two_pow_pos _) hparsed.dvd).mp hdiv
  · intro hoffset
    have hroom := hparsed.last_add_lt hip hoffset
    have hvalue : ofBytes (init ++ [last + offset]) = ofBytes cidr.ip + offset.toNat := by
      rw [hip, ofBytes_concat, ofBytes_concat, UInt8.toNat_add, Nat.mod_eq_of_lt hroom,
        Nat.add_assoc]
    have hlen : (init ++ [last + offset]).length = cidr.ip.length := by
      rw [hip, List.length_append, List.length_append]
      rfl
    refine ⟨cidr, init ++ [last + offset], hparse, hlen, hvalue, ?_, rfl⟩
    rw [hparsed.contains_iff_div hlen (by rw [hip, IPNet.isSome_to4_concat]), hvalue]
    exact (add_div_eq_div_iff (Nat.two_pow_pos _) hparsed.dvd).mpr hoffset

/-- The same for every text of a network, also for one that does not parse. -/
theorem isServiceAddress_iff (hnet : ∀ cidr, net.parseCIDR cluster.serviceCIDR = some cidr →
      ∃ ones, cidr.Parsed ones) (offset : UInt8) :
    IsServiceAddress net cluster offset.toNat (serviceIP offset net cluster) ↔
      ∀ cidr ones, net.parseCIDR cluster.serviceCIDR = some cidr → cidr.Parsed ones →
        offset.toNat < 2 ^ cidr.hostBits ones := by
  cases hparse : net.parseCIDR cluster.serviceCIDR with
  | none =>
    have hserviceIP : serviceIP offset net cluster =
        .error (.error ("invalid CIDR address: " ++ cluster.serviceCIDR)) := by
      unfold serviceIP
      rw [hparse]
    rw [hserviceIP]
    refine iff_of_true ⟨_, rfl⟩ ?_
    intro cidr ones h
    cases h
  | some cidr =>
    constructor
    · intro haddr cidr' ones hcidr' hparsed
      rw [Option.some_inj] at hcidr'
      rw [← hcidr'] at hparsed ⊢
      exact (isServiceAddress_serviceIP_iff hparse hparsed offset).mp haddr
    · intro hroom
      obtain ⟨ones, hparsed⟩ := hnet cidr hparse
      exact (isServiceAddress_serviceIP_iff hparse hparsed offset).mpr
        (hroom cidr ones rfl hparsed)

end ServiceIP

/-- The address of the Kubernetes service is right if and only if the network has two
addresses, and that of CoreDNS if and only if it has sixteen. -/
theorem service_addresses_iff (net : NetText) (cluster : Cluster)
    (hnet : ∀ cidr, net.parseCIDR cluster.serviceCIDR = some cidr → ∃ ones, cidr.Parsed ones) :
    (IsServiceAddress net cluster 1 (kubernetesServiceIP net cluster) ↔
        ∀ cidr ones, net.parseCIDR cluster.serviceCIDR = some cidr → cidr.Parsed ones →
          1 ≤ cidr.hostBits ones) ∧
      (IsServiceAddress net cluster 10 (coreDNSServiceIP net cluster) ↔
        ∀ cidr ones, net.parseCIDR cluster.serviceCIDR = some cidr → cidr.Parsed ones →
          4 ≤ cidr.hostBits ones) := by
  have hone : ∀ bits, (1 : UInt8).toNat < 2 ^ bits ↔ 1 ≤ bits := by
    intro bits
    exact Nat.one_lt_two_pow_iff.trans Nat.one_le_iff_ne_zero.symm
  have hten : ∀ bits, (10 : UInt8).toNat < 2 ^ bits ↔ 4 ≤ bits := by
    intro bits
    constructor
    · intro hlt
      by_contra hfew
      have hle : 2 ^ bits ≤ 2 ^ 3 := Nat.pow_le_pow_right (by decide) (by omega)
      exact absurd (hlt.trans_le hle) (by decide)
    · intro hmany
      have hle : 2 ^ 4 ≤ 2 ^ bits := Nat.pow_le_pow_right (by decide) hmany
      exact lt_of_lt_of_le (by decide) hle
  have hkubernetes := isServiceAddress_iff hnet 1
  have hcoreDNS := isServiceAddress_iff hnet 10
  simp only [hone] at hkubernetes
  simp only [hten] at hcoreDNS
  exact ⟨hkubernetes, hcoreDNS⟩

/-- A cluster with the given service network. -/
def withServiceNetwork (serviceCIDR : String) : Cluster :=
  { name := "cluster", «namespace» := "default", serviceCIDR := serviceCIDR }

/-- In a network of eight addresses CoreDNS gets an address outside of it, and at the end of
the byte the addition wraps around, also for Kubernetes in a network of one address. -/
theorem service_addresses_leave :
    NetText.ipv4.parseCIDR "10.96.0.248/29" = some ⟨[10, 96, 0, 248], [255, 255, 255, 248]⟩ ∧
      coreDNSServiceIP .ipv4 (withServiceNetwork "10.96.0.0/29") = .ok "10.96.0.10" ∧
      coreDNSServiceIP .ipv4 (withServiceNetwork "10.96.0.248/29") = .ok "10.96.0.2" ∧
      kubernetesServiceIP .ipv4 (withServiceNetwork "10.96.0.255/32") = .ok "10.96.0.0" := by
  decide +kernel

/-- The addresses in the default service network. -/
theorem service_addresses_iff_default :
    IsServiceAddress .ipv4 (withServiceNetwork "10.96.0.0/12") 1
        (kubernetesServiceIP .ipv4 (withServiceNetwork "10.96.0.0/12")) ∧
      IsServiceAddress .ipv4 (withServiceNetwork "10.96.0.0/12") 10
        (coreDNSServiceIP .ipv4 (withServiceNetwork "10.96.0.0/12")) := by
  have hparse : NetText.ipv4.parseCIDR "10.96.0.0/12" =
      some ⟨[10, 96, 0, 0], [255, 240, 0, 0]⟩ := by decide +kernel
  have hnet : ∀ cidr, NetText.ipv4.parseCIDR "10.96.0.0/12" = some cidr →
      ∃ ones, cidr.Parsed ones := by
    intro cidr hcidr
    rw [hparse, Option.some_inj] at hcidr
    rw [← hcidr]
    exact ⟨12, by decide +kernel⟩
  have hroom : ∀ cidr ones, NetText.ipv4.parseCIDR "10.96.0.0/12" = some cidr →
      cidr.Parsed ones → 4 ≤ cidr.hostBits ones := by
    intro cidr ones hcidr hparsed
    rw [hparse, Option.some_inj] at hcidr
    rw [← hcidr] at hparsed ⊢
    have hones : ∀ ones < 33, [255, 240, 0, 0] = leadingOnes ones 4 →
        4 ≤ IPNet.hostBits ⟨[10, 96, 0, 0], [255, 240, 0, 0]⟩ ones := by decide +kernel
    exact hones ones (Nat.lt_succ_of_le hparsed.ones_le) hparsed.mask
  have h := service_addresses_iff .ipv4 (withServiceNetwork "10.96.0.0/12") hnet
  refine ⟨h.1.mpr ?_, h.2.mpr hroom⟩
  intro cidr ones hcidr hparsed
  exact Nat.le_trans (by decide) (hroom cidr ones hcidr hparsed)

end Cluster

end OneInfra
