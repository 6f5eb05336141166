import OneInfra.Cluster.Export
import OneInfra.Cluster.VPNAddresses
import OneInfra.Component.ControlPlaneIngress

/-!
# The peers of the WireGuard script

`wireguardScriptContents` of `internal/pkg/component/components/wireguard.go` lists the VPN
peers of the cluster.  It reads the address of a peer from the text that `GenerateVPNPeer`
wrote and renders it with a mask of 128 ones, or of 32 ones if four bytes were read.

A run starts at a cluster without peers and consists of calls of `GenerateVPNPeer` that succeed
and of imports of the export.  Every new peer gets the next address of the network.  In every
state of a run the peers of the script are those of the cluster, each with its own address only:
`scriptMatches`.
-/

namespace OneInfra

open Lib BigEndian

namespace IPNet

variable {n : IPNet} {ones k : Nat}

/-- The address after the network number by `k`, as `requestVPNIP` writes it. -/
def hostAddress (n : IPNet) (k : Nat) : List UInt8 :=
  vpnAssignedIPSlice (n.number + k)

/-- The length of the addresses of a network. -/
def addressLength (n : IPNet) : Nat :=
  if (to4 n.ip).isSome then 4 else 16

/-- `k` is the number of an address in the network that `requestVPNIP` can write. -/
structure IsHost (n : IPNet) (ones k : Nat) : Prop where
  lt : k < 2 ^ n.hostBits ones
  short : IsShort (n.hostAddress k)
  length : (n.hostAddress k).length = n.addressLength
  value : (to16 (n.hostAddress k)).map ofBytes = some (n.number + k)

theorem Parsed.isHost_ipv4 (h : n.Parsed ones) {number : List UInt8}
    (hnum : to4 n.ip = some number) (hk : k ≤ 2 ^ n.hostBits ones)
    (hcont : n.contains (n.hostAddress k) = true) : n.IsHost ones k := by
  obtain ⟨hfour, hbits, hdvd, -, hvalue⟩ := h.ipv4 hnum
  have hsize : 2 ^ n.hostBits ones ≤ 2 ^ 32 := Nat.pow_le_pow_right (by decide) hbits
  obtain ⟨-, hinside, hslice⟩ := contains_slice_ipv4 h hnum (k := k) (by omega)
  have hlt := hinside.mp hcont
  have hbnd : ofBytes number < 2 ^ 32 := by
    have hbnd := ofBytes_lt number
    rwa [hfour] at hbnd
  have hspace := add_pow_le hdvd hbnd hbits
  have hsix : (toBytes (n.number + k)).length = 6 := by
    apply (length_toBytes_eq_succ_iff _ 5).mpr
    constructor <;> omega
  have hlen : (n.hostAddress k).length = 4 := by
    unfold hostAddress vpnAssignedIPSlice
    rw [if_neg (by omega), List.length_drop, hsix]
  refine ⟨hlt, .inl hlen, ?_, hslice hlt⟩
  unfold addressLength
  rw [hlen, hnum, Option.isSome_some, if_pos rfl]

theorem Parsed.isHost_ipv6 (h : n.Parsed ones) (hnum : to4 n.ip = none)
    (hk : k ≤ 2 ^ n.hostBits ones) (hcont : n.contains (n.hostAddress k) = true) :
    n.IsHost ones k := by
  obtain ⟨hsixteen, -, hvalue⟩ := h.ipv6 hnum
  have hbits : n.hostBits ones ≤ 128 := by
    unfold hostBits
    omega
  have hsize : 2 ^ n.hostBits ones ≤ 2 ^ 128 := Nat.pow_le_pow_right (by decide) hbits
  have hbnd : ofBytes n.ip < 2 ^ 128 := by
    have hbnd := ofBytes_lt n.ip
    rwa [hsixteen] at hbnd
  have hspace := add_pow_le h.dvd hbnd hbits
  have hk' : k ≤ 2 ^ 128 := by omega
  obtain ⟨hinside, hslice⟩ := contains_slice_ipv6 h hnum hk'
  obtain ⟨hlt, hlarge⟩ := hinside.mp hcont
  have hbytes : (toBytes (n.number + k)).length = 16 := by
    apply (length_toBytes_eq_succ_iff _ 15).mpr
    constructor <;> omega
  have haddr : n.hostAddress k = toBytes (n.number + k) := by
    unfold hostAddress vpnAssignedIPSlice
    rw [if_pos hbytes]
  -- an address whose first byte is not zero is not an IPv4 address
  have hlong : to4 (n.hostAddress k) = none := by
    rw [haddr]
    apply to4_eq_none_of_le (by omega)
    rw [ofBytes_toBytes]
    omega
  have hlen : (n.hostAddress k).length = 16 := by rw [haddr, hbytes]
  refine ⟨hlt, .inr ⟨hlen, hlong⟩, ?_, hslice hlt hlarge⟩
  unfold addressLength
  rw [hlen, hnum, Option.isSome_none, if_neg (by decide)]

/-- The bytes of an address that the network contains are those of a host. -/
theorem Parsed.isHost (h : n.Parsed ones) (hk : k ≤ 2 ^ n.hostBits ones)
    (hcont : n.contains (n.hostAddress k) = true) : n.IsHost ones k := by
  cases hnum : to4 n.ip with
  | some number => exact h.isHost_ipv4 hnum hk hcont
  | none => exact h.isHost_ipv6 hnum hk hcont

/-- The number of leading ones of the mask, for addresses in their short form. -/
def prefixLength (n : IPNet) (ones : Nat) : Nat :=
  8 * n.addressLength - n.hostBits ones

/-- An address of a network in its long form, with the mask of the network. -/
theorem Parsed.networkNumberAndMask_host (h : n.Parsed ones) (hhost : n.IsHost ones k)
    {long : List UInt8} (hlong : to16 (n.hostAddress k) = some long) :
    (⟨long, n.mask⟩ : IPNet).networkNumberAndMask = some (n.hostAddress k,
      leadingOnes (n.prefixLength ones) (n.hostAddress k).length) := by
  obtain ⟨_, hlong', -, hshort⟩ := hhost.short.to16
  cases hlong.symm.trans hlong'
  have hlen := hhost.length
  unfold addressLength at hlen
  unfold prefixLength addressLength
  cases hnum : to4 n.ip with
  | some number =>
    obtain ⟨hfour, -, -, hform, -⟩ := h.ipv4 hnum
    rw [hnum, Option.isSome_some, if_pos rfl] at hlen
    rw [Option.isSome_some, if_pos rfl, hlen]
    exact networkNumberAndMask_of_mask hform hshort (hlen.trans hfour.symm)
  | none =>
    obtain ⟨hsixteen, hform, -⟩ := h.ipv6 hnum
    have hones : 8 * 16 - n.hostBits ones = ones := by
      have hle := h.ones_le
      unfold hostBits
      omega
    rw [hnum, Option.isSome_none, if_neg (by decide)] at hlen
    rw [Option.isSome_none, if_neg (by decide), hlen, hones]
    exact networkNumberAndMask_of_mask hform hshort (hlen.trans hsixteen.symm)

section Same

variable {n' : IPNet} {ones' : Nat}

theorem Same.hostAddress (h : n.Same ones n' ones') (k : Nat) :
    n'.hostAddress k = n.hostAddress k := by
  unfold IPNet.hostAddress
  rw [h.number]

theorem Same.addressLength (h : n.Same ones n' ones') : n'.addressLength = n.addressLength := by
  unfold IPNet.addressLength
  rw [h.family]

theorem Same.prefixLength (h : n.Same ones n' ones') :
    n'.prefixLength ones' = n.prefixLength ones := by
  unfold IPNet.prefixLength
  rw [h.addressLength, h.hostBits]

theorem Same.isHost (h : n.Same ones n' ones') (hhost : n'.IsHost ones' k) : n.IsHost ones k where
  lt := h.hostBits ▸ hhost.lt
  short := h.hostAddress k ▸ hhost.short
  length := by
    rw [← h.hostAddress, ← h.addressLength]
    exact hhost.length
  value := by
    rw [← h.hostAddress, ← h.number]
    exact hhost.value

end Same

end IPNet

/-! ## The peers of the script -/

namespace Components.ControlPlaneIngress

/-- Some address is in the networks of both texts. -/
def Overlap (net : NetText) (allowedIPs allowedIPs' : String) : Prop :=
  ∃ n n' ip, net.parseCIDR allowedIPs = some n ∧ net.parseCIDR allowedIPs' = some n' ∧
    n.contains ip = true ∧ n'.contains ip = true

/-- The peers of the script for a network, IPv4 or not: one for each VPN peer in the order of the
traversal, with the public key of the VPN peer and its address only.  No two overlap. -/
structure ScriptMatches (net : NetText) (parseCIDRAddress : String → Option (List UInt8))
    (isIPv4 : Bool) (vpnPeers : List (String × VPNPeer)) : Prop where
  peers : ∃ (address : String → List UInt8) (prefixLength : Nat),
    (∀ entry ∈ vpnPeers, entry.2.address = net.cidrText (address entry.1) prefixLength ∧
      (address entry.1).length = if isIPv4 then 4 else 16) ∧
    wireguardScriptPeers net parseCIDRAddress vpnPeers = vpnPeers.map fun entry =>
      ⟨entry.2.publicKey, net.cidrText (address entry.1) (if isIPv4 then 32 else 128)⟩
  disjoint : (wireguardScriptPeers net parseCIDRAddress vpnPeers).Pairwise fun peer peer' =>
    ¬ Overlap net peer.allowedIPs peer'.allowedIPs

end Components.ControlPlaneIngress

/-! ## Runs -/

namespace Cluster

/-- A call of `GenerateVPNPeer` that succeeds, or the import of the export. -/
inductive PeerStep (env : Environment) : Cluster → Cluster → Prop
  | generate {cluster cluster' : Cluster} {key : Except String WireGuardKey} {peerName : String}
      {vpnPeer : VPNPeer}
      (hrun : (generateVPNPeer env.net key peerName).run cluster = .ok vpnPeer cluster') :
      PeerStep env cluster cluster'
  | reimport {cluster cluster' : Cluster} {vpnPeerMap : List (String × VPNPeer)}
      (horder : cluster.vpnPeers.IsIteration vpnPeerMap)
      (himp : newClusterFromv1alpha1 env (cluster.export env.net vpnPeerMap) = .ok cluster') :
      PeerStep env cluster cluster'

/-- The peers have addresses of the network, by the numbers that `index` gives.  No number is
given twice. -/
structure Issued (net : NetText) (cidr : IPNet) (ones : Nat) (vpnPeers : VPNPeerMap)
    (index : String → Nat) : Prop where
  named : vpnPeers.Named
  card_lt : vpnPeers.keys.card < 2 ^ cidr.hostBits ones
  index_le : ∀ name ∈ vpnPeers.keys, index name ≤ vpnPeers.keys.card
  index_inj : ∀ name ∈ vpnPeers.keys, ∀ name' ∈ vpnPeers.keys,
    index name = index name' → name = name'
  host : ∀ name ∈ vpnPeers.keys, cidr.IsHost ones (index name)
  address : ∀ name peer, vpnPeers.lookup name = some peer →
    peer.address = net.cidrText (cidr.hostAddress (index name)) (cidr.prefixLength ones)

/-- What holds in every state of a run from a cluster with the given network. -/
structure PeersInvariant (net : NetText) (cidr : IPNet) (ones : Nat) (cluster : Cluster) :
    Prop where
  issued : ∃ index, Issued net cidr ones cluster.vpnPeers index
  network : ∀ cidr', cluster.vpn.cidr = some cidr' → ∃ ones', cidr.Same ones cidr' ones'

section Steps

variable {net : NetText} {parseCIDRAddress : String → Option (List UInt8)} {cidr : IPNet}
  {ones : Nat}

/-- A new peer with the next address. -/
theorem issued_insert {vpnPeers : VPNPeerMap} {index : String → Nat} {peerName : String}
    {vpnPeer : VPNPeer} (h : Issued net cidr ones vpnPeers index)
    (hnew : peerName ∉ vpnPeers.keys) (hname : vpnPeer.name = peerName)
    (hhost : cidr.IsHost ones (vpnPeers.keys.card + 1))
    (haddr : vpnPeer.address = net.cidrText (cidr.hostAddress (vpnPeers.keys.card + 1))
      (cidr.prefixLength ones)) :
    Issued net cidr ones (vpnPeers.insert peerName vpnPeer)
      (Function.update index peerName (vpnPeers.keys.card + 1)) := by
  have hkeys : (Finmap.insert peerName vpnPeer vpnPeers).keys =
      insert peerName vpnPeers.keys := by
    ext name
    simp [Finmap.mem_keys]
  have hcard : (Finmap.insert peerName vpnPeer vpnPeers).keys.card = vpnPeers.keys.card + 1 := by
    rw [hkeys, Finset.card_insert_of_notMem hnew]
  have hold : ∀ name ∈ vpnPeers.keys,
      Function.update index peerName (vpnPeers.keys.card + 1) name = index name := by
    intro name hname
    apply Function.update_of_ne
    intro heq
    exact hnew (heq ▸ hname)
  have hlast : Function.update index peerName (vpnPeers.keys.card + 1) peerName =
      vpnPeers.keys.card + 1 := Function.update_self ..
  refine ⟨?_, ?_, ?_, ?_, ?_, ?_⟩
  · intro name peer hlk
    by_cases heq : name = peerName
    · subst heq
      rw [Finmap.lookup_insert] at hlk
      cases hlk
      exact hname
    · rw [Finmap.lookup_insert_of_ne _ heq] at hlk
      exact h.named name peer hlk
  · rw [hcard]
    exact hhost.lt
  · rw [hcard, hkeys]
    intro name hmem
    rcases Finset.mem_insert.mp hmem with rfl | hmem
    · exact hlast.le
    · rw [hold name hmem]
      have hle := h.index_le name hmem
      omega
  · -- the new number is larger than those of the peers before
    rw [hkeys]
    intro name hname name' hname' heq
    rcases Finset.mem_insert.mp hname with rfl | hmem <;>
      rcases Finset.mem_insert.mp hname' with rfl | hmem'
    · rfl
    · rw [hlast, hold name' hmem'] at heq
      have hle := h.index_le name' hmem'
      omega
    · rw [hlast, hold name hmem] at heq
      have hle := h.index_le name hmem
      omega
    · rw [hold name hmem, hold name' hmem'] at heq
      exact h.index_inj name hmem name' hmem' heq
  · rw [hkeys]
    intro name hmem
    rcases Finset.mem_insert.mp hmem with rfl | hmem
    · rw [hlast]
      exact hhost
    · rw [hold name hmem]
      exact h.host name hmem
  · intro name peer hlk
    by_cases heq : name = peerName
    · subst heq
      rw [Finmap.lookup_insert] at hlk
      cases hlk
      rw [hlast]
      exact haddr
    · rw [Finmap.lookup_insert_of_ne _ heq] at hlk
      rw [hold name (Finmap.mem_keys.mpr (Finmap.mem_of_lookup_eq_some hlk))]
      exact h.address name peer hlk

/-- A request that succeeds gives the text of the next address, which the network contains. -/
theorem requestVPNIP_eq_ok {cluster : Cluster} {vpnIP : String}
    (h : cluster.requestVPNIP net = .ok vpnIP) :
    ∃ cidr', cluster.vpn.cidr = some cidr' ∧
      cidr'.contains (cidr'.hostAddress (cluster.vpnPeers.keys.card + 1)) = true ∧
      vpnIP = net.ipString (cidr'.hostAddress (cluster.vpnPeers.keys.card + 1)) := by
  cases hcidr : cluster.vpn.cidr with
  | none =>
    unfold requestVPNIP at h
    rw [hcidr] at h
    cases h
  | some cidr' =>
    by_cases hshort : (toBytes (cluster.nextVPNNumber cidr')).length < 2
    · unfold requestVPNIP at h
      rw [hcidr] at h
      dsimp only at h
      rw [if_pos hshort] at h
      cases h
    · have hlen := Nat.le_of_not_lt hshort
      by_cases hcont :
          cidr'.contains (vpnAssignedIPSlice (cluster.nextVPNNumber cidr')) = true
      · rw [requestVPNIP_of_contains hcidr hlen hcont] at h
        cases h
        exact ⟨cidr', rfl, hcont, rfl⟩
      · obtain ⟨message, herr⟩ :=
          @requestVPNIP_of_not_contains net cluster cidr' hcidr hlen hcont
        rw [herr] at h
        cases h

/-- The text of the address of a new peer. -/
theorem ipNetString_host (hnet : net.Documented parseCIDRAddress) {cidr' : IPNet} {ones' k : Nat}
    (hsame : cidr.Same ones cidr' ones') (hhost : cidr'.IsHost ones' k) :
    net.ipNetString ⟨(net.parseIP (net.ipString (cidr'.hostAddress k))).getD [], cidr'.mask⟩ =
      net.cidrText (cidr.hostAddress k) (cidr.prefixLength ones) := by
  obtain ⟨long, hlong, -, -⟩ := hhost.short.to16
  rw [hnet.parseIP_ipString hhost.short, hlong, Option.getD_some]
  have hform := hsame.parsed.networkNumberAndMask_host hhost hlong
  have hle : cidr'.prefixLength ones' ≤ 8 * (cidr'.hostAddress k).length := by
    rw [hhost.length]
    exact Nat.sub_le _ _
  rw [hnet.ipNetString_eq hform hle, hsame.hostAddress, hsame.prefixLength]

theorem PeersInvariant.generate (hnet : net.Documented parseCIDRAddress)
    {key : Except String WireGuardKey} {peerName : String} {cluster cluster' : Cluster}
    {vpnPeer : VPNPeer} (h : PeersInvariant net cidr ones cluster)
    (hrun : (generateVPNPeer net key peerName).run cluster = .ok vpnPeer cluster') :
    PeersInvariant net cidr ones cluster' := by
  change generateVPNPeer net key peerName cluster = _ at hrun
  unfold generateVPNPeer at hrun
  split at hrun
  next peer hpeer =>
    cases hrun
    exact h
  next hpeer =>
    split at hrun
    · cases hrun
    next vpnIP hreq =>
      split at hrun
      · cases hrun
      next key =>
        obtain ⟨cidr', hcidr, hcont, rfl⟩ := requestVPNIP_eq_ok hreq
        obtain ⟨index, hissued⟩ := h.issued
        obtain ⟨ones', hsame⟩ := h.network cidr' hcidr
        have hcard := hissued.card_lt
        rw [← hsame.hostBits] at hcard
        have hhost := hsame.parsed.isHost hcard hcont
        have hnew : peerName ∉ cluster.vpnPeers.keys :=
          mt Finmap.mem_keys.mp (Finmap.lookup_eq_none.mp hpeer)
        cases hrun
        refine ⟨⟨_, issued_insert hissued hnew rfl (hsame.isHost hhost) ?_⟩, h.network⟩
        rw [hcidr]
        exact ipNetString_host hnet hsame hhost

theorem PeersInvariant.reimport {env : Environment} (hnet : env.net.Documented parseCIDRAddress)
    {cluster cluster' : Cluster} {vpnPeerMap : List (String × VPNPeer)}
    (h : PeersInvariant env.net cidr ones cluster)
    (horder : cluster.vpnPeers.IsIteration vpnPeerMap)
    (himp : newClusterFromv1alpha1 env (cluster.export env.net vpnPeerMap) = .ok cluster') :
    PeersInvariant env.net cidr ones cluster' := by
  obtain ⟨joinKey, serviceAccount, vpn, -, -, hvpn, rfl⟩ := newClusterFromv1alpha1_eq_ok himp
  obtain ⟨index, hissued⟩ := h.issued
  constructor
  · refine ⟨index, ?_⟩
    show Issued env.net cidr ones
      (newVPNPeersFromv1alpha1 (VPNPeerMap.export vpnPeerMap)) index
    rw [newVPNPeersFromv1alpha1_export hissued.named horder]
    exact hissued
  · -- the network is lost unless the VPN is enabled, and then it is read back from its text
    intro cidr' hcidr'
    change vpn.cidr = some cidr' at hcidr'
    change newVPNFromv1alpha1 env.net (some (cluster.vpn.export env.net)) = .ok vpn at hvpn
    unfold VPN.export at hvpn
    split at hvpn
    next original _ horig =>
      obtain ⟨ones₁, hsame⟩ := h.network original horig
      obtain ⟨n', ones', hparse, hsame'⟩ := hnet.parseCIDR_ipNetString hsame.parsed
      cases hvpn
      have heq : newVPNCIDRFromv1alpha1 env.net (env.net.ipNetString original) = n' := by
        unfold newVPNCIDRFromv1alpha1
        rw [hparse, Option.getD_some]
      cases hcidr'
      rw [heq]
      exact ⟨ones', hsame.trans hsame'⟩
    next =>
      cases hvpn
      cases hcidr'

theorem PeersInvariant.step {env : Environment} (hnet : env.net.Documented parseCIDRAddress)
    {cluster cluster' : Cluster} (h : PeersInvariant env.net cidr ones cluster)
    (hstep : PeerStep env cluster cluster') : PeersInvariant env.net cidr ones cluster' := by
  cases hstep with
  | generate hrun => exact h.generate hnet hrun
  | reimport horder himp => exact h.reimport hnet horder himp

theorem PeersInvariant.start {cluster : Cluster} (hparsed : cidr.Parsed ones)
    (hcidr : cluster.vpn.cidr = some cidr) (hpeers : cluster.vpnPeers = ∅) :
    PeersInvariant net cidr ones cluster where
  issued := by
    rw [hpeers]
    refine ⟨fun _ => 0, ?_, ?_, ?_, ?_, ?_, ?_⟩
    · intro name peer hlk
      cases hlk
    · exact Nat.two_pow_pos _
    · intro name hmem
      simp at hmem
    · intro name hmem
      simp at hmem
    · intro name hmem
      simp at hmem
    · intro name peer hlk
      cases hlk
  network := by
    intro cidr' hcidr'
    rw [hcidr] at hcidr'
    cases hcidr'
    exact ⟨ones, .refl hparsed⟩

theorem PeersInvariant.run {env : Environment} (hnet : env.net.Documented parseCIDRAddress)
    {cluster cluster' : Cluster} (h : PeersInvariant env.net cidr ones cluster)
    (hrun : Relation.ReflTransGen (PeerStep env) cluster cluster') :
    PeersInvariant env.net cidr ones cluster' := by
  induction hrun with
  | refl => exact h
  | tail _ hstep ih => exact ih.step hnet hstep

end Steps

end Cluster

/-! ## The script in the states of a run -/

namespace Components.ControlPlaneIngress

open Cluster

section ScriptMatches

variable {net : NetText} {parseCIDRAddress : String → Option (List UInt8)} {cidr : IPNet}
  {ones : Nat} {vpnPeers : VPNPeerMap} {index : String → Nat}
  {vpnPeerMap : List (String × VPNPeer)}

/-- The host of an entry of a traversal. -/
theorem isHost_of_mem (h : Issued net cidr ones vpnPeers index)
    (horder : vpnPeers.IsIteration vpnPeerMap) {entry : String × VPNPeer}
    (hentry : entry ∈ vpnPeerMap) :
    entry.1 ∈ vpnPeers.keys ∧ cidr.IsHost ones (index entry.1) ∧
      entry.2.address =
        net.cidrText (cidr.hostAddress (index entry.1)) (cidr.prefixLength ones) := by
  have hlk := horder.mem_iff.mp hentry
  have hmem := Finmap.mem_keys.mpr (Finmap.mem_of_lookup_eq_some hlk)
  exact ⟨hmem, h.host entry.1 hmem, h.address entry.1 entry.2 hlk⟩

/-- The peers of the script are all peers, each with its address and all bits in the mask. -/
theorem wireguardScriptPeers_eq (hnet : net.Documented parseCIDRAddress)
    (h : Issued net cidr ones vpnPeers index) (horder : vpnPeers.IsIteration vpnPeerMap) :
    wireguardScriptPeers net parseCIDRAddress vpnPeerMap = vpnPeerMap.map fun entry =>
      ⟨entry.2.publicKey,
        net.cidrText (cidr.hostAddress (index entry.1)) (8 * cidr.addressLength)⟩ := by
  unfold wireguardScriptPeers
  rw [← List.filterMap_eq_map]
  apply List.filterMap_congr
  intro entry hentry
  obtain ⟨-, hhost, haddr⟩ := isHost_of_mem h horder hentry
  obtain ⟨long, hlong, hsixteen, -⟩ := hhost.short.to16
  have hle : cidr.prefixLength ones ≤ 8 * (cidr.hostAddress (index entry.1)).length := by
    rw [hhost.length]
    exact Nat.sub_le _ _
  have hparse : parseCIDRAddress entry.2.address = some long := by
    rw [haddr, hnet.parseCIDRAddress_cidrText hhost.short hle, hlong]
  rw [hparse]
  dsimp only
  rw [if_pos hsixteen,
    hnet.ipNetString_eq (IPNet.networkNumberAndMask_long hhost.short hlong) le_rfl, hhost.length]
  rfl

/-- The addresses of different peers do not overlap. -/
theorem not_overlap (hnet : net.Documented parseCIDRAddress)
    (h : Issued net cidr ones vpnPeers index) {name name' : String}
    (hname : name ∈ vpnPeers.keys) (hname' : name' ∈ vpnPeers.keys) (hne : name ≠ name') :
    ¬ Overlap net (net.cidrText (cidr.hostAddress (index name)) (8 * cidr.addressLength))
      (net.cidrText (cidr.hostAddress (index name')) (8 * cidr.addressLength)) := by
  have hhost := h.host name hname
  have hhost' := h.host name' hname'
  obtain ⟨n, hparse, hcont⟩ := hnet.parseCIDR_all hhost.short
  obtain ⟨n', hparse', hcont'⟩ := hnet.parseCIDR_all hhost'.short
  rw [hhost.length] at hparse
  rw [hhost'.length] at hparse'
  intro ⟨m, m', ip, hm, hm', hip, hip'⟩
  cases hm.symm.trans hparse
  cases hm'.symm.trans hparse'
  -- the common address is that of both peers, and so they have one number
  have heq := ((hcont ip).mp hip).symm.trans ((hcont' ip).mp hip')
  have hvalue := hhost.value
  rw [heq, hhost'.value] at hvalue
  have hindex : index name' = index name := Nat.add_left_cancel (Option.some.inj hvalue)
  exact hne (h.index_inj name' hname' name hname hindex).symm

theorem scriptMatches_of_issued (hnet : net.Documented parseCIDRAddress)
    (h : Issued net cidr ones vpnPeers index) (horder : vpnPeers.IsIteration vpnPeerMap) :
    ScriptMatches net parseCIDRAddress (to4 cidr.ip).isSome vpnPeerMap where
  peers := by
    refine ⟨fun name => cidr.hostAddress (index name), cidr.prefixLength ones, ?_, ?_⟩
    · intro entry hentry
      obtain ⟨-, hhost, haddr⟩ := isHost_of_mem h horder hentry
      exact ⟨haddr, hhost.length⟩
    · rw [wireguardScriptPeers_eq hnet h horder]
      have hall : 8 * cidr.addressLength = if (to4 cidr.ip).isSome then 32 else 128 := by
        unfold IPNet.addressLength
        split_ifs <;> rfl
      rw [hall]
  disjoint := by
    rw [wireguardScriptPeers_eq hnet h horder, List.pairwise_map]
    refine (List.pairwise_map.mp horder.nodup_keys).imp_of_mem ?_
    intro entry entry' hentry hentry' hne
    exact not_overlap hnet h (isHost_of_mem h horder hentry).1 (isHost_of_mem h horder hentry').1
      hne

end ScriptMatches

/-- In every state of a run from a cluster without peers, the peers of the script match those of
the cluster. -/
theorem scriptMatches {env : Environment} {parseCIDRAddress : String → Option (List UInt8)}
    (hnet : env.net.Documented parseCIDRAddress) {cluster cluster' : Cluster} {cidr : IPNet}
    {ones : Nat} (hparsed : cidr.Parsed ones) (hcidr : cluster.vpn.cidr = some cidr)
    (hpeers : cluster.vpnPeers = ∅)
    (hrun : Relation.ReflTransGen (PeerStep env) cluster cluster')
    {vpnPeerMap : List (String × VPNPeer)} (horder : cluster'.vpnPeers.IsIteration vpnPeerMap) :
    ScriptMatches env.net parseCIDRAddress (to4 cidr.ip).isSome vpnPeerMap := by
  have hinv := (PeersInvariant.start hparsed hcidr hpeers).run hnet hrun
  obtain ⟨index, hissued⟩ := hinv.issued
  exact scriptMatches_of_issued hnet hissued horder

/-- In an IPv4 network with room a new peer can be generated. -/
theorem exists_generate {env : Environment} {cluster : Cluster} {cidr : IPNet} {ones : Nat}
    (hcidr : cluster.vpn.cidr = some cidr) (hparsed : cidr.Parsed ones)
    (hipv4 : (to4 cidr.ip).isSome = true)
    (hroom : cluster.vpnPeers.keys.card + 1 < 2 ^ cidr.hostBits ones)
    (hcount : cluster.vpnPeers.keys.card + 1 < 2 ^ 63) {peerName : String}
    (hnew : cluster.vpnPeers.lookup peerName = none) :
    ∃ vpnPeer, PeerStep env cluster
      { cluster with vpnPeers := cluster.vpnPeers.insert peerName vpnPeer } := by
  have hassigns :=
    (@assignsNext_iff env.net cluster cidr ones hcidr hparsed hcount).mpr (.inl hipv4)
  unfold AssignsNext at hassigns
  rw [if_pos hroom] at hassigns
  obtain ⟨address, -, hreq⟩ := hassigns
  have hrun : ∃ vpnPeer, (generateVPNPeer env.net (.ok ⟨"private", "public"⟩) peerName).run
      cluster = .ok vpnPeer
        { cluster with vpnPeers := cluster.vpnPeers.insert peerName vpnPeer } := by
    unfold generateVPNPeer vpnPeer
    simp only [EStateM.run, hnew, hreq]
    exact ⟨_, rfl⟩
  obtain ⟨vpnPeer, hrun⟩ := hrun
  exact ⟨vpnPeer, .generate hrun⟩

/-- Two peers of `10.0.0.0/16`, with an export and an import between them. -/
theorem scriptMatches_reimported :
    let env : Environment := { keylessEnvironment with net := .dotted }
    let cidr : IPNet := ⟨[10, 0, 0, 0], leadingOnes 16 4⟩
    ∃ cluster vpnPeerMap,
      Relation.ReflTransGen (PeerStep env) (withVPNNetwork cidr) cluster ∧
      cluster.vpnPeers.IsIteration vpnPeerMap ∧ vpnPeerMap.length = 2 ∧
      ScriptMatches .dotted
        (fun text => (NetText.parseDottedCIDR text.toList).bind fun parsed => to16 parsed.1) true
        vpnPeerMap := by
  intro env cidr
  have hparsed : cidr.Parsed 16 := by decide +kernel
  have hnet := NetText.documented_dotted
  obtain ⟨worker, hfirst⟩ : ∃ worker, PeerStep env (withVPNNetwork cidr)
      { withVPNNetwork cidr with vpnPeers := (∅ : VPNPeerMap).insert "worker-a" worker } :=
    exists_generate rfl hparsed rfl (by decide) (by decide) rfl
  let first : Cluster :=
    { withVPNNetwork cidr with vpnPeers := (∅ : VPNPeerMap).insert "worker-a" worker }
  have hinv := (PeersInvariant.start hparsed rfl rfl).step hnet hfirst
  obtain ⟨index, hissued⟩ := hinv.issued
  -- the cluster that is read back has the peer, and the network from its text
  obtain ⟨order, horder⟩ := GoMap.exists_isIteration first.vpnPeers
  obtain ⟨cidr', ones', hparse, hsame⟩ := hnet.parseCIDR_ipNetString hparsed
  let imported : Cluster := importedCluster (first.export env.net order) none {}
    ⟨true, "", "", some (newVPNCIDRFromv1alpha1 env.net (env.net.ipNetString cidr))⟩
  have hsnd : PeerStep env first imported := .reimport horder rfl
  have hpeers : imported.vpnPeers = first.vpnPeers :=
    newVPNPeersFromv1alpha1_export hissued.named horder
  have hcidr' : imported.vpn.cidr = some cidr' := by
    show some (newVPNCIDRFromv1alpha1 env.net (env.net.ipNetString cidr)) = _
    unfold newVPNCIDRFromv1alpha1
    rw [hparse, Option.getD_some]
  have hbits : cidr'.hostBits ones' = 16 := hsame.hostBits
  have hcard : imported.vpnPeers.keys.card = 1 := by
    rw [hpeers]
    rfl
  have hnew : imported.vpnPeers.lookup "worker-b" = none := by
    rw [hpeers]
    rfl
  obtain ⟨worker', hthird⟩ := @exists_generate env imported cidr' ones' hcidr' hsame.parsed
    hsame.family (by rw [hcard, hbits]; decide) (by rw [hcard]; decide) "worker-b" hnew
  obtain ⟨vpnPeerMap, horder'⟩ :=
    GoMap.exists_isIteration (imported.vpnPeers.insert "worker-b" worker')
  have hrun : Relation.ReflTransGen (PeerStep env) (withVPNNetwork cidr)
      { imported with vpnPeers := imported.vpnPeers.insert "worker-b" worker' } :=
    ((Relation.ReflTransGen.single hfirst).tail hsnd).tail hthird
  refine ⟨_, vpnPeerMap, hrun, horder', ?_, scriptMatches hnet hparsed rfl rfl hrun horder'⟩
  rw [horder'.length_eq, hpeers]
  rfl

end Components.ControlPlaneIngress

end OneInfra
