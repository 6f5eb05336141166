import OneInfra.Cluster.Cluster
import OneInfra.Lib.BigEndian
import OneInfra.Lib.Prog

/-!
# The VPN of a cluster

`GenerateVPNPeer` and `requestVPNIP` of `internal/pkg/cluster/cluster.go`, and
the functions of the package `net` that they call.  An address is the list of
its bytes, of any length, as `net.IP` is.

The functions between addresses and their texts are the fields of `NetText`,
and `wgtypes.GeneratePrivateKey` is an argument: a new key or an error.  The
texts do not decide whether a call panics.  `NetText.ipv4` are the texts of IPv4
addresses, for runs on given inputs.

`requestVPNIP` writes the next address as the bytes of a number and drops the
first two of them.  `requestVPNIP_panics_iff` says when there are none to
drop: when the network number plus the number of the next peer is below 256.
-/

namespace OneInfra

open Lib BigEndian

/-- The conversions of the package `net` between addresses and texts. -/
structure NetText where
  /-- `net.ParseCIDR`, without its first result. -/
  parseCIDR : String → Option IPNet
  /-- `net.ParseIP`. -/
  parseIP : String → Option (List UInt8)
  /-- `IP.String`. -/
  ipString : List UInt8 → String
  /-- `IPNet.String`. -/
  ipNetString : IPNet → String

/-- A WireGuard private key and the public key of it, as texts. -/
structure WireGuardKey where
  privateKey : String
  publicKey : String
deriving DecidableEq, Repr

/-! ## Addresses -/

/-- The first twelve bytes of an IPv4 address in its 16-byte form. -/
def v4InV6Prefix : List UInt8 := [0, 0, 0, 0, 0, 0, 0, 0, 0, 0, 0xff, 0xff]

/-- `IP.To4`. -/
def to4 (ip : List UInt8) : Option (List UInt8) :=
  if ip.length = 4 then some ip
  else if ip.length = 16 ∧ ip.take 12 = v4InV6Prefix then some (ip.drop 12)
  else none

/-- `IP.To16`. -/
def to16 (ip : List UInt8) : Option (List UInt8) :=
  if ip.length = 4 then some (v4InV6Prefix ++ ip)
  else if ip.length = 16 then some ip
  else none

namespace IPNet

/-- `networkNumberAndMask`, with a mask as long as the number. -/
def networkNumberAndMask (n : IPNet) : Option (List UInt8 × List UInt8) :=
  let ip := (to4 n.ip).getD n.ip
  if ip.length = 4 then
    if n.mask.length = 4 then some (ip, n.mask)
    else if n.mask.length = 16 then some (ip, n.mask.drop 12)
    else none
  else if ip.length = 16 then
    if n.mask.length = 16 then some (ip, n.mask) else none
  else none

/-- `IPNet.Contains`.  Without a network number the empty address is
contained. -/
def contains (n : IPNet) (ip : List UInt8) : Bool :=
  let number := (n.networkNumberAndMask.map Prod.fst).getD []
  let mask := (n.networkNumberAndMask.map Prod.snd).getD []
  let ip := (to4 ip).getD ip
  ip.length = number.length &&
    List.zipWith (· &&& ·) number mask = List.zipWith (· &&& ·) ip mask

/-- The network number as `requestVPNIP` reads it: that of the 16-byte form,
and zero for an address without one. -/
def number (n : IPNet) : Nat :=
  ofBytes ((to16 n.ip).getD [])

end IPNet

/-! ## The texts of IPv4 addresses -/

namespace NetText

/-- A decimal number. -/
def parseDecimal (text : List Char) : Option Nat :=
  if text ≠ [] ∧ text.all Char.isDigit then
    some (text.foldl (fun n digit => n * 10 + (digit.toNat - '0'.toNat)) 0)
  else none

/-- Four decimal numbers below 256, separated by dots. -/
def parseIPv4 (text : List Char) : Option (List UInt8) := do
  let numbers ← (text.splitOn '.').mapM parseDecimal
  if numbers.length = 4 ∧ numbers.all (· < 256) then some (numbers.map UInt8.ofNat) else none

/-- `net.CIDRMask` for IPv4. -/
def ipv4Mask (ones : Nat) : List UInt8 :=
  (List.range 4).map fun i => UInt8.ofNat (0xff - 0xff >>> min 8 (ones - 8 * i))

/-- An IPv4 address and the length of a mask, separated by a slash. -/
def parseIPv4CIDR (text : List Char) : Option IPNet :=
  match text.splitOn '/' with
  | [address, length] => do
    let ip ← parseIPv4 address
    let ones ← parseDecimal length
    if ones ≤ 32 then some ⟨List.zipWith (· &&& ·) ip (ipv4Mask ones), ipv4Mask ones⟩ else none
  | _ => none

/-- The dotted text of an IPv4 address. -/
def ipv4String (ip : List UInt8) : String :=
  match to4 ip with
  | some ip => ".".intercalate (ip.map fun byte => toString byte.toNat)
  | none => "<nil>"

/-- The text of an IPv4 network with a mask of leading ones. -/
def ipv4NetString (n : IPNet) : String :=
  match n.networkNumberAndMask with
  | some (number, mask) =>
    match (List.range 33).find? fun ones => ipv4Mask ones = mask with
    | some ones => ipv4String number ++ "/" ++ toString ones
    | none => "<nil>"
  | none => "<nil>"

/-- The conversions of the package `net`, for IPv4. -/
def ipv4 : NetText where
  parseCIDR text := parseIPv4CIDR text.toList
  parseIP text := (parseIPv4 text.toList).map (v4InV6Prefix ++ ·)
  ipString := ipv4String
  ipNetString := ipv4NetString

example : ipv4.parseCIDR "10.0.7.9/16" = some ⟨[10, 0, 0, 0], [255, 255, 0, 0]⟩ := by decide

example : ipv4.ipNetString ⟨v4InV6Prefix ++ [10, 0, 0, 1], [255, 255, 0, 0]⟩ = "10.0.0.1/16" := by
  decide +kernel

end NetText

/-- A new peer is one more. -/
theorem VPNPeerMap.card_keys_insert {vpnPeers : VPNPeerMap} {peerName : String}
    {vpnPeer : VPNPeer} (hnew : vpnPeers.lookup peerName = none) :
    (vpnPeers.insert peerName vpnPeer).keys.card = vpnPeers.keys.card + 1 := by
  have hkeys : (vpnPeers.insert peerName vpnPeer).keys = insert peerName vpnPeers.keys := by
    ext name
    simp [Finmap.mem_keys]
  rw [hkeys, Finset.card_insert_of_notMem]
  rw [Finmap.mem_keys]
  exact Finmap.lookup_eq_none.mp hnew

namespace Cluster

/-! ## The next address -/

/-- The number of the address that the next peer gets. -/
def nextVPNNumber (cluster : Cluster) (cidr : IPNet) : Nat :=
  cidr.number + (cluster.vpnPeers.keys.card + 1)

/-- `requestVPNIP`. -/
def requestVPNIP (net : NetText) (cluster : Cluster) : Except Fault String :=
  match cluster.vpn.cidr with
  | none => .error (.panic "invalid memory address or nil pointer dereference")
  | some cidr =>
    let vpnAssignedIP := toBytes (cluster.nextVPNNumber cidr)
    -- the expression `Bytes()[2:]`, which is evaluated in every case
    if vpnAssignedIP.length < 2 then .error (.panic "slice bounds out of range")
    else
      let vpnAssignedIPSlice :=
        if vpnAssignedIP.length = 16 then vpnAssignedIP else vpnAssignedIP.drop 2
      if cidr.contains vpnAssignedIPSlice then .ok (net.ipString vpnAssignedIPSlice)
      else .error (.error ("not enough IP addresses to assign in the \"" ++
        net.ipNetString cidr ++ "\" CIDR"))

/-- `VPNPeer`. -/
def vpnPeer (cluster : Cluster) (name : String) : Option VPNPeer :=
  cluster.vpnPeers.lookup name

/-- `GenerateVPNPeer`.  A peer of that name is returned as it is. -/
def generateVPNPeer (net : NetText) (key : Except String WireGuardKey) (peerName : String) :
    EStateM Fault Cluster VPNPeer := fun cluster =>
  match cluster.vpnPeer peerName with
  | some vpnPeer => .ok vpnPeer cluster
  | none =>
    match cluster.requestVPNIP net with
    | .error fault => .error fault cluster
    | .ok vpnIP =>
      match key with
      | .error message => .error (.error message) cluster
      | .ok key =>
        let ipAddressNet : IPNet :=
          ⟨(net.parseIP vpnIP).getD [], (cluster.vpn.cidr.map IPNet.mask).getD []⟩
        let vpnPeer : VPNPeer :=
          ⟨peerName, net.ipNetString ipAddressNet, key.privateKey, key.publicKey⟩
        .ok vpnPeer { cluster with vpnPeers := cluster.vpnPeers.insert peerName vpnPeer }

/-- A request for an address panics exactly when the number of the address is
below 256. -/
theorem requestVPNIP_panics_iff (net : NetText) {cluster : Cluster} {cidr : IPNet}
    (hcidr : cluster.vpn.cidr = some cidr) :
    ExceptPanics (cluster.requestVPNIP net) ↔ cluster.nextVPNNumber cidr < 256 := by
  have hlen : (toBytes (cluster.nextVPNNumber cidr)).length < 2 ↔
      cluster.nextVPNNumber cidr < 256 := by
    rw [Nat.lt_succ_iff, length_toBytes_le_iff, pow_one]
  rw [← hlen]
  simp only [requestVPNIP, hcidr]
  split_ifs with hshort
  · exact iff_of_true ⟨_, rfl⟩ hshort
  all_goals
    refine iff_of_false ?_ hshort
    rintro ⟨message, h⟩
    cases h

/-- For a cluster with a network, some peer name makes `GenerateVPNPeer` panic
exactly when a request for an address does. -/
theorem generateVPNPeer_panics_iff (net : NetText) {cluster : Cluster} {cidr : IPNet}
    (hcidr : cluster.vpn.cidr = some cidr) :
    (∃ key peerName, Panics ((generateVPNPeer net key peerName).run cluster)) ↔
      cluster.nextVPNNumber cidr < 256 := by
  rw [← requestVPNIP_panics_iff net hcidr]
  constructor
  · rintro ⟨key, peerName, message, cluster', hrun⟩
    simp only [EStateM.run, generateVPNPeer] at hrun
    cases hpeer : cluster.vpnPeer peerName with
    | some vpnPeer => simp [hpeer] at hrun
    | none =>
      cases hreq : cluster.requestVPNIP net with
      | error fault =>
        simp only [hpeer, hreq] at hrun
        cases hrun
        exact ⟨message, rfl⟩
      | ok vpnIP => cases key <;> simp [hpeer, hreq] at hrun
  · rintro ⟨message, hreq⟩
    -- a name that no peer has
    obtain ⟨peerName, hfresh⟩ := Infinite.exists_notMem_finset cluster.vpnPeers.keys
    have hpeer : cluster.vpnPeer peerName = none :=
      Finmap.lookup_eq_none.mpr (mt Finmap.mem_keys.mpr hfresh)
    refine ⟨.error "", peerName, message, cluster, ?_⟩
    simp only [EStateM.run, generateVPNPeer, hpeer, hreq]

end Cluster

end OneInfra
