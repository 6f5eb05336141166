import OneInfra.Conditions
import OneInfra.Lib.GoMap

/-!
# Clusters in memory

`Cluster` follows `internal/pkg/cluster/cluster.go`, and the records below it
are those of `internal/pkg/certificates`, `internal/pkg/crypto` and of the
other files of `internal/pkg/cluster`.  A pointer that can be nil is an
`Option`.

The parsed forms that a certificate or a key pair caches next to its PEM
text are absent, and so are the two client sets of a cluster.
`loadedContentsHash` belongs to the copy that a controller loads.  The number
of replicas is a machine integer, since a controller subtracts it from a
length.
-/

namespace OneInfra

open Lib Conditions

/-- `certificates.Certificate`, by its PEM texts. -/
structure Certificate where
  certificate : String
  privateKey : String
deriving DecidableEq, Repr

/-- `crypto.KeyPair`, by its PEM texts. -/
structure KeyPair where
  publicKey : String
  privateKey : String
deriving DecidableEq, Repr

/-- `CertificateAuthorities`. -/
structure CertificateAuthorities where
  apiServerClient : Option Certificate := none
  certificateSigner : Option Certificate := none
  kubelet : Option Certificate := none
  kubeletClient : Option Certificate := none
  etcdClient : Option Certificate := none
  etcdPeer : Option Certificate := none
deriving DecidableEq, Repr

/-- `EtcdServer`. -/
structure EtcdServer where
  ca : Option Certificate := none
deriving DecidableEq, Repr

/-- `KubeAPIServer`. -/
structure KubeAPIServer where
  ca : Option Certificate := none
  serviceAccount : Option KeyPair := none
  extraSANs : List String := []
deriving DecidableEq, Repr

/-- `net.IPNet`: the bytes of the network number and of its mask. -/
structure IPNet where
  ip : List UInt8 := []
  mask : List UInt8 := []
deriving DecidableEq, Repr

/-- `VPN`. -/
structure VPN where
  enabled : Bool
  privateKey : String := ""
  publicKey : String := ""
  cidr : Option IPNet := none
deriving DecidableEq, Repr

/-- `VPNPeer`. -/
structure VPNPeer where
  name : String
  address : String
  privateKey : String
  publicKey : String
deriving DecidableEq, Repr

/-- `VPNPeerMap`. -/
abbrev VPNPeerMap := GoMap String VPNPeer

/-- `Cluster`. -/
structure Cluster where
  name : String
  «namespace» : String
  resourceVersion : Nat := 0
  labels : GoMap String String := ∅
  annotations : GoMap String String := ∅
  finalizers : List String := []
  deletionTimestamp : Option Nat := none
  kubernetesVersion : String := ""
  controlPlaneReplicas : Int64 := 0
  certificateAuthorities : Option CertificateAuthorities := none
  etcdServer : Option EtcdServer := none
  apiServer : Option KubeAPIServer := none
  clientCertificates : GoMap String Certificate := ∅
  storageClientEndpoints : GoMap String String := ∅
  storagePeerEndpoints : GoMap String String := ∅
  vpn : VPN := { enabled := false }
  vpnPeers : VPNPeerMap := ∅
  apiServerEndpoint : String := ""
  vpnServerEndpoint : String := ""
  joinKey : Option KeyPair := none
  desiredJoinTokens : List String := []
  currentJoinTokens : List String := []
  conditions : ConditionList := []
  clusterCIDR : String := ""
  serviceCIDR : String := ""
  nodeCIDRMaskSize : Int := 0
  nodeCIDRMaskSizeIPv4 : Int := 0
  nodeCIDRMaskSizeIPv6 : Int := 0

end OneInfra
