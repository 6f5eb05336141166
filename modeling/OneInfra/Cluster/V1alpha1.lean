import OneInfra.Cluster.VPN

/-!
# Versioned clusters, their webhook and their import

`V1alpha1.Cluster` follows `apis/cluster/v1alpha1/cluster_types.go`, and the
defaults are those of `cluster_webhook.go`.  The function
`newClusterFromv1alpha1` imports a cluster, as in
`internal/pkg/cluster/cluster.go`.  Certificates, key pairs and the records made
of them have the same fields on both sides, so they share their types with the
cluster in memory.

`Environment` holds what the code gets from outside: the texts of the package
`net`, the PEM and RSA parsing of a private key, the version that the release
sets as the default, and the outcome of the key generation in the webhook.

The dereferences of the import can panic.  `newVPNFromv1alpha1` reads both VPN
keys through their pointers as soon as the CIDR is set, whether the VPN is
enabled or not.
-/

namespace OneInfra

open Lib Conditions

namespace V1alpha1

/-- `VPN`. -/
structure VPN where
  enabled : Bool
  privateKey : Option String := none
  publicKey : Option String := none
  cidr : Option String := none
deriving DecidableEq, Repr

/-- `ClusterNetworking`. -/
structure ClusterNetworking where
  clusterCIDR : String := ""
  serviceCIDR : String := ""
  nodeCIDRMaskSize : Int := 0
  nodeCIDRMaskSizeIPv4 : Int := 0
  nodeCIDRMaskSizeIPv6 : Int := 0
deriving DecidableEq, Repr

/-- `ClusterSpec`. -/
structure ClusterSpec where
  kubernetesVersion : String := ""
  controlPlaneReplicas : Int64 := 0
  certificateAuthorities : Option CertificateAuthorities := none
  etcdServer : Option EtcdServer := none
  apiServer : Option KubeAPIServer := none
  vpn : Option VPN := none
  joinKey : Option KeyPair := none
  joinTokens : List String := []
  networking : Option ClusterNetworking := none
deriving DecidableEq

/-- `ClusterStatus`. -/
structure ClusterStatus where
  clientCertificates : GoMap String Certificate := ∅
  storageClientEndpoints : GoMap String String := ∅
  storagePeerEndpoints : GoMap String String := ∅
  vpnPeers : List VPNPeer := []
  apiServerEndpoint : String := ""
  vpnServerEndpoint : String := ""
  joinTokens : List String := []
  conditions : ConditionList := []

/-- `Cluster`, with the fields of its `ObjectMeta` that the code reads. -/
structure Cluster where
  name : String
  «namespace» : String
  resourceVersion : Nat := 0
  labels : GoMap String String := ∅
  annotations : GoMap String String := ∅
  finalizers : List String := []
  deletionTimestamp : Option Nat := none
  spec : ClusterSpec := {}
  status : ClusterStatus := {}

end V1alpha1

/-- What the admission and the import of a cluster get from outside. -/
structure Environment where
  net : NetText
  /-- `crypto.NewKeyPairFromString`. -/
  newKeyPairFromString : String → Except String KeyPair
  /-- A pair keeps the text that it is read from. -/
  newKeyPairFromString_privateKey : ∀ privateKey keyPair,
    newKeyPairFromString privateKey = .ok keyPair → keyPair.privateKey = privateKey
  /-- `constants.ReleaseData.DefaultKubernetesVersion`. -/
  defaultKubernetesVersion : String
  /-- The outcome of `wgtypes.GeneratePrivateKey` in the webhook. -/
  generatePrivateKey : Except String WireGuardKey

/-- `utils.AddElementsToListIfNotExists` for one element. -/
def addElementToListIfNotExists (list : List String) (element : String) : List String :=
  if element ∈ list then list else list ++ [element]

/-- `constants.OneInfraCleanupFinalizer`. -/
def oneInfraCleanupFinalizer : String := "oneinfra/cleanup"

/-- `constants.DefaultVPNCIDR`. -/
def defaultVPNCIDR : String := "10.0.0.0/16"

namespace V1alpha1.Cluster

/-! ## The webhook -/

/-- `addFinalizer`. -/
def addFinalizer (cluster : Cluster) : Cluster :=
  if cluster.deletionTimestamp.isSome then cluster
  else { cluster with
    finalizers := addElementToListIfNotExists cluster.finalizers oneInfraCleanupFinalizer }

/-- `defaultKubernetesVersion`. -/
def withDefaultKubernetesVersion (env : Environment) (cluster : Cluster) : Cluster :=
  if cluster.spec.kubernetesVersion = "" ∨ cluster.spec.kubernetesVersion = "default" then
    { cluster with spec.kubernetesVersion := env.defaultKubernetesVersion }
  else cluster

/-- `defaultControlPlaneReplicas`. -/
def defaultControlPlaneReplicas (cluster : Cluster) : Cluster :=
  if cluster.spec.controlPlaneReplicas = 0 then
    { cluster with spec.controlPlaneReplicas := 1 }
  else cluster

/-- `defaultVPN` on the VPN itself.  A failed generation leaves the keys as
they are. -/
def defaultedVPN (env : Environment) : Option VPN → VPN
  | none => { enabled := false }
  | some vpn =>
    let vpn := if vpn.enabled && vpn.cidr.isNone then { vpn with cidr := some defaultVPNCIDR }
      else vpn
    if vpn.enabled && (vpn.privateKey.isNone || vpn.publicKey.isNone) then
      match env.generatePrivateKey with
      | .error _ => vpn
      | .ok key => { vpn with
          privateKey := some key.privateKey, publicKey := some key.publicKey }
    else vpn

/-- `defaultVPN`. -/
def defaultVPN (env : Environment) (cluster : Cluster) : Cluster :=
  { cluster with spec.vpn := some (defaultedVPN env cluster.spec.vpn) }

/-- `needsCertificateInitialization`. -/
def needsCertificateInitialization (cluster : Cluster) : Bool :=
  (match cluster.spec.certificateAuthorities with
    | none => true
    | some authorities => authorities.apiServerClient.isNone ||
        authorities.certificateSigner.isNone || authorities.kubelet.isNone ||
        authorities.kubeletClient.isNone || authorities.etcdClient.isNone ||
        authorities.etcdPeer.isNone) ||
  (match cluster.spec.etcdServer with
    | none => true
    | some etcdServer => etcdServer.ca.isNone) ||
  (match cluster.spec.apiServer with
    | none => true
    | some apiServer => apiServer.ca.isNone || apiServer.serviceAccount.isNone) ||
  cluster.spec.joinKey.isNone

/-- `constants.OneInfraClusterUninitializedCertificates`. -/
def uninitializedCertificatesLabel : String := "oneinfra/uninitialized-certificates"

/-- `defaultUninitializedCertificatesLabel`. -/
def defaultUninitializedCertificatesLabel (cluster : Cluster) : Cluster :=
  if cluster.needsCertificateInitialization then
    { cluster with labels := cluster.labels.insert uninitializedCertificatesLabel "" }
  else cluster

/-- `defaultNetworking`. -/
def defaultNetworking (cluster : Cluster) : Cluster :=
  let networking := cluster.spec.networking.getD {}
  { cluster with spec.networking := some { networking with
      clusterCIDR := if networking.clusterCIDR = "" then "10.244.0.0/16"
        else networking.clusterCIDR
      serviceCIDR := if networking.serviceCIDR = "" then "10.96.0.0/12"
        else networking.serviceCIDR } }

/-- `Default`. -/
def default (env : Environment) (cluster : Cluster) : Cluster :=
  let cluster := cluster.addFinalizer
  let cluster := cluster.withDefaultKubernetesVersion env
  let cluster := cluster.defaultControlPlaneReplicas
  let cluster := cluster.defaultVPN env
  let cluster := cluster.defaultUninitializedCertificatesLabel
  cluster.defaultNetworking

/-- `ValidateCreate`, which accepts every cluster. -/
def validateCreate (_cluster : Cluster) : Except String Unit := .ok ()

/-- `ValidateUpdate`, which accepts every change. -/
def validateUpdate (_cluster _old : Cluster) : Except String Unit := .ok ()

end V1alpha1.Cluster

/-! ## The import -/

/-- `crypto.NewKeyPairFromv1alpha1`: the public key comes from the private
one. -/
def newKeyPairFromv1alpha1 (env : Environment) :
    Option KeyPair → Except Fault (Option KeyPair)
  | none => .ok none
  | some keyPair =>
    match env.newKeyPairFromString keyPair.privateKey with
    | .error message => .error (.error message)
    | .ok res => .ok (some res)

/-- `newKubeAPIServerFromv1alpha1`. -/
def newKubeAPIServerFromv1alpha1 (env : Environment) (kubeAPIServer : KubeAPIServer) :
    Except Fault KubeAPIServer := do
  let serviceAccount ← newKeyPairFromv1alpha1 env kubeAPIServer.serviceAccount
  pure { kubeAPIServer with serviceAccount := serviceAccount }

/-- `newVPNCIDRFromv1alpha1`: an empty network for a text that does not
parse. -/
def newVPNCIDRFromv1alpha1 (net : NetText) (vpnCIDR : String) : IPNet :=
  (net.parseCIDR vpnCIDR).getD {}

/-- The dereference of a pointer. -/
def deref {α : Type} : Option α → Except Fault α
  | some a => .ok a
  | none => .error (.panic "invalid memory address or nil pointer dereference")

/-- `newVPNFromv1alpha1`. -/
def newVPNFromv1alpha1 (net : NetText) : Option V1alpha1.VPN → Except Fault VPN
  | none => .ok { enabled := false }
  | some vpn =>
    match vpn.cidr with
    | none => .ok { enabled := false }
    | some cidr => do
      let privateKey ← deref vpn.privateKey
      let publicKey ← deref vpn.publicKey
      pure ⟨vpn.enabled, privateKey, publicKey, some (newVPNCIDRFromv1alpha1 net cidr)⟩

/-- `newVPNPeersFromv1alpha1`.  The last peer of a name stays. -/
def newVPNPeersFromv1alpha1 (peers : List VPNPeer) : VPNPeerMap :=
  peers.foldl (fun res peer => res.insert peer.name peer) ∅

/-- The record that `NewClusterFromv1alpha1` builds from the parts that it
converts first. -/
def importedCluster (cluster : V1alpha1.Cluster) (joinKey : Option KeyPair)
    (kubeAPIServer : KubeAPIServer) (vpn : VPN) : Cluster :=
  let networking := cluster.spec.networking.getD {}
  { name := cluster.name
    «namespace» := cluster.namespace
    resourceVersion := cluster.resourceVersion
    labels := cluster.labels
    annotations := cluster.annotations
    finalizers := cluster.finalizers
    deletionTimestamp := cluster.deletionTimestamp
    kubernetesVersion := cluster.spec.kubernetesVersion
    controlPlaneReplicas := cluster.spec.controlPlaneReplicas
    certificateAuthorities := some (cluster.spec.certificateAuthorities.getD {})
    etcdServer := some (cluster.spec.etcdServer.getD {})
    apiServer := some kubeAPIServer
    clientCertificates := cluster.status.clientCertificates
    storageClientEndpoints := cluster.status.storageClientEndpoints
    storagePeerEndpoints := cluster.status.storagePeerEndpoints
    vpn := vpn
    vpnPeers := newVPNPeersFromv1alpha1 cluster.status.vpnPeers
    apiServerEndpoint := cluster.status.apiServerEndpoint
    vpnServerEndpoint := cluster.status.vpnServerEndpoint
    joinKey := joinKey
    desiredJoinTokens := cluster.spec.joinTokens
    currentJoinTokens := cluster.status.joinTokens
    conditions := cluster.status.conditions
    clusterCIDR := networking.clusterCIDR
    serviceCIDR := networking.serviceCIDR
    nodeCIDRMaskSize := networking.nodeCIDRMaskSize
    nodeCIDRMaskSizeIPv4 := networking.nodeCIDRMaskSizeIPv4
    nodeCIDRMaskSizeIPv6 := networking.nodeCIDRMaskSizeIPv6 }

/-- `NewClusterFromv1alpha1`. -/
def newClusterFromv1alpha1 (env : Environment) (cluster : V1alpha1.Cluster) :
    Except Fault Cluster := do
  let joinKey ← newKeyPairFromv1alpha1 env cluster.spec.joinKey
  let kubeAPIServer ← newKubeAPIServerFromv1alpha1 env (cluster.spec.apiServer.getD {})
  let vpn ← newVPNFromv1alpha1 env.net cluster.spec.vpn
  pure (importedCluster cluster joinKey kubeAPIServer vpn)

/-! ## The peers and the join key of an imported cluster -/

/-- The peers of an imported cluster are those of the distinct names. -/
theorem keys_newVPNPeersFromv1alpha1 (peers : List VPNPeer) :
    (newVPNPeersFromv1alpha1 peers).keys = (peers.map VPNPeer.name).toFinset := by
  have hfold : ∀ acc : VPNPeerMap,
      (peers.foldl (fun res peer => res.insert peer.name peer) acc).keys =
        acc.keys ∪ (peers.map VPNPeer.name).toFinset := by
    induction peers with
    | nil => simp
    | cons peer peers ih =>
      intro acc
      rw [List.foldl_cons, ih]
      ext name
      simp [Finmap.mem_keys, Finmap.mem_insert, or_assoc]
  rw [newVPNPeersFromv1alpha1, hfold]
  ext name
  simp

/-- A peer of an imported cluster is one of the object, under its name. -/
theorem lookup_newVPNPeersFromv1alpha1 {peers : List VPNPeer} {name : String} {peer : VPNPeer}
    (hlk : (newVPNPeersFromv1alpha1 peers).lookup name = some peer) :
    peer ∈ peers ∧ peer.name = name := by
  have hentries : newVPNPeersFromv1alpha1 peers =
      GoMap.ofList (peers.map fun peer => (peer.name, peer)) := by
    rw [GoMap.ofList, List.foldl_map, newVPNPeersFromv1alpha1]
  rw [hentries] at hlk
  obtain ⟨found, hfound, heq⟩ := List.mem_map.mp (GoMap.mem_of_lookup_ofList hlk)
  cases heq
  exact ⟨hfound, rfl⟩

/-- Every peer name of the object is one of the imported cluster. -/
theorem isSome_lookup_newVPNPeersFromv1alpha1 {peers : List VPNPeer} {peer : VPNPeer}
    (hmem : peer ∈ peers) : ((newVPNPeersFromv1alpha1 peers).lookup peer.name).isSome := by
  rw [Finmap.lookup_isSome, ← Finmap.mem_keys, keys_newVPNPeersFromv1alpha1, List.mem_toFinset]
  exact List.mem_map_of_mem hmem

/-- An import that succeeds builds the record from its converted parts. -/
theorem newClusterFromv1alpha1_eq_ok {env : Environment} {obj : V1alpha1.Cluster}
    {cluster : Cluster} (himp : newClusterFromv1alpha1 env obj = .ok cluster) :
    ∃ joinKey serviceAccount vpn, newKeyPairFromv1alpha1 env obj.spec.joinKey = .ok joinKey ∧
      newKeyPairFromv1alpha1 env (obj.spec.apiServer.getD {}).serviceAccount =
        .ok serviceAccount ∧
      newVPNFromv1alpha1 env.net obj.spec.vpn = .ok vpn ∧
      cluster = importedCluster obj joinKey
        { obj.spec.apiServer.getD {} with serviceAccount := serviceAccount } vpn := by
  unfold newClusterFromv1alpha1 newKubeAPIServerFromv1alpha1 at himp
  cases hjoinKey : newKeyPairFromv1alpha1 env obj.spec.joinKey with
  | error fault =>
    rw [hjoinKey] at himp
    cases himp
  | ok joinKey =>
    rw [hjoinKey] at himp
    cases hservice : newKeyPairFromv1alpha1 env (obj.spec.apiServer.getD {}).serviceAccount with
    | error fault =>
      rw [hservice] at himp
      cases himp
    | ok serviceAccount =>
      rw [hservice] at himp
      cases hvpn : newVPNFromv1alpha1 env.net obj.spec.vpn with
      | error fault =>
        rw [hvpn] at himp
        cases himp
      | ok vpn =>
        rw [hvpn] at himp
        cases himp
        exact ⟨joinKey, serviceAccount, vpn, rfl, rfl, rfl, rfl⟩

/-- An imported cluster has the join key and the peers of the object. -/
theorem newClusterFromv1alpha1_ok {env : Environment} {obj : V1alpha1.Cluster} {cluster : Cluster}
    (himp : newClusterFromv1alpha1 env obj = .ok cluster) :
    newKeyPairFromv1alpha1 env obj.spec.joinKey = .ok cluster.joinKey ∧
      cluster.vpnPeers = newVPNPeersFromv1alpha1 obj.status.vpnPeers := by
  obtain ⟨joinKey, serviceAccount, vpn, hjoinKey, -, -, rfl⟩ := newClusterFromv1alpha1_eq_ok himp
  exact ⟨hjoinKey, rfl⟩

end OneInfra
