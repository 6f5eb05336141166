import OneInfra.Cluster.V1alpha1

/-!
# The export of a cluster

`Export` of `internal/pkg/cluster/cluster.go` and of `vpn.go`.  The controllers take
a cluster in, change it, and write the export back, and so whatever an import followed
by an export loses is lost in the store.

`SameObject` is the comparison of an object with the one that comes back.
Sub-objects that are nil may become empty, and the public keys of key pairs are
computed anew.  The VPN peers are compared by name.  `sameObject_export_iff` says
that everything but the VPN comes back.  The VPN does if it is absent, or disabled
without keys and network, or enabled with a network whose text is the one that
`IPNet.String` gives.
-/

namespace OneInfra

open Lib Conditions

/-! ## Export -/

/-- `VPN.Export`. -/
def VPN.export (net : NetText) (vpn : VPN) : V1alpha1.VPN :=
  match vpn.enabled, vpn.cidr with
  | true, some cidr =>
    { enabled := true
      privateKey := some vpn.privateKey
      publicKey := some vpn.publicKey
      cidr := some (net.ipNetString cidr) }
  | _, _ => { enabled := false }

/-- `VPNPeerMap.Export`, for a traversal of the map. -/
def VPNPeerMap.export (vpnPeerMap : List (String × VPNPeer)) : List VPNPeer :=
  vpnPeerMap.map Prod.snd

/-- `Export` of a cluster, for a traversal of its VPN peers. -/
def Cluster.export (net : NetText) (vpnPeerMap : List (String × VPNPeer)) (cluster : Cluster) :
    V1alpha1.Cluster :=
  { name := cluster.name
    «namespace» := cluster.namespace
    resourceVersion := cluster.resourceVersion
    labels := cluster.labels
    annotations := cluster.annotations
    finalizers := cluster.finalizers
    deletionTimestamp := cluster.deletionTimestamp
    spec :=
      { kubernetesVersion := cluster.kubernetesVersion
        controlPlaneReplicas := cluster.controlPlaneReplicas
        certificateAuthorities := cluster.certificateAuthorities
        etcdServer := cluster.etcdServer
        apiServer := cluster.apiServer
        vpn := some (cluster.vpn.export net)
        joinKey := cluster.joinKey
        joinTokens := cluster.desiredJoinTokens
        networking := some
          { clusterCIDR := cluster.clusterCIDR
            serviceCIDR := cluster.serviceCIDR
            nodeCIDRMaskSize := cluster.nodeCIDRMaskSize
            nodeCIDRMaskSizeIPv4 := cluster.nodeCIDRMaskSizeIPv4
            nodeCIDRMaskSizeIPv6 := cluster.nodeCIDRMaskSizeIPv6 } }
    status :=
      { clientCertificates := cluster.clientCertificates
        storageClientEndpoints := cluster.storageClientEndpoints
        storagePeerEndpoints := cluster.storagePeerEndpoints
        vpnPeers := VPNPeerMap.export vpnPeerMap
        apiServerEndpoint := cluster.apiServerEndpoint
        vpnServerEndpoint := cluster.vpnServerEndpoint
        joinTokens := cluster.currentJoinTokens
        conditions := cluster.conditions } }

/-! ## The VPN peers -/

/-- Each peer is under its own name. -/
def VPNPeerMap.Named (vpnPeers : VPNPeerMap) : Prop :=
  ∀ name peer, vpnPeers.lookup name = some peer → peer.name = name

theorem named_newVPNPeersFromv1alpha1 (peers : List VPNPeer) :
    VPNPeerMap.Named (newVPNPeersFromv1alpha1 peers) :=
  fun _ _ hlk => (lookup_newVPNPeersFromv1alpha1 hlk).2

/-- The peers come back, whatever the traversal. -/
theorem newVPNPeersFromv1alpha1_export {vpnPeers : VPNPeerMap}
    {vpnPeerMap : List (String × VPNPeer)} (hnamed : vpnPeers.Named)
    (horder : vpnPeers.IsIteration vpnPeerMap) :
    newVPNPeersFromv1alpha1 (VPNPeerMap.export vpnPeerMap) = vpnPeers := by
  -- a peer of the exported list is the peer of the map under its name
  have hmem : ∀ peer ∈ VPNPeerMap.export vpnPeerMap, vpnPeers.lookup peer.name = some peer := by
    intro peer hpeer
    obtain ⟨⟨name, _⟩, hentry, rfl⟩ := List.mem_map.mp hpeer
    have hlk := horder.mem_iff.mp hentry
    rw [hnamed name _ hlk]
    exact hlk
  refine Finmap.ext_lookup fun name => ?_
  cases hlk : (newVPNPeersFromv1alpha1 (VPNPeerMap.export vpnPeerMap)).lookup name with
  | some peer =>
    obtain ⟨hpeer, rfl⟩ := lookup_newVPNPeersFromv1alpha1 hlk
    exact (hmem peer hpeer).symm
  | none =>
    cases horig : vpnPeers.lookup name with
    | none => rfl
    | some peer =>
      have hpeer : peer ∈ VPNPeerMap.export vpnPeerMap :=
        List.mem_map.mpr ⟨(name, peer), horder.mem_iff.mpr horig, rfl⟩
      have hsome := isSome_lookup_newVPNPeersFromv1alpha1 hpeer
      rw [hnamed name peer horig, hlk] at hsome
      cases hsome

/-! ## The comparison -/

/-- A key pair without its public key. -/
def KeyPair.withoutPublicKey (keyPair : KeyPair) : KeyPair :=
  { keyPair with publicKey := "" }

namespace V1alpha1.ClusterSpec

/-- The specification with empty sub-objects in place of nil ones and without public
keys of key pairs. -/
def normalized (spec : ClusterSpec) : ClusterSpec :=
  let apiServer := spec.apiServer.getD {}
  { spec with
    certificateAuthorities := some (spec.certificateAuthorities.getD {})
    etcdServer := some (spec.etcdServer.getD {})
    apiServer := some { apiServer with
      serviceAccount := apiServer.serviceAccount.map KeyPair.withoutPublicKey }
    vpn := some (spec.vpn.getD { enabled := false })
    joinKey := spec.joinKey.map KeyPair.withoutPublicKey
    networking := some (spec.networking.getD {}) }

end V1alpha1.ClusterSpec

/-- The two objects are the same, up to what a conversion may change. -/
structure SameObject (obj obj' : V1alpha1.Cluster) : Prop where
  name : obj'.name = obj.name
  «namespace» : obj'.namespace = obj.namespace
  resourceVersion : obj'.resourceVersion = obj.resourceVersion
  labels : obj'.labels = obj.labels
  annotations : obj'.annotations = obj.annotations
  finalizers : obj'.finalizers = obj.finalizers
  deletionTimestamp : obj'.deletionTimestamp = obj.deletionTimestamp
  spec : obj'.spec.normalized = obj.spec.normalized
  vpnPeers : newVPNPeersFromv1alpha1 obj'.status.vpnPeers =
    newVPNPeersFromv1alpha1 obj.status.vpnPeers
  status : { obj'.status with vpnPeers := [] } = { obj.status with vpnPeers := [] }

/-- The VPN of an object that comes back. -/
def KeepsVPN (net : NetText) : Option V1alpha1.VPN → Prop
  | none => True
  | some vpn =>
    match vpn.cidr with
    | none => vpn = { enabled := false }
    | some cidr => vpn.enabled ∧ net.ipNetString (newVPNCIDRFromv1alpha1 net cidr) = cidr

/-- What comes back of a VPN that is imported. -/
theorem export_newVPNFromv1alpha1_iff {net : NetText} {given : Option V1alpha1.VPN} {vpn : VPN}
    (himp : newVPNFromv1alpha1 net given = .ok vpn) :
    vpn.export net = given.getD { enabled := false } ↔ KeepsVPN net given := by
  cases given with
  | none =>
    cases himp
    exact iff_of_true rfl trivial
  | some given =>
    obtain ⟨enabled, privateKey, publicKey, cidr⟩ := given
    cases cidr with
    | none =>
      cases himp
      exact eq_comm
    | some cidr =>
      cases privateKey with
      | none => cases himp
      | some privateKey =>
        cases publicKey with
        | none => cases himp
        | some publicKey =>
          cases himp
          cases enabled <;> simp [VPN.export, KeepsVPN]

theorem newKeyPairFromv1alpha1_ok {env : Environment} {given keyPair : Option KeyPair}
    (himp : newKeyPairFromv1alpha1 env given = .ok keyPair) :
    keyPair.map KeyPair.withoutPublicKey = given.map KeyPair.withoutPublicKey := by
  cases given with
  | none =>
    cases himp
    rfl
  | some given =>
    simp only [newKeyPairFromv1alpha1] at himp
    cases hparse : env.newKeyPairFromString given.privateKey with
    | error message =>
      rw [hparse] at himp
      cases himp
    | ok read =>
      rw [hparse] at himp
      cases himp
      have hpriv := env.newKeyPairFromString_privateKey _ _ hparse
      simp [KeyPair.withoutPublicKey, hpriv]

/-- An object that was imported comes back if and only if its VPN does. -/
theorem sameObject_export_iff {env : Environment} {obj : V1alpha1.Cluster} {cluster : Cluster}
    {vpnPeerMap : List (String × VPNPeer)} (himp : newClusterFromv1alpha1 env obj = .ok cluster)
    (horder : cluster.vpnPeers.IsIteration vpnPeerMap) :
    SameObject obj (cluster.export env.net vpnPeerMap) ↔ KeepsVPN env.net obj.spec.vpn := by
  obtain ⟨joinKey, serviceAccount, vpn, hjoinKey, hservice, hvpn, rfl⟩ :=
    newClusterFromv1alpha1_eq_ok himp
  rw [← export_newVPNFromv1alpha1_iff hvpn]
  constructor
  · intro hsame
    exact Option.some_inj.mp (congrArg V1alpha1.ClusterSpec.vpn hsame.spec)
  · intro hexp
    refine ⟨rfl, rfl, rfl, rfl, rfl, rfl, rfl, ?_, ?_, rfl⟩
    · simp only [V1alpha1.ClusterSpec.normalized, Cluster.export, importedCluster,
        Option.getD_some, hexp, newKeyPairFromv1alpha1_ok hjoinKey,
        newKeyPairFromv1alpha1_ok hservice]
    · exact newVPNPeersFromv1alpha1_export (named_newVPNPeersFromv1alpha1 _) horder

/-- An environment in which no private key can be read. -/
def keylessEnvironment : Environment where
  net := .ipv4
  newKeyPairFromString := fun _ => .error "could not parse private key"
  newKeyPairFromString_privateKey := fun _ _ h => by cases h
  defaultKubernetesVersion := "1.20.0"
  generatePrivateKey := .error "no entropy"

/-- A cluster with the given VPN and one VPN peer. -/
def clusterWithVPN (vpn : V1alpha1.VPN) : V1alpha1.Cluster :=
  { name := "c", «namespace» := "default", spec.vpn := some vpn
    status.vpnPeers := [⟨"worker-a", "10.0.0.1/16", "private", "public"⟩] }

/-- The peer of such a cluster, as the map of peers is traversed. -/
def onePeer : List (String × VPNPeer) :=
  [("worker-a", ⟨"worker-a", "10.0.0.1/16", "private", "public"⟩)]

theorem sameObject_export_enabled : ∃ cluster,
    newClusterFromv1alpha1 keylessEnvironment
        (clusterWithVPN ⟨true, some "private", some "public", some "10.0.0.0/16"⟩) = .ok cluster ∧
      SameObject (clusterWithVPN ⟨true, some "private", some "public", some "10.0.0.0/16"⟩)
        (cluster.export .ipv4 onePeer) := by
  have hkeeps : KeepsVPN keylessEnvironment.net
      (clusterWithVPN ⟨true, some "private", some "public", some "10.0.0.0/16"⟩).spec.vpn :=
    ⟨rfl, by decide⟩
  refine ⟨_, rfl, (sameObject_export_iff rfl ?_).mpr hkeeps⟩
  decide

/-- What the import and the export of a cluster with the given VPN leave of it. -/
def vpnAfter (vpn : V1alpha1.VPN) : Option (Option V1alpha1.VPN) :=
  (newClusterFromv1alpha1 keylessEnvironment (clusterWithVPN vpn)).toOption.map fun cluster =>
    (cluster.export .ipv4 onePeer).spec.vpn

/-- A disabled VPN loses its keys and its network.  The network of an enabled one is
written in another way, and lost if its text does not parse. -/
theorem vpnAfter_loses :
    vpnAfter ⟨false, some "private", some "public", some "10.0.0.0/16"⟩ =
        some (some ⟨false, none, none, none⟩) ∧
      vpnAfter ⟨true, some "private", some "public", some "10.0.7.9/16"⟩ =
        some (some ⟨true, some "private", some "public", some "10.0.0.0/16"⟩) ∧
      vpnAfter ⟨true, some "private", some "public", some "10.0.0.0"⟩ =
        some (some ⟨true, some "private", some "public", some "<nil>"⟩) := by
  decide

end OneInfra
