import OneInfra.Component.World

/-!
# etcd in a control plane

`internal/pkg/component/components/etcd.go`.  A member of etcd is found by its peer
URL, which is built from the address of the hypervisor and the host port of the
component.

The loops with a bounded number of tries are recursions on the number of tries
that are left.  The pauses between them are absent.
-/

namespace OneInfra

open Lib Infra

/-! ## Port names -/

/-- `APIServerHostPortName`. -/
def apiServerHostPortName : String := "apiserver"

/-- `EtcdPeerHostPortName`. -/
def etcdPeerHostPortName : String := "etcd-peer"

/-- `EtcdClientHostPortName`. -/
def etcdClientHostPortName : String := "etcd-client"

/-- `WireguardHostPortName`. -/
def wireguardHostPortName : String := "wireguard"

/-- `HasUninitializedCertificates`. -/
def Cluster.hasUninitializedCertificates (cluster : Cluster) : Bool :=
  (cluster.labels.lookup V1alpha1.Cluster.uninitializedCertificatesLabel).isSome

namespace Components.ControlPlane

variable {σ : Type} (outside : Outside σ)

/-! ## Clients -/

/-- The loop of `etcdClientEndpoints` over the control planes of the cluster. -/
def clientEndpointsOf : List Component → ReconcileM σ (List String)
  | [] => pure []
  | controlPlaneComponent :: controlPlaneComponents => do
    if controlPlaneComponent.deletionTimestamp.isSome then
      return ← clientEndpointsOf controlPlaneComponents
    match (← get).componentHypervisor controlPlaneComponent with
    | none => clientEndpointsOf controlPlaneComponents
    | some componentHypervisor =>
      match ← attempt (requestPort controlPlaneComponent.name etcdClientHostPortName) with
      | .error _ => clientEndpointsOf controlPlaneComponents
      | .ok etcdClientHostPort =>
        let endpoints ← clientEndpointsOf controlPlaneComponents
        return httpsURL componentHypervisor.ipAddress etcdClientHostPort :: endpoints

/-- `etcdClientEndpoints`. -/
def etcdClientEndpoints : ReconcileM σ (List String) := do
  clientEndpointsOf ((← get).clusterComponents .controlPlane)

/-- `etcdClientWithEndpoints`.  A client is known by its endpoints. -/
def etcdClientWithEndpoints (name : String) (endpoints : List String) :
    ReconcileM σ (List String) := do
  let cluster ← cluster
  if cluster.hasUninitializedCertificates then
    throw (.error "cluster has some uninitialized certificates")
  let etcdServer ← ofExcept (deref cluster.etcdServer)
  let ca ← ofExcept (deref etcdServer.ca)
  if !outside.parsesCertificate ca.certificate then
    throw (.error "cannot decode etcd server CA certificate")
  let certificateAuthorities ← ofExcept (deref cluster.certificateAuthorities)
  let _ ← clientCertificate outside name certificateAuthorities.etcdClient "oneinfra-client"
    "oneinfra-client" [cluster.name] []
  match ← etcd outside name (.connect endpoints) with
  | .ok _ => pure endpoints
  | .error _ => throw (.error "could not create an etcd client")

/-- `etcdClient`. -/
def etcdClient (name : String) : ReconcileM σ (List String) := do
  etcdClientWithEndpoints outside name (← etcdClientEndpoints)

/-- `etcdPeerURL`. -/
def etcdPeerURL (name : String) : ReconcileM σ String := do
  let etcdPeerHostPort ← requestPort name etcdPeerHostPortName
  let hypervisor ← derefHypervisor name
  return httpsURL hypervisor.ipAddress etcdPeerHostPort

/-! ## Members -/

/-- The result of a call as a result of the program. -/
def okOrThrow {α : Type} : Except EtcdError α → ReconcileM σ α
  | .ok a => pure a
  | .error .deadlineExceeded => throw (.error "context deadline exceeded")
  | .error (.other message) => throw (.error message)

/-- `etcdMembers`. -/
def etcdMembers (name : String) : ReconcileM σ (List EtcdMember) := do
  let etcdClient ← etcdClient outside name
  okOrThrow (← etcd outside name (.memberList etcdClient))

/-- `etcdMemberID`: the id of the member with the peer URL of the component. -/
def etcdMemberID (name : String) : ReconcileM σ (Option Nat) := do
  let memberList ← etcdMembers outside name
  let peerURL ← etcdPeerURL name
  return (memberList.find? fun member => member.peerURLs = [peerURL]).map EtcdMember.id

/-- `hasEtcdMember`. -/
def hasEtcdMember (name : String) : ReconcileM σ Bool := do
  return (← etcdMemberID outside name).isSome

/-- The loop of `setupEtcdLearner`. -/
def addLearner (name : String) (etcdClient : List String) : Nat → ReconcileM σ Unit
  | 0 => throw (.error ("failed to add etcd learner \"" ++ name ++ "\""))
  | tries + 1 => do
    let peerURL ← etcdPeerURL name
    match ← etcd outside name (.memberAddAsLearner etcdClient peerURL) with
    | .ok _ => pure ()
    | .error .deadlineExceeded =>
      throw (.error ("failed to add etcd learner \"" ++ name ++ "\": context deadline exceeded"))
    | .error (.other _) => addLearner name etcdClient tries

/-- `setupEtcdLearner`. -/
def setupEtcdLearner (name : String) : ReconcileM σ Unit := do
  let etcdClient ← etcdClient outside name
  addLearner outside name etcdClient 60

/-- `hasEtcdLearner`. -/
def hasEtcdLearner (name : String) : ReconcileM σ Bool := do
  let etcdMembers ← etcdMembers outside name
  let peerURL ← etcdPeerURL name
  return ((etcdMembers.find? fun member => member.peerURLs = [peerURL]).map
    EtcdMember.isLearner).getD false

/-- The loop of `promoteEtcdLearner`. -/
def promote (name : String) : Nat → ReconcileM σ Unit
  | 0 => throw (.error ("failed to promote etcd learner member \"" ++ name ++ "\""))
  | tries + 1 => do
    let client ← etcdClient outside name
    match ← etcd outside name (.memberList client) with
    | .error _ => promote name tries
    | .ok members =>
      let peerURL ← etcdPeerURL name
      let own := members.filter fun member => member.peerURLs = [peerURL]
      if own.any fun member => !member.isLearner then return
      match own.getLast? with
      | none => promote name tries
      | some member =>
        let endpoints := (members.filter fun member => member.peerURLs ≠ [peerURL]).flatMap
          EtcdMember.clientURLs
        let client ← etcdClientWithEndpoints outside name endpoints
        match ← etcd outside name (.memberPromote client member.id) with
        | .ok _ => pure ()
        | .error _ => promote name tries

/-- `promoteEtcdLearner`. -/
def promoteEtcdLearner (name : String) : ReconcileM σ Unit :=
  promote outside name 300

/-! ## The pod -/

/-- The entry of a member in `--initial-cluster`.  The own member gets the name of
the component. -/
def initialClusterEntry (name peerURL : String) (member : EtcdMember) :
    Except Fault (String × String) :=
  match member.peerURLs with
  | [] => .error (.panic "index out of range")
  | url :: _ => .ok (if member.peerURLs = [peerURL] then name else member.name, url)

/-- The end of `etcdContainer`, which decides on the state. -/
def initialClusterState (name : String) : ReconcileM σ InitialClusterState := do
  let cluster ← cluster
  match ← attempt (etcdMembers outside name) with
  | .error _ =>
    if cluster.storagePeerEndpoints = ∅ then return .new else return .unset
  | .ok members =>
    let peerURL ← etcdPeerURL name
    return .existing (← ofExcept (members.mapM (initialClusterEntry name peerURL)))

/-- `etcdContainer`.  The container is recorded in the history of the world. -/
def etcdContainer (name : String) (etcdClientHostPort etcdPeerHostPort : Int64) :
    ReconcileM σ EtcdContainer := do
  let cluster ← cluster
  match outside.etcdVersion cluster.kubernetesVersion with
  | none => throw (.error ("could not retrieve version bundle for version \"" ++
      cluster.kubernetesVersion ++ "\""))
  | some etcdVersion =>
    let hypervisor ← derefHypervisor name
    let clientEndpoints ← etcdClientEndpoints
    let initialClusterState ← initialClusterState outside name
    let container : EtcdContainer :=
      { clusterNamespace := cluster.namespace
        clusterName := cluster.name
        componentName := name
        etcdVersion := etcdVersion
        advertiseClientURL := httpsURL hypervisor.ipAddress etcdClientHostPort
        initialAdvertisePeerURL := httpsURL hypervisor.ipAddress etcdPeerHostPort
        clientEndpoints := clientEndpoints
        initialClusterState := initialClusterState }
    modify fun world => { world with etcdContainers := world.etcdContainers ++ [container] }
    return container

/-- `etcdPodName`. -/
def etcdPodName (cluster : Cluster) : String := "etcd-" ++ cluster.name

/-- `ensureEtcdPod`, with the pod of `etcdPod`. -/
def ensureEtcdPod (name : String) : ReconcileM σ Unit := do
  let etcdPeerHostPort ← requestPort name etcdPeerHostPortName
  let etcdClientHostPort ← requestPort name etcdClientHostPortName
  let etcdContainer ← etcdContainer outside name etcdClientHostPort etcdPeerHostPort
  host outside name (.ensureEtcdPod (etcdPodName (← cluster)) etcdContainer
    [(etcdClientHostPort, 2379), (etcdPeerHostPort, 2380)])

/-- `reconcileEtcdCertificatesAndKeys`. -/
def reconcileEtcdCertificatesAndKeys (name : String) : ReconcileM σ Unit := do
  let cluster ← cluster
  let certificateAuthorities ← ofExcept (deref cluster.certificateAuthorities)
  let hypervisor ← derefHypervisor name
  let etcdPeerCertificate ← clientCertificate outside name certificateAuthorities.etcdPeer
    "etcd-peer" (cluster.name ++ ".etcd.cluster") [cluster.name] [hypervisor.ipAddress]
  let etcdServer ← ofExcept (deref cluster.etcdServer)
  let etcdServerCertificate ← serverCertificate outside name etcdServer.ca
    "etcd" "etcd" ["etcd"] [hypervisor.ipAddress]
  let etcdClientCA ← ofExcept (deref certificateAuthorities.etcdClient)
  let etcdPeerCA ← ofExcept (deref certificateAuthorities.etcdPeer)
  let file := componentSecretsPathFile cluster.namespace cluster.name name
  uploadFiles outside name
    [(file "etcd.crt", etcdServerCertificate.certificate),
      (file "etcd.key", etcdServerCertificate.privateKey),
      (file "etcd-client-ca.crt", etcdClientCA.certificate),
      (file "etcd-peer-ca.crt", etcdPeerCA.certificate),
      (file "etcd-peer.crt", etcdPeerCertificate.certificate),
      (file "etcd-peer.key", etcdPeerCertificate.privateKey)]

/-- `runEtcd`.  The errors of looking for the member and of adding it are dropped,
and the pod is started anyway. -/
def runEtcd (name : String) : ReconcileM σ Unit := do
  reconcileEtcdCertificatesAndKeys outside name
  match ← attempt (hasEtcdMember outside name) with
  | .ok false => let _ ← attempt (setupEtcdLearner outside name)
  | _ => pure ()
  ensureEtcdPod outside name
  if ← hasEtcdLearner outside name then promoteEtcdLearner outside name

/-! ## Deletion -/

/-- The loop of `removeEtcdMember`. -/
def removeMember (name : String) : Nat → ReconcileM σ Unit
  | 0 => do
    let component ← component name
    throw (.error ("failed to remove etcd member " ++ component.namespace ++ "/" ++ component.name))
  | tries + 1 => do
    match ← attempt (etcdMemberID outside name) with
    | .ok none => pure ()
    | .error _ => removeMember name tries
    | .ok (some memberID) =>
      match ← attempt (etcdClient outside name) with
      | .error _ => removeMember name tries
      | .ok client =>
        match ← etcd outside name (.memberRemove client memberID) with
        | .error _ => removeMember name tries
        | .ok _ => pure ()

/-- `removeEtcdMember`. -/
def removeEtcdMember (name : String) : ReconcileM σ Unit := do
  if (← etcdClientEndpoints) ≠ [] then removeMember outside name 60

/-- `stopEtcd`. -/
def stopEtcd (name : String) : ReconcileM σ Unit := do
  host outside name (.deletePod (etcdPodName (← cluster)))
  freePort name etcdPeerHostPortName
  freePort name etcdClientHostPortName

end Components.ControlPlane

end OneInfra
