import Mathlib.Data.Finset.Sort
import Mathlib.Data.String.Basic
import OneInfra.Cluster.NetTexts
import OneInfra.Cluster.NodeJoinRequests
import OneInfra.Component.Component
import OneInfra.Component.EtcdContainer
import OneInfra.Infra.Files

/-!
# What a component is reconciled in

A reconcile of a component works on objects in memory: the hypervisors, the
cluster and the components of the cluster.  `World` holds them, and a program of
`ReconcileM` changes them step by step.  A component is named, where the source
has a pointer to it, so that a change is seen by everyone who reads it later.
`internal/pkg/reconciler/inquirer.go` gives the source its access to the objects,
and the first functions below are its functions.

`Outside` is the rest of the world: the runtimes of the hypervisors, etcd, the
certificate authorities and the templates.  Each call to it is a function on a
state of an arbitrary type, and so a call may fail or not as it likes, and may
remember what was called before.

The field `etcdContainers` of `World` is a history variable.  It records the etcd
containers that were generated.
-/

namespace OneInfra

open Lib Infra

/-- A member of etcd. -/
structure EtcdMember where
  id : Nat
  name : String := ""
  peerURLs : List String
  clientURLs : List String := []
  isLearner : Bool := false
deriving DecidableEq, Repr

/-- How a call to etcd fails. -/
inductive EtcdError
  | deadlineExceeded
  | other (message : String)
deriving DecidableEq, Repr

/-- The calls to etcd, with the endpoints of the client.  Connecting reads the
key pair of the client and creates it. -/
inductive EtcdCall
  | connect (endpoints : List String)
  | memberList (endpoints : List String)
  | memberAddAsLearner (endpoints : List String) (peerURL : String)
  | memberPromote (endpoints : List String) (id : Nat)
  | memberRemove (endpoints : List String) (id : Nat)
deriving DecidableEq, Repr

/-- A component, with its cluster. -/
structure ComponentRef where
  clusterNamespace : String
  clusterName : String
  componentName : String
deriving DecidableEq, Repr

/-- The calls to the runtime of a hypervisor.  Pods are known by their names and
ports, except that of etcd, whose container depends on the state of etcd. -/
inductive HostCall
  | ensureImage (image : String)
  | ensurePod (podName : String) (ports : List (Int64 × Int64))
  | ensureEtcdPod (podName : String) (container : EtcdContainer) (ports : List (Int64 × Int64))
  | deletePod (podName : String)
  | runAndWaitForPod (podName : String)
deriving DecidableEq, Repr

/-- A peer of the VPN in the data of a script. -/
structure ScriptPeer where
  publicKey : String
  allowedIPs : String
deriving DecidableEq, Repr

/-- The texts that are rendered from data. -/
inductive Template
  | kubeConfig (object : KubeConfigObject)
  | haProxy (apiServers : List (String × String))
  | wireguardSystemdService (clusterNamespace clusterName wireguardScriptPath : String)
  | wireguardScript (wireguardInterfaceName : String) (vpnCIDR : Option IPNet)
      (listenPort : Int64) (privateKeyPath networkNamespace : String) (peers : List ScriptPeer)

/-- The outside, with a state of type `σ`. -/
structure Outside (σ : Type) where
  /-- A call to the runtime of a hypervisor, on behalf of a component. -/
  host : (hypervisorName : String) → ComponentRef → HostCall → σ → Except String Unit × σ
  /-- A call to etcd on behalf of a component.  Only `memberList` returns
  members. -/
  etcd : ComponentRef → EtcdCall → σ → Except EtcdError (List EtcdMember) × σ
  /-- `CreateCertificate` of an authority that may be nil. -/
  createCertificate : Option Certificate → (commonName : String) →
    (organization extraSANs : List String) → σ → Except Fault Certificate × σ
  /-- A template that is parsed and executed. -/
  render : Template → σ → Except String String × σ
  /-- The clock. -/
  now : σ → Nat
  /-- The etcd version of the bundle of `KubernetesVersionBundle`. -/
  etcdVersion : (kubernetesVersion : String) → Option String
  /-- Whether a PEM text is that of a certificate. -/
  parsesCertificate : String → Bool
  /-- The SHA1 sum of a text. -/
  sha1Sum : String → String
  /-- The texts of addresses. -/
  net : NetText
  /-- The first result of `net.ParseCIDR`. -/
  parseCIDRAddress : String → Option (List UInt8)
  /-- The order in which the map of the VPN peers is traversed. -/
  vpnPeerOrder : VPNPeerMap → σ → List (String × VPNPeer)

/-- An outside without a state, in which every call succeeds. -/
def Outside.succeeding : Outside Unit where
  host _ _ _ s := (.ok (), s)
  etcd _ _ s := (.ok [], s)
  createCertificate _ _ _ _ s := (.ok ⟨"certificate", "key"⟩, s)
  render _ s := (.ok "", s)
  now _ := 0
  etcdVersion _ := some "3.4.9"
  parsesCertificate _ := true
  sha1Sum := id
  net := NetText.ipv4
  parseCIDRAddress text :=
    (NetText.parseDottedCIDR text.toList).bind fun parsed => to16 parsed.1
  vpnPeerOrder vpnPeers _ := vpnPeers.keys.sort.filterMap fun name =>
    (vpnPeers.lookup name).map (name, ·)

/-- The objects in memory, and the state of the outside. -/
structure World (σ : Type) where
  hypervisors : List Hypervisor
  cluster : Cluster
  components : List Component
  outside : σ
  etcdContainers : List EtcdContainer := []

/-- A program on the world. -/
abbrev ReconcileM (σ : Type) := EStateM Fault (World σ)

/-- The fault of a nil pointer. -/
def nilDereference : Fault := .panic "invalid memory address or nil pointer dereference"

/-- The fault of a nil hypervisor.  The process has one text for all nil pointers,
and this one is told apart. -/
def nilHypervisor : Fault := .panic "invalid memory address or nil pointer dereference: hypervisor"

namespace World

variable {σ : Type}

/-! ## The inquirer -/

/-- `ComponentHypervisor`. -/
def componentHypervisor (world : World σ) (component : Component) : Option Hypervisor :=
  lookupKey Hypervisor.name component.hypervisorName world.hypervisors

/-- `ClusterComponents`. -/
def clusterComponents (world : World σ) (role : Role) : List Component :=
  Component.withRole
    (Component.withCluster world.components world.cluster.namespace world.cluster.name) role

/-- Change the component of that name. -/
def setComponent (world : World σ) (component : Component) : World σ :=
  { world with
    components := modifyKey Component.name component.name (fun _ => component) world.components }

/-- Change the hypervisor of that name. -/
def setHypervisor (world : World σ) (hypervisor : Hypervisor) : World σ :=
  { world with
    hypervisors :=
      modifyKey Hypervisor.name hypervisor.name (fun _ => hypervisor) world.hypervisors }

end World

namespace Components

variable {σ : Type}

/-- `Component` of the inquirer: the component behind the pointer. -/
def component (name : String) : ReconcileM σ Component := do
  match lookupKey Component.name name (← get).components with
  | some component => pure component
  | none => throw nilDereference

/-- `Hypervisor` of the inquirer, which may be nil. -/
def hypervisor (name : String) : ReconcileM σ (Option Hypervisor) := do
  let component ← component name
  return (← get).componentHypervisor component

/-- The hypervisor of a component where the source reads a field of it. -/
def derefHypervisor (name : String) : ReconcileM σ Hypervisor := do
  match ← hypervisor name with
  | some hypervisor => pure hypervisor
  | none => throw nilHypervisor

/-- `Cluster` of the inquirer.  All components are those of the one cluster. -/
def cluster : ReconcileM σ Cluster := do
  return (← get).cluster

/-! ## Changes of a component -/

/-- `RequestPort` on the hypervisor of the component.  A nil hypervisor is not
touched if the component has the port. -/
def requestPort (name portName : String) : ReconcileM σ Int64 := do
  let component ← component name
  match (← get).componentHypervisor component with
  | some hypervisor =>
    match component.requestPort hypervisor portName with
    | (.ok port, component, hypervisor) =>
      modify fun world => (world.setComponent component).setHypervisor hypervisor
      pure port
    | (.error message, _, _) => throw (.error message)
  | none =>
    match component.allocatedHostPorts.lookup portName with
    | some port => pure port
    | none => throw nilHypervisor

/-- `FreePort` on the hypervisor of the component. -/
def freePort (name portName : String) : ReconcileM σ Unit := do
  let component ← component name
  match (← get).componentHypervisor component with
  | some hypervisor =>
    let (component, hypervisor) := component.freePort hypervisor portName
    modify fun world => (world.setComponent component).setHypervisor hypervisor
  | none =>
    match component.allocatedHostPorts.lookup portName with
    | some _ => throw nilHypervisor
    | none => pure ()

/-- Set the endpoints of a component. -/
def setEndpoints (name : String) (inputEndpoints outputEndpoints : GoMap String String) :
    ReconcileM σ Unit := do
  let component ← component name
  modify fun world => world.setComponent { component with
    inputEndpoints := inputEndpoints, outputEndpoints := outputEndpoints }

/-! ## Calls to the outside -/

section Outside

variable (outside : Outside σ)

/-- A call that changes the outside only. -/
def onOutside {α : Type} (call : σ → α × σ) : ReconcileM σ α := fun world =>
  .ok (call world.outside).1 { world with outside := (call world.outside).2 }

/-- A call whose failure is an error of the program. -/
def callOutside {α : Type} (call : σ → Except String α × σ) : ReconcileM σ α := do
  match ← onOutside call with
  | .ok a => pure a
  | .error message => throw (.error message)

/-- A call to the runtime of the hypervisor of a component. -/
def host (name : String) (call : HostCall) : ReconcileM σ Unit := do
  let hypervisor ← derefHypervisor name
  let cluster ← cluster
  callOutside (outside.host hypervisor.name ⟨cluster.namespace, cluster.name, name⟩ call)

/-- A call to etcd. -/
def etcd (name : String) (call : EtcdCall) :
    ReconcileM σ (Except EtcdError (List EtcdMember)) := do
  let cluster ← cluster
  onOutside (outside.etcd ⟨cluster.namespace, cluster.name, name⟩ call)

/-- `CreateCertificate`. -/
def createCertificate (ca : Option Certificate) (commonName : String)
    (organization extraSANs : List String) : ReconcileM σ Certificate := do
  match ← onOutside (outside.createCertificate ca commonName organization extraSANs) with
  | .ok certificate => pure certificate
  | .error fault => throw fault

/-- `ClientCertificate` of a component. -/
def clientCertificate (componentName : String) (ca : Option Certificate)
    (name commonName : String) (organization extraSANs : List String) :
    ReconcileM σ Certificate := do
  match (← component componentName).clientCertificates.lookup name with
  | some clientCertificate => pure clientCertificate
  | none =>
    let clientCertificate ← createCertificate outside ca commonName organization extraSANs
    let component ← component componentName
    modify fun world => world.setComponent { component with
      clientCertificates := component.clientCertificates.insert name clientCertificate }
    pure clientCertificate

/-- `ServerCertificate` of a component. -/
def serverCertificate (componentName : String) (ca : Option Certificate)
    (name commonName : String) (organization extraSANs : List String) :
    ReconcileM σ Certificate := do
  match (← component componentName).serverCertificates.lookup name with
  | some serverCertificate => pure serverCertificate
  | none =>
    let serverCertificate ← createCertificate outside ca commonName organization extraSANs
    let component ← component componentName
    modify fun world => world.setComponent { component with
      serverCertificates := component.serverCertificates.insert name serverCertificate }
    pure serverCertificate

/-- `ToolingImage`. -/
def toolingImage : String := "oneinfra/tooling:latest"

/-- `UploadFiles` to the hypervisor of a component. -/
def uploadFiles (name : String) (files : List (String × String)) : ReconcileM σ Unit := do
  let hypervisor ← derefHypervisor name
  let cluster ← cluster
  let filesToUpload := files.filter fun file =>
    !hypervisor.fileUpToDate cluster.namespace cluster.name name file.1 (outside.sha1Sum file.2)
  if filesToUpload = [] then return
  host outside name (.ensureImage toolingImage)
  host outside name (.runAndWaitForPod "upload-files")
  let hypervisor ← derefHypervisor name
  modify fun world => world.setHypervisor (hypervisor.recordFiles world.cluster.namespace
    world.cluster.name name (files.map fun file => (file.1, outside.sha1Sum file.2)))

/-- `KubeConfig` of a component. -/
def kubeConfig (componentName apiServerEndpoint name : String) : ReconcileM σ String := do
  let cluster ← cluster
  let certificateAuthorities ← ofExcept (deref cluster.certificateAuthorities)
  let clientCertificate ← clientCertificate outside componentName
    certificateAuthorities.apiServerClient name "kubernetes-admin" ["system:masters"] []
  let apiServer ← ofExcept (deref cluster.apiServer)
  let ca ← ofExcept (deref apiServer.ca)
  callOutside (outside.render (.kubeConfig
    ⟨cluster.name, apiServerEndpoint, ca.certificate, clientCertificate⟩))

/-- `hostCleanup`.  The two kinds of components differ in what their pods remove. -/
def hostCleanup (name : String) : ReconcileM σ Unit := do
  let cluster ← cluster
  host outside name
    (.runAndWaitForPod (cluster.namespace ++ "-" ++ cluster.name ++ "-" ++ name ++ "-cleanup"))
  let hypervisor ← derefHypervisor name
  modify fun world => world.setHypervisor
    (hypervisor.cleanupHypervisorFileMap world.cluster.namespace world.cluster.name name)

end Outside

end Components

end OneInfra
