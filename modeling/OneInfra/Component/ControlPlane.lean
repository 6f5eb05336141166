import OneInfra.Component.Etcd

/-!
# The control plane component

`internal/pkg/component/components/control_plane.go`.  Reconciling a control plane
uploads its secrets, runs etcd and then the Kubernetes control plane.  Deleting it
goes the other way, and frees each port after the pod that uses it is deleted.

The call to `EnsurePod` has the name and the ports of the pod.  Its containers are in
`OneInfra.Component.ControlPlanePod`.  The endpoints of etcd among their arguments are
computed here, since that can allocate ports.
-/

namespace OneInfra

open Lib Infra

/-- `List.AllWithHypervisorAssigned`. -/
def Component.allWithHypervisorAssigned (list : List Component) : Bool :=
  list.all fun component => component.hypervisorName ≠ ""

namespace Components

variable {σ : Type} (outside : Outside σ)

/-- The request for ports that a `PreReconcile` makes in sequence. -/
def requestPorts (name : String) (portNames : List String) : ReconcileM σ Unit :=
  portNames.forM fun portName => do
    let _ ← requestPort name portName

/-- The error of a `PreReconcile` without a hypervisor. -/
def noHypervisorAssigned (name : String) : Fault :=
  .error ("could not pre-reconcile component \"" ++ name ++ "\"; no hypervisor assigned yet")

namespace ControlPlane

/-- `PreReconcile`. -/
def preReconcile (name : String) : ReconcileM σ Unit := do
  if (← component name).hypervisorName = "" then throw (noHypervisorAssigned name)
  requestPorts name [apiServerHostPortName, etcdPeerHostPortName, etcdClientHostPortName]

/-- `reconcileInputAndOutputEndpoints`. -/
def reconcileInputAndOutputEndpoints (name : String) : ReconcileM σ Unit := do
  let apiserverHostPort ← requestPort name apiServerHostPortName
  let hypervisor ← derefHypervisor name
  setEndpoints name ∅
    ((∅ : GoMap String String).insert name (httpsURL hypervisor.ipAddress apiserverHostPort))

/-- The loop of `kubeAPIServerAdvertiseAddressAndPort`. -/
def advertiseAddressAndPort : List Component → String × Int64 → ReconcileM σ (String × Int64)
  | [], advertised => pure advertised
  | clusterLoadBalancer :: clusterLoadBalancers, advertised => do
    match (← get).componentHypervisor clusterLoadBalancer with
    | none => advertiseAddressAndPort clusterLoadBalancers advertised
    | some loadBalancerHypervisor =>
      match ← attempt (requestPort clusterLoadBalancer.name apiServerHostPortName) with
      | .ok port =>
        advertiseAddressAndPort clusterLoadBalancers (loadBalancerHypervisor.ipAddress, port)
      | .error _ =>
        advertiseAddressAndPort clusterLoadBalancers (loadBalancerHypervisor.ipAddress, 0)

/-- The load balancers of the cluster, if all have a hypervisor assigned. -/
def clusterLoadBalancers : ReconcileM σ (List Component) := do
  let clusterLoadBalancers := (← get).clusterComponents .controlPlaneIngress
  if !Component.allWithHypervisorAssigned clusterLoadBalancers then
    throw (.error "not all load balancers have an hypervisor assigned")
  return clusterLoadBalancers

/-- `kubeAPIServerAdvertiseAddressAndPort`. -/
def kubeAPIServerAdvertiseAddressAndPort : ReconcileM σ (String × Int64) := do
  advertiseAddressAndPort (← clusterLoadBalancers) ("", 0)

/-- `kubeAPIServerSANs`. -/
def kubeAPIServerSANs : ReconcileM σ (List String) := do
  let cluster ← cluster
  let clusterLoadBalancers ← clusterLoadBalancers
  let apiServer ← ofExcept (deref cluster.apiServer)
  let world ← get
  let kubernetesServiceIP ← ofExcept (Cluster.kubernetesServiceIP outside.net cluster)
  return apiServer.extraSANs ++
    (clusterLoadBalancers.filterMap world.componentHypervisor).map Hypervisor.ipAddress ++
    [kubernetesServiceIP]

/-- `uploadFiles`. -/
def uploadFiles (name : String) : ReconcileM σ Unit := do
  let cluster ← cluster
  let certificateAuthorities ← ofExcept (deref cluster.certificateAuthorities)
  let etcdAPIServerClientCertificate ← clientCertificate outside name
    certificateAuthorities.etcdClient "apiserver-etcd-client" ("apiserver-etcd-client-" ++ name)
    [cluster.name] []
  let kubeAPIServerExtraSANs ← kubeAPIServerSANs outside
  let apiServer ← ofExcept (deref cluster.apiServer)
  let apiServerCertificate ← serverCertificate outside name apiServer.ca
    "kube-apiserver" "kube-apiserver" ["kube-apiserver"] kubeAPIServerExtraSANs
  let kubeletClientCertificate ← clientCertificate outside name
    certificateAuthorities.kubeletClient "kube-apiserver-kubelet-client"
    "kube-apiserver-kubelet-client" ["oneinfra:kubelet-proxier"] []
  let (_, advertiseAddressPort) ← kubeAPIServerAdvertiseAddressAndPort
  let apiserverURL := httpsURL "127.0.0.1" advertiseAddressPort
  let controllerManagerKubeConfig ← kubeConfig outside name apiserverURL "controller-manager"
  let schedulerKubeConfig ← kubeConfig outside name apiserverURL "scheduler"
  let etcdServer ← ofExcept (deref cluster.etcdServer)
  let etcdServerCA ← ofExcept (deref etcdServer.ca)
  let apiServerClientCA ← ofExcept (deref certificateAuthorities.apiServerClient)
  let serviceAccount ← ofExcept (deref apiServer.serviceAccount)
  let certificateSigner ← ofExcept (deref certificateAuthorities.certificateSigner)
  let kubeletCA ← ofExcept (deref certificateAuthorities.kubelet)
  let file := componentSecretsPathFile cluster.namespace cluster.name name
  Components.uploadFiles outside name
    [(file "etcd-ca.crt", etcdServerCA.certificate),
      (file "apiserver-etcd-client.crt", etcdAPIServerClientCertificate.certificate),
      (file "apiserver-etcd-client.key", etcdAPIServerClientCertificate.privateKey),
      (file "apiserver-client-ca.crt", apiServerClientCA.certificate),
      (file "apiserver.crt", apiServerCertificate.certificate),
      (file "apiserver.key", apiServerCertificate.privateKey),
      (file "service-account-pub.key", serviceAccount.publicKey),
      (file "apiserver-kubelet-client.crt", kubeletClientCertificate.certificate),
      (file "apiserver-kubelet-client.key", kubeletClientCertificate.privateKey),
      (file "controller-manager.kubeconfig", controllerManagerKubeConfig),
      (file "service-account.key", serviceAccount.privateKey),
      (file "cluster-signing-ca.crt", certificateSigner.certificate),
      (file "cluster-signing-ca.key", certificateSigner.privateKey),
      (file "scheduler.kubeconfig", schedulerKubeConfig),
      (file "kubelet-ca.crt", kubeletCA.certificate)]

/-- `controlPlanePodName`. -/
def controlPlanePodName (cluster : Cluster) : String := "control-plane-" ++ cluster.name

/-- `Reconcile`. -/
def reconcile (name : String) : ReconcileM σ Unit := do
  let cluster ← cluster
  match outside.etcdVersion cluster.kubernetesVersion with
  | none => throw (.error ("could not retrieve version bundle for version \"" ++
      cluster.kubernetesVersion ++ "\""))
  | some etcdVersion =>
    -- the log line reads the name of the hypervisor
    let _ ← derefHypervisor name
    reconcileInputAndOutputEndpoints name
    [ "oneinfra/etcd:" ++ etcdVersion,
      "k8s.gcr.io/kube-apiserver:v" ++ cluster.kubernetesVersion,
      "k8s.gcr.io/kube-controller-manager:v" ++ cluster.kubernetesVersion,
      "k8s.gcr.io/kube-scheduler:v" ++ cluster.kubernetesVersion ].forM fun image =>
        host outside name (.ensureImage image)
    let (_, advertiseAddressPort) ← kubeAPIServerAdvertiseAddressAndPort
    uploadFiles outside name
    let apiserverHostPort ← requestPort name apiServerHostPortName
    runEtcd outside name
    let _ ← etcdClientEndpoints
    host outside name (.ensurePod (controlPlanePodName cluster)
      [(apiserverHostPort, advertiseAddressPort)])

/-- `stopControlPlane`. -/
def stopControlPlane (name : String) : ReconcileM σ Unit := do
  host outside name (.deletePod (controlPlanePodName (← cluster)))
  freePort name apiServerHostPortName

/-- `ReconcileDeletion`. -/
def reconcileDeletion (name : String) : ReconcileM σ Unit := do
  if (← hypervisor name).isNone then return
  stopControlPlane outside name
  if (← cluster).deletionTimestamp.isNone then removeEtcdMember outside name
  stopEtcd outside name
  hostCleanup outside name

end ControlPlane

end Components

end OneInfra
