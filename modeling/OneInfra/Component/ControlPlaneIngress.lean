import OneInfra.Component.ControlPlane

/-!
# The control plane ingress component

`internal/pkg/component/components/control_plane_ingress.go` and `wireguard.go`.
An ingress forwards to the control planes of its cluster, and runs the VPN server
if the cluster has the VPN enabled.  The port for the VPN is requested and freed
only then.
-/

namespace OneInfra.Components.ControlPlaneIngress

open OneInfra.Lib OneInfra.Infra

variable {σ : Type} (outside : Outside σ)

/-- `PreReconcile`. -/
def preReconcile (name : String) : ReconcileM σ Unit := do
  if (← component name).hypervisorName = "" then throw (noHypervisorAssigned name)
  requestPorts name [apiServerHostPortName]
  if (← cluster).vpn.enabled then requestPorts name [wireguardHostPortName]

/-- The body of the loop of `reconcileInputAndOutputEndpoints` over the control planes. -/
def addInputEndpoint (name : String) (clusterComponent : Component) : ReconcileM σ Unit := do
  if clusterComponent.deletionTimestamp.isSome then return
  match (← get).componentHypervisor clusterComponent with
  | none => return
  | some hypervisor =>
    let apiserverHostPort ← requestPort clusterComponent.name apiServerHostPortName
    let component ← component name
    setEndpoints name (component.inputEndpoints.insert clusterComponent.name
      (httpsURL hypervisor.ipAddress apiserverHostPort)) component.outputEndpoints

/-- The loop itself. -/
def addInputEndpoints (name : String) (clusterComponents : List Component) : ReconcileM σ Unit :=
  clusterComponents.forM (addInputEndpoint name)

/-- `reconcileInputAndOutputEndpoints`. -/
def reconcileInputAndOutputEndpoints (name : String) : ReconcileM σ Unit := do
  let apiserverHostPort ← requestPort name apiServerHostPortName
  let hypervisor ← derefHypervisor name
  setEndpoints name ∅
    ((∅ : GoMap String String).insert name (httpsURL hypervisor.ipAddress apiserverHostPort))
  addInputEndpoints name ((← get).clusterComponents .controlPlane)

/-- The address of the API server of a control plane, for `haProxyConfiguration`. -/
def apiServerAddress (world : World σ) (component : Component) :
    Except Fault (String × String) := do
  match component.allocatedHostPorts.lookup apiServerHostPortName with
  | none => throw (.error "apiserver host port not found")
  | some apiserverHostPort =>
    match world.componentHypervisor component with
    | none => throw nilHypervisor
    | some hypervisor =>
      return (component.name, joinHostPort hypervisor.ipAddress apiserverHostPort)

/-- `haProxyConfiguration` for the control planes of the cluster. -/
def haProxyConfiguration : ReconcileM σ String := do
  let world ← get
  let apiServers ← ofExcept ((world.clusterComponents .controlPlane).mapM (apiServerAddress world))
  callOutside (outside.render (.haProxy apiServers))

/-! ## The VPN server -/

/-- `netNSName`. -/
def netNSName (cluster : Cluster) : String :=
  "oneinfra-wireguard-" ++ cluster.namespace ++ "-" ++ cluster.name

/-- `wireguardInterfaceName`. -/
def wireguardInterfaceName (cluster : Cluster) : String :=
  String.ofList
    (("wg-" ++ outside.sha1Sum (cluster.namespace ++ "-" ++ cluster.name)).toList.take 15)

/-- `wireguardSystemdServiceName`. -/
def wireguardSystemdServiceName (cluster : Cluster) : String :=
  "oneinfra-wireguard-" ++ cluster.namespace ++ "-" ++ cluster.name ++ ".service"

/-- `wireguardSystemdServicePath`. -/
def wireguardSystemdServicePath (cluster : Cluster) : String :=
  FilePath.join ["/etc/systemd/system", wireguardSystemdServiceName cluster]

/-- The peers that `wireguardScriptContents` lists, for a traversal of the VPN peers.  A peer
with an address that cannot be read is left out. -/
def wireguardScriptPeers (net : NetText) (parseCIDRAddress : String → Option (List UInt8))
    (vpnPeers : List (String × VPNPeer)) : List ScriptPeer :=
  vpnPeers.filterMap fun entry =>
    match parseCIDRAddress entry.2.address with
    | none => none
    | some ipAddress =>
      let ipAddressNet : IPNet :=
        if ipAddress.length = 16 then ⟨ipAddress, leadingOnes 128 16⟩
        else ⟨ipAddress, leadingOnes 32 4⟩
      some ⟨entry.2.publicKey, net.ipNetString ipAddressNet⟩

/-- `wireguardScriptContents`. -/
def wireguardScriptContents (name : String) : ReconcileM σ String := do
  let cluster ← cluster
  let wireguardHostPort ← requestPort name wireguardHostPortName
  callOutside fun state => outside.render (.wireguardScript (wireguardInterfaceName outside cluster)
    cluster.vpn.cidr wireguardHostPort
    (componentSecretsPathFile cluster.namespace cluster.name name "wg.key") (netNSName cluster)
    (wireguardScriptPeers outside.net outside.parseCIDRAddress
      (outside.vpnPeerOrder cluster.vpnPeers state))) state

/-- `klog.Fatal`, which ends the process. -/
def fatal (message : String) : Fault := .panic ("exit status 255: " ++ message)

/-- `reconcileWireguard`.  The process ends if there is no script. -/
def reconcileWireguard (name : String) : ReconcileM σ Unit := do
  let cluster ← cluster
  let file := componentSecretsPathFile cluster.namespace cluster.name name
  let wireguardSystemdServiceContents ← callOutside (outside.render
    (.wireguardSystemdService cluster.namespace cluster.name (file "wg.sh")))
  match ← attempt (wireguardScriptContents outside name) with
  | .error message => throw (fatal message)
  | .ok wireguardScriptContents =>
    uploadFiles outside name
      [(wireguardSystemdServicePath cluster, wireguardSystemdServiceContents),
        (file "wg.sh", wireguardScriptContents),
        (file "wg.key", cluster.vpn.privateKey)]
    host outside name (.ensureImage toolingImage)
    host outside name (.runAndWaitForPod
      ("enable-and-start-wireguard-" ++ cluster.namespace ++ "-" ++ cluster.name))

/-! ## Reconcile and deletion -/

/-- `ingressPodName`. -/
def ingressPodName (cluster : Cluster) : String := "control-plane-ingress-" ++ cluster.name

/-- `haProxyImage`. -/
def haProxyImage : String := "oneinfra/haproxy:latest"

/-- `Reconcile`. -/
def reconcile (name : String) : ReconcileM σ Unit := do
  let cluster ← cluster
  let clusterComponents := (← get).clusterComponents .controlPlane
  if !Component.allWithHypervisorAssigned clusterComponents then
    throw (.error ("could not reconcile component \"" ++ name ++
      "\", not all cluster components have an hypervisor assigned"))
  if (clusterComponents.length : Int) ≠ cluster.controlPlaneReplicas.toInt then
    throw (.error ("could not reconcile component \"" ++ name ++
      "\", control plane replicas do not match with current listed number of components"))
  -- the log line reads the name of the hypervisor
  let _ ← derefHypervisor name
  reconcileInputAndOutputEndpoints name
  host outside name (.ensureImage haProxyImage)
  let apiserverHostPort ← requestPort name apiServerHostPortName
  let haProxyConfig ← haProxyConfiguration outside
  uploadFiles outside name
    [(componentSecretsPathFile cluster.namespace cluster.name name "haproxy.cfg", haProxyConfig)]
  host outside name (.ensurePod (ingressPodName cluster) [(apiserverHostPort, 6443)])
  if cluster.vpn.enabled then reconcileWireguard outside name

/-- `stopIngress`. -/
def stopIngress (name : String) : ReconcileM σ Unit := do
  let cluster ← cluster
  host outside name (.deletePod (ingressPodName cluster))
  freePort name apiServerHostPortName
  if cluster.vpn.enabled then freePort name wireguardHostPortName

/-- `ReconcileDeletion`. -/
def reconcileDeletion (name : String) : ReconcileM σ Unit := do
  if (← hypervisor name).isNone then return
  stopIngress outside name
  hostCleanup outside name

end OneInfra.Components.ControlPlaneIngress
