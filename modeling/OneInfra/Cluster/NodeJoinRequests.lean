import OneInfra.Cluster.V1alpha1
import OneInfra.Lib.Keyed

/-!
# Node join requests

`internal/pkg/node-join-requests/node_join_request.go` and
`internal/pkg/cluster/node_join_requests.go`.  A node asks to join a managed
cluster by a request with a symmetric key, and `ReconcileNodeJoinRequests`
answers every unissued request with a status that is encrypted with that key.

`Cipher` is the cryptography: the symmetric key of a request and the join key of
the cluster that hides it.  `JoinOutcomes` holds the outcomes of one run that
the code does not decide: the clock, the random values, the calls to the managed
cluster and the two YAML encoders.

The fill functions change two things, the request and the cluster in memory.
A request that fails half way leaves its changes on the cluster behind.
-/

namespace OneInfra

open Lib Conditions

/-- `VPN` of a node join request.  Every field is encrypted. -/
structure NodeVPN where
  cidr : String := ""
  address : String := ""
  peerPrivateKey : String := ""
  endpoint : String := ""
  endpointPublicKey : String := ""
deriving DecidableEq, Repr

namespace V1alpha1

/-- `NodeJoinRequestSpec`. -/
structure NodeJoinRequestSpec where
  symmetricKey : String := ""
  apiServerEndpoint : String := ""
  containerRuntimeEndpoint : String := ""
  imageServiceEndpoint : String := ""
  extraSANs : List String := []
deriving DecidableEq, Repr

/-- `NodeJoinRequestStatus`. -/
structure NodeJoinRequestStatus where
  kubernetesVersion : String := ""
  vpn : Option NodeVPN := none
  kubeConfig : String := ""
  kubeletConfig : String := ""
  kubeletServerCertificate : String := ""
  kubeletServerPrivateKey : String := ""
  kubeletClientCACertificate : String := ""
  conditions : ConditionList := []
deriving DecidableEq, Repr

/-- `NodeJoinRequest`, with the fields of its `ObjectMeta` that the code
reads. -/
structure NodeJoinRequest where
  name : String
  resourceVersion : Nat := 0
  spec : NodeJoinRequestSpec := {}
  status : NodeJoinRequestStatus := {}
deriving DecidableEq, Repr

end V1alpha1

/-- `nodejoinrequests.NodeJoinRequest`. -/
structure NodeJoinRequest where
  name : String
  symmetricKey : String
  apiServerEndpoint : String
  containerRuntimeEndpoint : String
  imageServiceEndpoint : String
  kubernetesVersion : String
  vpn : Option NodeVPN
  kubeConfig : String
  kubeletConfig : String
  kubeletServerCertificate : String
  kubeletServerPrivateKey : String
  kubeletClientCACertificate : String
  extraSANs : List String
  conditions : ConditionList
  resourceVersion : Nat
  joinKey : Option KeyPair
deriving DecidableEq, Repr

/-! ## What the code gets from outside -/

/-- The encryption of a request.  `encrypt` takes the nonce that was read, or
the error of reading it. -/
structure Cipher where
  /-- `SymmetricKey.Encrypt`. -/
  encrypt : (key : String) → (nonce : Except String String) → (content : String) →
    Except String String
  /-- `SymmetricKey.Decrypt`, which panics on a text shorter than a nonce. -/
  decrypt : (key : String) → (content : String) → Except Fault String
  /-- `KeyPair.Decrypt`. -/
  decryptKey : KeyPair → (content : String) → Except String String
  decrypt_encrypt : ∀ key nonce content text,
    encrypt key nonce content = .ok text → decrypt key text = .ok content

/-- A text that is encrypted as it is. -/
theorem Cipher.decrypt_plain (_key : String) (_nonce : Except String String) (content text : String)
    (h : (.ok content : Except String String) = .ok text) :
    (.ok text : Except Fault String) = .ok content := by
  cases h
  rfl

/-- The texts of a status that are encrypted, each with a nonce of its own. -/
inductive SealedField
  | kubernetesVersion
  | vpnCIDR
  | vpnAddress
  | vpnPeerPrivateKey
  | vpnEndpoint
  | vpnEndpointPublicKey
  | kubeConfig
  | kubeletConfig
  | kubeletServerCertificate
  | kubeletServerPrivateKey
  | kubeletClientCACertificate
deriving DecidableEq, Repr

/-- What `kubeConfigObjectWithClientCertificate` gets. -/
structure KubeConfigObject where
  clusterName : String
  apiServerEndpoint : String
  caCertificate : String
  clientCertificate : Certificate
deriving DecidableEq, Repr

/-- The outcomes of one run. -/
structure JoinOutcomes where
  /-- The clock. -/
  now : Nat
  /-- `RESTClientFromKubeConfig`. -/
  restClientFromKubeConfig : String → Except String Unit
  /-- The error of the list call, if it fails. -/
  listError : Option String
  /-- The read of a nonce, by request and field. -/
  nonce : String → SealedField → Except String String
  /-- `KeyPair.Encrypt`. -/
  encryptKey : KeyPair → String → Except String String
  /-- `CreateCertificate` of an authority that may be nil. -/
  createCertificate : Option Certificate → (commonName : String) →
    (organization extraSANs : List String) → Except Fault Certificate
  /-- The YAML encoder for a kubeconfig. -/
  encodeKubeConfig : KubeConfigObject → Option String
  /-- The YAML encoder for the kubelet configuration with a DNS address. -/
  encodeKubeletConfig : String → Except String String
  /-- `wgtypes.GeneratePrivateKey`, by peer name. -/
  generatePrivateKey : String → Except String WireGuardKey
  /-- Whether the status of the request of that name gets stored. -/
  put : String → Bool

namespace NodeJoinRequest

/-- The type of the condition that marks an answered request. -/
def issued : String := "Issued"

/-! ## Import and export -/

/-- The symmetric key of a request, as `NewNodeJoinRequestFromv1alpha1` reads
it. -/
def importSymmetricKey (cipher : Cipher) (joinKey : Option KeyPair) (symmetricKey : String) :
    Except String String :=
  match joinKey with
  | none => .ok symmetricKey
  | some joinKey => cipher.decryptKey joinKey symmetricKey

/-- `NewNodeJoinRequestFromv1alpha1`. -/
def newNodeJoinRequestFromv1alpha1 (cipher : Cipher)
    (nodeJoinRequest : V1alpha1.NodeJoinRequest) (joinKey : Option KeyPair) :
    Except String NodeJoinRequest := do
  let symmetricKey ← importSymmetricKey cipher joinKey nodeJoinRequest.spec.symmetricKey
  pure
    { name := nodeJoinRequest.name
      symmetricKey := symmetricKey
      apiServerEndpoint := nodeJoinRequest.spec.apiServerEndpoint
      containerRuntimeEndpoint := nodeJoinRequest.spec.containerRuntimeEndpoint
      imageServiceEndpoint := nodeJoinRequest.spec.imageServiceEndpoint
      kubernetesVersion := nodeJoinRequest.status.kubernetesVersion
      vpn := nodeJoinRequest.status.vpn
      kubeConfig := nodeJoinRequest.status.kubeConfig
      kubeletConfig := nodeJoinRequest.status.kubeletConfig
      kubeletServerCertificate := nodeJoinRequest.status.kubeletServerCertificate
      kubeletServerPrivateKey := nodeJoinRequest.status.kubeletServerPrivateKey
      kubeletClientCACertificate := nodeJoinRequest.status.kubeletClientCACertificate
      extraSANs := nodeJoinRequest.spec.extraSANs
      conditions := nodeJoinRequest.status.conditions
      resourceVersion := nodeJoinRequest.resourceVersion
      joinKey := joinKey }

/-- What an imported request has from the object. -/
structure IsImport (cipher : Cipher) (item : V1alpha1.NodeJoinRequest) (joinKey : Option KeyPair)
    (r : NodeJoinRequest) : Prop where
  name : r.name = item.name
  symmetricKey : importSymmetricKey cipher joinKey item.spec.symmetricKey = .ok r.symmetricKey
  apiServerEndpoint : r.apiServerEndpoint = item.spec.apiServerEndpoint
  extraSANs : r.extraSANs = item.spec.extraSANs
  vpn : r.vpn = item.status.vpn
  conditions : r.conditions = item.status.conditions
  joinKey : r.joinKey = joinKey

theorem isImport_of_ok {cipher : Cipher} {item : V1alpha1.NodeJoinRequest}
    {joinKey : Option KeyPair} {r : NodeJoinRequest}
    (himp : newNodeJoinRequestFromv1alpha1 cipher item joinKey = .ok r) :
    IsImport cipher item joinKey r := by
  obtain ⟨key, hkey, himp⟩ := except_bind_eq_ok.mp himp
  cases himp
  exact ⟨rfl, hkey, rfl, rfl, rfl, rfl, rfl⟩

/-- The symmetric key that `Export` writes. -/
def exportSymmetricKey (outcomes : JoinOutcomes) (nodeJoinRequest : NodeJoinRequest) :
    Except String String :=
  match nodeJoinRequest.joinKey with
  | none => .ok nodeJoinRequest.symmetricKey
  | some joinKey => outcomes.encryptKey joinKey nodeJoinRequest.symmetricKey

/-- `Export`. -/
def «export» (outcomes : JoinOutcomes) (nodeJoinRequest : NodeJoinRequest) :
    Except String V1alpha1.NodeJoinRequest := do
  let symmetricKey ← nodeJoinRequest.exportSymmetricKey outcomes
  pure
    { name := nodeJoinRequest.name
      resourceVersion := nodeJoinRequest.resourceVersion
      spec :=
        { symmetricKey := symmetricKey
          apiServerEndpoint := nodeJoinRequest.apiServerEndpoint
          containerRuntimeEndpoint := nodeJoinRequest.containerRuntimeEndpoint
          imageServiceEndpoint := nodeJoinRequest.imageServiceEndpoint
          extraSANs := nodeJoinRequest.extraSANs }
      status :=
        { kubernetesVersion := nodeJoinRequest.kubernetesVersion
          vpn := nodeJoinRequest.vpn
          kubeConfig := nodeJoinRequest.kubeConfig
          kubeletConfig := nodeJoinRequest.kubeletConfig
          kubeletServerCertificate := nodeJoinRequest.kubeletServerCertificate
          kubeletServerPrivateKey := nodeJoinRequest.kubeletServerPrivateKey
          kubeletClientCACertificate := nodeJoinRequest.kubeletClientCACertificate
          conditions := nodeJoinRequest.conditions } }

/-- The status that `Export` writes. -/
def exportStatus (nodeJoinRequest : NodeJoinRequest) : V1alpha1.NodeJoinRequestStatus where
  kubernetesVersion := nodeJoinRequest.kubernetesVersion
  vpn := nodeJoinRequest.vpn
  kubeConfig := nodeJoinRequest.kubeConfig
  kubeletConfig := nodeJoinRequest.kubeletConfig
  kubeletServerCertificate := nodeJoinRequest.kubeletServerCertificate
  kubeletServerPrivateKey := nodeJoinRequest.kubeletServerPrivateKey
  kubeletClientCACertificate := nodeJoinRequest.kubeletClientCACertificate
  conditions := nodeJoinRequest.conditions

/-- `Encrypt`, for one field of the status. -/
def encrypt (cipher : Cipher) (outcomes : JoinOutcomes) (nodeJoinRequest : NodeJoinRequest)
    (field : SealedField) (content : String) : EStateM Fault Cluster String :=
  ofExcept ((cipher.encrypt nodeJoinRequest.symmetricKey
    (outcomes.nonce nodeJoinRequest.name field) content).mapError .error)

/-- `Decrypt`. -/
def decrypt (cipher : Cipher) (nodeJoinRequest : NodeJoinRequest) (content : String) :
    EStateM Fault Cluster String :=
  ofExcept (cipher.decrypt nodeJoinRequest.symmetricKey content)

end NodeJoinRequest

namespace Cluster

variable (env : Environment) (cipher : Cipher) (outcomes : JoinOutcomes)

/-! ## Certificates and configurations -/

/-- `ClientCertificate`. -/
def clientCertificate (ca : Option Certificate) (name commonName : String)
    (organization extraSANs : List String) : EStateM Fault Cluster Certificate := do
  let cluster ← get
  match cluster.clientCertificates.lookup name with
  | some clientCertificate => pure clientCertificate
  | none =>
    let clientCertificate ←
      ofExcept (outcomes.createCertificate ca commonName organization extraSANs)
    set { cluster with
      clientCertificates := cluster.clientCertificates.insert name clientCertificate }
    pure clientCertificate

/-- `kubeConfigObject`. -/
def kubeConfigObject (apiServerEndpoint commonName : String) (organization : List String) :
    EStateM Fault Cluster KubeConfigObject := do
  let cluster ← get
  let certificateAuthorities ← ofExcept (deref cluster.certificateAuthorities)
  let certificate ← clientCertificate outcomes certificateAuthorities.apiServerClient
    commonName commonName organization []
  let apiServer ← ofExcept (deref cluster.apiServer)
  let ca ← ofExcept (deref apiServer.ca)
  pure ⟨cluster.name, apiServerEndpoint, ca.certificate, certificate⟩

/-- `marshalKubeConfig`. -/
def marshalKubeConfig (clusterName : String) (kubeConfig : KubeConfigObject) :
    Except Fault String :=
  match outcomes.encodeKubeConfig kubeConfig with
  | some encodedKubeConfig => .ok encodedKubeConfig
  | none => .error (.error ("could not create a kubeconfig for cluster \"" ++ clusterName ++ "\""))

/-- `KubeConfigWithEndpoint`. -/
def kubeConfigWithEndpoint (apiServerEndpoint commonName : String) (organization : List String) :
    EStateM Fault Cluster String := do
  let kubeConfig ← kubeConfigObject outcomes apiServerEndpoint commonName organization
  ofExcept (marshalKubeConfig outcomes kubeConfig.clusterName kubeConfig)

/-- `AdminKubeConfig`. -/
def adminKubeConfig : EStateM Fault Cluster String := do
  let cluster ← get
  kubeConfigWithEndpoint outcomes cluster.apiServerEndpoint "kubernetes-admin" ["system:masters"]

/-- `RESTClient`. -/
def restClient : EStateM Fault Cluster Unit := do
  let kubeConfig ← adminKubeConfig outcomes
  ofExcept ((outcomes.restClientFromKubeConfig kubeConfig).mapError .error)

/-- The network number of the services with `offset` added to its last byte. -/
def serviceIP (offset : UInt8) (net : NetText) (cluster : Cluster) : Except Fault String :=
  match net.parseCIDR cluster.serviceCIDR with
  | none => .error (.error ("invalid CIDR address: " ++ cluster.serviceCIDR))
  | some cidr =>
    match cidr.ip.getLast? with
    | none => .error (.panic "index out of range")
    | some last => .ok (net.ipString (cidr.ip.dropLast ++ [last + offset]))

/-- `CoreDNSServiceIP`. -/
def coreDNSServiceIP : NetText → Cluster → Except Fault String := serviceIP 10

/-- `KubernetesServiceIP`. -/
def kubernetesServiceIP : NetText → Cluster → Except Fault String := serviceIP 1

/-- `KubeletConfig`. -/
def kubeletConfig (cluster : Cluster) : Except Fault String := do
  let coreDNSServiceIP ← coreDNSServiceIP env.net cluster
  (outcomes.encodeKubeletConfig coreDNSServiceIP).mapError .error

/-! ## The fill functions -/

/-- `fillNodeJoinRequestKubernetesVersion`. -/
def fillNodeJoinRequestKubernetesVersion (nodeJoinRequest : NodeJoinRequest) :
    EStateM Fault Cluster NodeJoinRequest := do
  let cluster ← get
  let kubernetesVersion ←
    nodeJoinRequest.encrypt cipher outcomes .kubernetesVersion cluster.kubernetesVersion
  pure { nodeJoinRequest with kubernetesVersion := kubernetesVersion }

/-- The name of the VPN peer of a request. -/
def workerPeerName (nodeJoinRequestName : String) : String := "worker-" ++ nodeJoinRequestName

/-- `fillNodeJoinRequestVPNAddressAndPeers`. -/
def fillNodeJoinRequestVPNAddressAndPeers (nodeJoinRequest : NodeJoinRequest) :
    EStateM Fault Cluster NodeJoinRequest := do
  let cluster ← get
  if !cluster.vpn.enabled then return nodeJoinRequest
  let cidr ← ofExcept (deref cluster.vpn.cidr)
  let vpnCIDR ← nodeJoinRequest.encrypt cipher outcomes .vpnCIDR (env.net.ipNetString cidr)
  let peerName := workerPeerName nodeJoinRequest.name
  let vpnPeer ← generateVPNPeer env.net (outcomes.generatePrivateKey peerName) peerName
  let vpnAddress ← nodeJoinRequest.encrypt cipher outcomes .vpnAddress vpnPeer.address
  let vpnPeerPrivateKey ←
    nodeJoinRequest.encrypt cipher outcomes .vpnPeerPrivateKey vpnPeer.privateKey
  let ingressVPNEndpoint ←
    nodeJoinRequest.encrypt cipher outcomes .vpnEndpoint cluster.vpnServerEndpoint
  let endpointPublicKey ←
    nodeJoinRequest.encrypt cipher outcomes .vpnEndpointPublicKey cluster.vpn.publicKey
  pure { nodeJoinRequest with
    vpn := some ⟨vpnCIDR, vpnAddress, vpnPeerPrivateKey, ingressVPNEndpoint, endpointPublicKey⟩ }

/-- The API server endpoint of a request: its own one, or that of the
cluster. -/
def requestAPIServerEndpoint (nodeJoinRequest : NodeJoinRequest) :
    EStateM Fault Cluster String := do
  let cluster ← get
  if nodeJoinRequest.apiServerEndpoint = "" then pure cluster.apiServerEndpoint
  else nodeJoinRequest.decrypt cipher nodeJoinRequest.apiServerEndpoint

/-- `fillNodeJoinRequestKubeConfig`. -/
def fillNodeJoinRequestKubeConfig (nodeJoinRequest : NodeJoinRequest) :
    EStateM Fault Cluster NodeJoinRequest := do
  let apiServerEndpoint ← requestAPIServerEndpoint cipher nodeJoinRequest
  let kubeConfig ← kubeConfigWithEndpoint outcomes apiServerEndpoint
    ("system:node:" ++ nodeJoinRequest.name) ["system:nodes"]
  let kubeConfig ← nodeJoinRequest.encrypt cipher outcomes .kubeConfig kubeConfig
  pure { nodeJoinRequest with kubeConfig := kubeConfig }

/-- `fillNodeJoinRequestKubeletConfig`. -/
def fillNodeJoinRequestKubeletConfig (nodeJoinRequest : NodeJoinRequest) :
    EStateM Fault Cluster NodeJoinRequest := do
  let cluster ← get
  let kubeletConfig ← ofExcept (cluster.kubeletConfig env outcomes)
  let kubeletConfig ← nodeJoinRequest.encrypt cipher outcomes .kubeletConfig kubeletConfig
  pure { nodeJoinRequest with kubeletConfig := kubeletConfig }

/-- `fillNodeJoinRequestKubeletServerCertificate`. -/
def fillNodeJoinRequestKubeletServerCertificate (nodeJoinRequest : NodeJoinRequest) :
    EStateM Fault Cluster NodeJoinRequest := do
  let cluster ← get
  let extraSANs ← ofExcept
    (nodeJoinRequest.extraSANs.mapM (cipher.decrypt nodeJoinRequest.symmetricKey))
  let certificateAuthorities ← ofExcept (deref cluster.certificateAuthorities)
  let certificate ← ofExcept (outcomes.createCertificate certificateAuthorities.kubelet
    nodeJoinRequest.name [cluster.name] (extraSANs ++ [nodeJoinRequest.name]))
  let kubeletServerCertificate ←
    nodeJoinRequest.encrypt cipher outcomes .kubeletServerCertificate certificate.certificate
  let kubeletServerPrivateKey ←
    nodeJoinRequest.encrypt cipher outcomes .kubeletServerPrivateKey certificate.privateKey
  pure { nodeJoinRequest with
    kubeletServerCertificate := kubeletServerCertificate
    kubeletServerPrivateKey := kubeletServerPrivateKey }

/-- `fillNodeJoinRequestKubeletClientCACertificate`. -/
def fillNodeJoinRequestKubeletClientCACertificate (nodeJoinRequest : NodeJoinRequest) :
    EStateM Fault Cluster NodeJoinRequest := do
  let cluster ← get
  let certificateAuthorities ← ofExcept (deref cluster.certificateAuthorities)
  let kubeletClient ← ofExcept (deref certificateAuthorities.kubeletClient)
  let kubeletClientCACertificate ← nodeJoinRequest.encrypt cipher outcomes
    .kubeletClientCACertificate kubeletClient.certificate
  pure { nodeJoinRequest with kubeletClientCACertificate := kubeletClientCACertificate }

/-- The fill functions in the order of `ReconcileNodeJoinRequests`. -/
def fillNodeJoinRequest (nodeJoinRequest : NodeJoinRequest) :
    EStateM Fault Cluster NodeJoinRequest := do
  let nodeJoinRequest ← fillNodeJoinRequestKubernetesVersion cipher outcomes nodeJoinRequest
  let nodeJoinRequest ← fillNodeJoinRequestVPNAddressAndPeers env cipher outcomes nodeJoinRequest
  let nodeJoinRequest ← fillNodeJoinRequestKubeConfig cipher outcomes nodeJoinRequest
  let nodeJoinRequest ← fillNodeJoinRequestKubeletConfig env cipher outcomes nodeJoinRequest
  let nodeJoinRequest ←
    fillNodeJoinRequestKubeletServerCertificate cipher outcomes nodeJoinRequest
  fillNodeJoinRequestKubeletClientCACertificate cipher outcomes nodeJoinRequest

/-! ## The run over all requests -/

/-- The state of a run: the cluster in memory and, in the managed cluster, the
requests.  `answers` is a history variable with the requests whose VPN status
was stored, each with the peer that it was given. -/
structure JoinRun where
  cluster : Cluster
  requests : List V1alpha1.NodeJoinRequest
  answers : List (String × VPNPeer)

/-- The managed cluster stores the status of a request.  A write to the status
subresource leaves the spec as it is. -/
def storeStatus (status : V1alpha1.NodeJoinRequestStatus) (name : String)
    (requests : List V1alpha1.NodeJoinRequest) : List V1alpha1.NodeJoinRequest :=
  modifyKey V1alpha1.NodeJoinRequest.name name
    (fun request => { request with
      resourceVersion := request.resourceVersion + 1, status := status }) requests

/-- The entry of the history for a request with a VPN status. -/
def answer (cluster : Cluster) (nodeJoinRequest : NodeJoinRequest) : List (String × VPNPeer) :=
  if nodeJoinRequest.vpn.isSome then
    (cluster.vpnPeer (workerPeerName nodeJoinRequest.name)).toList.map (nodeJoinRequest.name, ·)
  else []

/-- The end of the loop body: the request is marked, exported and put. -/
def putNodeJoinRequest (nodeJoinRequest : NodeJoinRequest) (run : JoinRun) : JoinRun :=
  let nodeJoinRequest := { nodeJoinRequest with
    conditions :=
      setCondition nodeJoinRequest.conditions outcomes.now NodeJoinRequest.issued .true }
  match nodeJoinRequest.export outcomes with
  -- the request is put with an empty body, which the server rejects
  | .error _ => run
  | .ok versionedNodeJoinRequest =>
    if outcomes.put nodeJoinRequest.name then
      { run with
        requests := storeStatus versionedNodeJoinRequest.status nodeJoinRequest.name run.requests
        answers := run.answers ++ answer run.cluster nodeJoinRequest }
    else run

/-- The status of an answered request: what was filled in, marked as issued. -/
def issuedStatus (nodeJoinRequest : NodeJoinRequest) : V1alpha1.NodeJoinRequestStatus :=
  { nodeJoinRequest.exportStatus with
    conditions :=
      setCondition nodeJoinRequest.conditions outcomes.now NodeJoinRequest.issued .true }

/-- A put changes nothing, or it stores the status of the answered request. -/
theorem putNodeJoinRequest_eq (outcomes : JoinOutcomes) (r : NodeJoinRequest) (run : JoinRun) :
    putNodeJoinRequest outcomes r run =
      if (r.exportSymmetricKey outcomes).isOk ∧ outcomes.put r.name then
        { run with
          requests := storeStatus (issuedStatus outcomes r) r.name run.requests
          answers := run.answers ++ answer run.cluster r }
      else run := by
  have hkey : NodeJoinRequest.exportSymmetricKey outcomes { r with
      conditions := setCondition r.conditions outcomes.now NodeJoinRequest.issued .true } =
      r.exportSymmetricKey outcomes := rfl
  simp only [putNodeJoinRequest, NodeJoinRequest.export, hkey]
  cases r.exportSymmetricKey outcomes with
  | error message => rfl
  | ok key =>
    by_cases hput : outcomes.put r.name = true
    · simp [hput, Except.isOk, Except.toBool, bind, Except.bind, pure, Except.pure, issuedStatus,
        NodeJoinRequest.exportStatus, answer]
    · simp [hput, bind, Except.bind, pure, Except.pure]

/-- The loop body of `ReconcileNodeJoinRequests`.  An error ends the work on
this request, and a panic the run. -/
def reconcileNodeJoinRequest (versionedNodeJoinRequest : V1alpha1.NodeJoinRequest) :
    EStateM Fault JoinRun Unit := fun run =>
  match NodeJoinRequest.newNodeJoinRequestFromv1alpha1 cipher versionedNodeJoinRequest
      run.cluster.joinKey with
  | .error _ => .ok () run
  | .ok nodeJoinRequest =>
    if isCondition nodeJoinRequest.conditions NodeJoinRequest.issued .true then .ok () run
    else
      match (fillNodeJoinRequest env cipher outcomes nodeJoinRequest).run run.cluster with
      | .error (.panic message) cluster => .error (.panic message) { run with cluster := cluster }
      | .error (.error _) cluster => .ok () { run with cluster := cluster }
      | .ok nodeJoinRequest cluster =>
        .ok () (putNodeJoinRequest outcomes nodeJoinRequest { run with cluster := cluster })

/-- A program on the cluster in memory, in a run. -/
def JoinRun.onCluster {α : Type} (x : EStateM Fault Cluster α) : EStateM Fault JoinRun α :=
  fun run =>
    match x.run run.cluster with
    | .ok a cluster => .ok a { run with cluster := cluster }
    | .error fault cluster => .error fault { run with cluster := cluster }

/-- The list call. -/
def listNodeJoinRequests : EStateM Fault JoinRun (List V1alpha1.NodeJoinRequest) := do
  match outcomes.listError with
  | some message => throw (.error message)
  | none => return (← get).requests

/-- `ReconcileNodeJoinRequests`. -/
def reconcileNodeJoinRequests : EStateM Fault JoinRun Unit := do
  JoinRun.onCluster (restClient outcomes)
  let nodeJoinRequestList ← listNodeJoinRequests outcomes
  nodeJoinRequestList.forM (reconcileNodeJoinRequest env cipher outcomes)

end Cluster

end OneInfra
