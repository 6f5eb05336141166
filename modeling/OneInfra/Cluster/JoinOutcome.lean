import OneInfra.Cluster.JoinAnswers
import OneInfra.Cluster.SymmetricKey

/-!
# How the work on a request ends

If the calls to the outside succeed and the cluster is complete, then a request
decides by its own texts how the work on it ends: with an answer, with an error,
or with a panic (`fillNodeJoinRequest_outcome`).

The work on a request also depends on the cluster in memory, which the requests
before it have changed.  `Alike` are two clusters that differ in what was made for
other requests.  On them the work ends alike, and the answers are the same but for
the VPN address (`coupled_fillNodeJoinRequest`).
-/

namespace OneInfra

/-- The calls to the outside succeed. -/
structure JoinOutcomes.Succeed (outcomes : JoinOutcomes) : Prop where
  restClientFromKubeConfig : ∀ kubeConfig, outcomes.restClientFromKubeConfig kubeConfig = .ok ()
  listError : outcomes.listError = none
  nonce : ∀ name field, ∃ random, outcomes.nonce name field = .ok random
  encryptKey : ∀ joinKey content, ∃ text, outcomes.encryptKey joinKey content = .ok text
  createCertificate : ∀ ca commonName organization extraSANs, ∃ certificate,
    outcomes.createCertificate ca commonName organization extraSANs = .ok certificate
  encodeKubeConfig : ∀ kubeConfig, ∃ text, outcomes.encodeKubeConfig kubeConfig = some text
  encodeKubeletConfig : ∀ address, ∃ text, outcomes.encodeKubeletConfig address = .ok text
  generatePrivateKey : ∀ peerName, ∃ key, outcomes.generatePrivateKey peerName = .ok key
  put : ∀ name, outcomes.put name = true

namespace Cluster

open Lib SymmetricKey

/-- The cluster has what the fill functions read. -/
structure Complete (net : NetText) (c : Cluster) : Prop where
  certificateAuthorities : ∃ certificateAuthorities kubeletClient,
    c.certificateAuthorities = some certificateAuthorities ∧
    certificateAuthorities.kubeletClient = some kubeletClient
  apiServer : ∃ apiServer ca, c.apiServer = some apiServer ∧ apiServer.ca = some ca
  coreDNSServiceIP : ∃ address, coreDNSServiceIP net c = .ok address
  -- `requestVPNIP` panics on a network of a smaller number
  vpnCIDR : c.vpn.enabled = true → ∃ cidr, c.vpn.cidr = some cidr ∧ 255 ≤ cidr.number

/-- The request can get its VPN address: the VPN is disabled, the peer exists, or an
address is left. -/
def HasAddress (net : NetText) (c : Cluster) (name : String) : Prop :=
  c.vpn.enabled = true → c.vpnPeer (workerPeerName name) = none →
    ∃ vpnIP, c.requestVPNIP net = .ok vpnIP

/-- The endpoint that the kubeconfig of a request gets. -/
def endpointText (cipher : Cipher) (c : Cluster) (r : NodeJoinRequest) : Except Fault String :=
  if r.apiServerEndpoint = "" then .ok c.apiServerEndpoint
  else cipher.decrypt r.symmetricKey r.apiServerEndpoint

/-- The SANs of a request. -/
def sanTexts (cipher : Cipher) (r : NodeJoinRequest) : Except Fault (List String) :=
  r.extraSANs.mapM (cipher.decrypt r.symmetricKey)

/-- All texts of a request, in the order in which they are decrypted. -/
def requestTexts (cipher : Cipher) (c : Cluster) (r : NodeJoinRequest) :
    Except Fault (String × List String) := do
  let apiServerEndpoint ← endpointText cipher c r
  let extraSANs ← sanTexts cipher r
  pure (apiServerEndpoint, extraSANs)

variable {env : Environment} {prims : CryptoPrimitives} {outcomes : JoinOutcomes}
  {c c' : Cluster} {r : NodeJoinRequest}

/-! ## Calls that succeed -/

theorem Complete.of_extends (hcompl : Complete env.net c) (hextends : Extends c c') :
    Complete env.net c' := by
  rw [hextends.cluster]
  exact ⟨hcompl.certificateAuthorities, hcompl.apiServer, hcompl.coreDNSServiceIP,
    hcompl.vpnCIDR⟩

theorem exists_encrypt (prims : CryptoPrimitives) (hsucc : outcomes.Succeed)
    (hkey : ValidSize r.symmetricKey) (field : SealedField) (content : String) (c : Cluster) :
    ∃ text, (r.encrypt prims.cipher outcomes field content).run c = .ok text c := by
  obtain ⟨random, hrandom⟩ := hsucc.nonce r.name field
  obtain ⟨text, htext⟩ : ∃ text, SymmetricKey.encrypt prims r.symmetricKey
      (outcomes.nonce r.name field) content = .ok text :=
    ⟨_, encrypt_eq_ok.mpr ⟨hkey, random, hrandom, rfl⟩⟩
  refine ⟨text, run_ofExcept_eq_ok.mpr ⟨?_, rfl⟩⟩
  show (SymmetricKey.encrypt prims _ _ _).mapError _ = _
  rw [htext]
  rfl

theorem returns_clientCertificate (hsucc : outcomes.Succeed) (ca : Option Certificate)
    (name commonName : String) (organization extraSANs : List String) (c : Cluster) :
    Returns (clientCertificate outcomes ca name commonName organization extraSANs) c := by
  refine .bind rfl ?_
  cases c.clientCertificates.lookup name with
  | some certificate => exact .of_pure _ _
  | none =>
    obtain ⟨certificate, hcreate⟩ := hsucc.createCertificate ca commonName organization extraSANs
    dsimp only
    rw [hcreate]
    exact .bind rfl (.bind rfl (.of_pure _ _))

theorem returns_kubeConfigWithEndpoint (hsucc : outcomes.Succeed)
    (hcompl : Complete env.net c) (ep commonName : String)
    (organization : List String) :
    Returns (kubeConfigWithEndpoint outcomes ep commonName organization) c := by
  obtain ⟨cas, -, hcas, -⟩ := hcompl.certificateAuthorities
  obtain ⟨apiServer, ca, hserver, hca⟩ := hcompl.apiServer
  obtain ⟨certificate, c', hcert⟩ := returns_clientCertificate hsucc cas.apiServerClient
    commonName commonName organization [] c
  have hobj : (kubeConfigObject outcomes ep commonName organization).run c =
      .ok ⟨c.name, ep, ca.certificate, certificate⟩ c' := by
    simp only [kubeConfigObject, run_bind_eq_ok]
    exact ⟨c, c, rfl, cas, c, run_ofExcept_eq_ok.mpr ⟨deref_eq_ok.mpr hcas, rfl⟩, certificate, c',
      hcert, apiServer, c', run_ofExcept_eq_ok.mpr ⟨deref_eq_ok.mpr hserver, rfl⟩, ca, c',
      run_ofExcept_eq_ok.mpr ⟨deref_eq_ok.mpr hca, rfl⟩, rfl⟩
  refine .bind hobj ?_
  obtain ⟨text, htext⟩ := hsucc.encodeKubeConfig
    ⟨c.name, ep, ca.certificate, certificate⟩
  exact ⟨text, c', run_ofExcept_eq_ok.mpr ⟨by rw [marshalKubeConfig, htext], rfl⟩⟩

theorem returns_restClient (hsucc : outcomes.Succeed)
    (hcompl : Complete env.net c) : Returns (restClient outcomes) c := by
  obtain ⟨text, c', htext⟩ := returns_kubeConfigWithEndpoint hsucc hcompl c.apiServerEndpoint
    "kubernetes-admin" ["system:masters"]
  have hadmin : (adminKubeConfig outcomes).run c = .ok text c' :=
    run_bind_eq_ok.mpr ⟨c, c, rfl, htext⟩
  refine .bind hadmin ⟨(), c', run_ofExcept_eq_ok.mpr ⟨?_, rfl⟩⟩
  rw [hsucc.restClientFromKubeConfig]
  rfl

theorem returns_fillKubernetesVersion (hsucc : outcomes.Succeed)
    (hkey : ValidSize r.symmetricKey) (c : Cluster) :
    Returns (fillNodeJoinRequestKubernetesVersion prims.cipher outcomes r) c := by
  obtain ⟨text, htext⟩ := exists_encrypt prims hsucc hkey .kubernetesVersion
    c.kubernetesVersion c
  exact .bind rfl (.bind htext (.of_pure _ _))

theorem returns_generateVPNPeer (hsucc : outcomes.Succeed) {name : String}
    (haddr : HasAddress env.net c name) (henb : c.vpn.enabled = true) :
    Returns (generateVPNPeer env.net (outcomes.generatePrivateKey (workerPeerName name))
      (workerPeerName name)) c := by
  show ∃ vpnPeer c', generateVPNPeer _ _ _ c = _
  unfold generateVPNPeer
  cases hpeer : c.vpnPeer (workerPeerName name) with
  | some vpnPeer => exact ⟨_, _, rfl⟩
  | none =>
    obtain ⟨vpnIP, hip⟩ := haddr henb hpeer
    obtain ⟨key, hgenerate⟩ := hsucc.generatePrivateKey (workerPeerName name)
    rw [hip, hgenerate]
    exact ⟨_, _, rfl⟩

theorem returns_fillVPN (hsucc : outcomes.Succeed) (hcompl : Complete env.net c)
    (haddr : HasAddress env.net c r.name) (hkey : ValidSize r.symmetricKey) :
    Returns (fillNodeJoinRequestVPNAddressAndPeers env prims.cipher outcomes r) c := by
  refine .bind rfl ?_
  cases henb : c.vpn.enabled with
  | false => exact .of_pure _ _
  | true =>
    obtain ⟨cidr, hcidr, -⟩ := hcompl.vpnCIDR henb
    obtain ⟨vpnPeer, c', hpeer⟩ := returns_generateVPNPeer hsucc haddr henb
    have henc := exists_encrypt prims hsucc hkey
    obtain ⟨vpnCIDR, hvpnCIDR⟩ := henc .vpnCIDR (env.net.ipNetString cidr) c
    obtain ⟨address, haddrText⟩ := henc .vpnAddress vpnPeer.address c'
    obtain ⟨privateKey, hprivKey⟩ := henc .vpnPeerPrivateKey vpnPeer.privateKey c'
    obtain ⟨endpoint, hep⟩ := henc .vpnEndpoint c.vpnServerEndpoint c'
    obtain ⟨publicKey, hpubKey⟩ := henc .vpnEndpointPublicKey c.vpn.publicKey c'
    refine .bind (run_ofExcept_eq_ok.mpr ⟨deref_eq_ok.mpr hcidr, rfl⟩) (.bind hvpnCIDR ?_)
    refine .bind hpeer (.bind haddrText (.bind hprivKey ?_))
    exact .bind hep (.bind hpubKey (.of_pure _ _))

/-- Without an address the VPN fill function returns the error of `requestVPNIP`. -/
theorem fillVPN_of_not_hasAddress (hsucc : outcomes.Succeed) (hcompl : Complete env.net c)
    (haddr : ¬ HasAddress env.net c r.name) (hkey : ValidSize r.symmetricKey) :
    ∃ message, (fillNodeJoinRequestVPNAddressAndPeers env prims.cipher outcomes r).run c =
      .error (.error message) c := by
  simp only [HasAddress, Classical.not_imp] at haddr
  obtain ⟨henb, hnone, hip⟩ := haddr
  obtain ⟨cidr, hcidr, hnum⟩ := hcompl.vpnCIDR henb
  obtain ⟨vpnCIDR, hvpnCIDR⟩ := exists_encrypt prims hsucc hkey .vpnCIDR
    (env.net.ipNetString cidr) c
  have hpanics : ¬ ExceptPanics (c.requestVPNIP env.net) := by
    rw [requestVPNIP_panics_iff env.net hcidr, nextVPNNumber]
    omega
  obtain ⟨message, hmsg⟩ : ∃ message, c.requestVPNIP env.net = .error (.error message) := by
    rcases hreq : c.requestVPNIP env.net with (message | message) | vpnIP
    · exact ⟨message, rfl⟩
    · exact absurd ⟨message, hreq⟩ hpanics
    · exact absurd ⟨vpnIP, hreq⟩ hip
  have hpeer : (generateVPNPeer env.net (outcomes.generatePrivateKey (workerPeerName r.name))
      (workerPeerName r.name)).run c = .error (.error message) c := by
    show generateVPNPeer _ _ _ c = _
    rw [generateVPNPeer, hnone, hmsg]
  refine ⟨message, ?_⟩
  simp only [fillNodeJoinRequestVPNAddressAndPeers, EStateM.run_bind, EStateM.run_get, henb]
  exact (run_bind_of_ok (run_ofExcept_eq_ok.mpr ⟨deref_eq_ok.mpr hcidr, rfl⟩)).trans
    ((run_bind_of_ok hvpnCIDR).trans (run_bind_of_error hpeer))

theorem returns_fillKubeletConfig (hsucc : outcomes.Succeed)
    (hcompl : Complete env.net c) (hkey : ValidSize r.symmetricKey) :
    Returns (fillNodeJoinRequestKubeletConfig env prims.cipher outcomes r) c := by
  obtain ⟨address, haddr⟩ := hcompl.coreDNSServiceIP
  obtain ⟨config, hconf⟩ := hsucc.encodeKubeletConfig address
  obtain ⟨text, htext⟩ := exists_encrypt prims hsucc hkey .kubeletConfig config c
  have hkubelet : c.kubeletConfig env outcomes = .ok config := by
    rw [kubeletConfig, haddr]
    simp [hconf, Except.mapError, bind, Except.bind]
  exact .bind rfl (.bind (run_ofExcept_eq_ok.mpr ⟨hkubelet, rfl⟩) (.bind htext (.of_pure _ _)))

theorem returns_fillKubeletClientCACertificate (hsucc : outcomes.Succeed)
    (hcompl : Complete env.net c) (hkey : ValidSize r.symmetricKey) :
    Returns (fillNodeJoinRequestKubeletClientCACertificate prims.cipher outcomes r) c := by
  obtain ⟨cas, kubeletClient, hcas, hclient⟩ := hcompl.certificateAuthorities
  obtain ⟨text, htext⟩ := exists_encrypt prims hsucc hkey .kubeletClientCACertificate
    kubeletClient.certificate c
  refine .bind rfl (.bind (run_ofExcept_eq_ok.mpr ⟨deref_eq_ok.mpr hcas, rfl⟩) ?_)
  exact .bind (run_ofExcept_eq_ok.mpr ⟨deref_eq_ok.mpr hclient, rfl⟩)
    (.bind htext (.of_pure _ _))

/-! ## The texts of the request decide -/

theorem requestAPIServerEndpoint_eq (cipher : Cipher) (r : NodeJoinRequest) (c : Cluster) :
    (requestAPIServerEndpoint cipher r).run c =
      (ofExcept (endpointText cipher c r) : EStateM Fault Cluster String).run c := by
  simp only [requestAPIServerEndpoint, EStateM.run_bind, EStateM.run_get, endpointText]
  split_ifs <;> rfl

theorem returns_fillKubeConfig (hsucc : outcomes.Succeed)
    (hcompl : Complete env.net c) (hkey : ValidSize r.symmetricKey)
    {ep : String} (htexts : endpointText prims.cipher c r = .ok ep) :
    Returns (fillNodeJoinRequestKubeConfig prims.cipher outcomes r) c := by
  have hep : (requestAPIServerEndpoint prims.cipher r).run c = .ok ep c := by
    rw [requestAPIServerEndpoint_eq, htexts]
    rfl
  obtain ⟨config, c', hconf⟩ := returns_kubeConfigWithEndpoint hsucc hcompl
    ep ("system:node:" ++ r.name) ["system:nodes"]
  obtain ⟨text, htext⟩ := exists_encrypt prims hsucc hkey .kubeConfig config c'
  exact .bind hep (.bind hconf (.bind htext (.of_pure _ _)))

theorem fillKubeConfig_error {fault : Fault}
    (htexts : endpointText prims.cipher c r = .error fault) :
    (fillNodeJoinRequestKubeConfig prims.cipher outcomes r).run c = .error fault c := by
  rw [fillNodeJoinRequestKubeConfig, EStateM.run_bind, requestAPIServerEndpoint_eq, htexts]
  rfl

theorem returns_fillKubeletServerCertificate (hsucc : outcomes.Succeed)
    (hcompl : Complete env.net c) (hkey : ValidSize r.symmetricKey)
    {extraSANs : List String} (htexts : sanTexts prims.cipher r = .ok extraSANs) :
    Returns (fillNodeJoinRequestKubeletServerCertificate prims.cipher outcomes r) c := by
  obtain ⟨cas, -, hcas, -⟩ := hcompl.certificateAuthorities
  obtain ⟨certificate, hcreate⟩ := hsucc.createCertificate cas.kubelet r.name [c.name]
    (extraSANs ++ [r.name])
  have henc := exists_encrypt prims hsucc hkey
  obtain ⟨text, htext⟩ := henc .kubeletServerCertificate certificate.certificate c
  obtain ⟨keyText, hkeyText⟩ := henc .kubeletServerPrivateKey certificate.privateKey c
  refine .bind rfl (.bind (run_ofExcept_eq_ok.mpr ⟨htexts, rfl⟩) ?_)
  refine .bind (run_ofExcept_eq_ok.mpr ⟨deref_eq_ok.mpr hcas, rfl⟩) ?_
  exact .bind (run_ofExcept_eq_ok.mpr ⟨hcreate, rfl⟩)
    (.bind htext (.bind hkeyText (.of_pure _ _)))

theorem fillKubeletServerCertificate_error {fault : Fault}
    (htexts : sanTexts prims.cipher r = .error fault) :
    (fillNodeJoinRequestKubeletServerCertificate prims.cipher outcomes r).run c =
      .error fault c := by
  rw [sanTexts] at htexts
  simp only [fillNodeJoinRequestKubeletServerCertificate, EStateM.run_bind, EStateM.run_get, htexts]
  rfl

/-- A key of another size is an error before anything is filled. -/
theorem fillNodeJoinRequest_of_not_validSize (env : Environment) (prims : CryptoPrimitives)
    (outcomes : JoinOutcomes) (hkey : ¬ ValidSize r.symmetricKey) (c : Cluster) :
    ∃ message, (fillNodeJoinRequest env prims.cipher outcomes r).run c =
      .error (.error message) c := by
  have henc : SymmetricKey.encrypt prims r.symmetricKey
      (outcomes.nonce r.name .kubernetesVersion) c.kubernetesVersion =
      .error ("crypto/aes: invalid key size " ++ toString r.symmetricKey.utf8ByteSize) := by
    simp [SymmetricKey.encrypt, newCipher, hkey, bind, Except.bind]
  refine ⟨"crypto/aes: invalid key size " ++ toString r.symmetricKey.utf8ByteSize, ?_⟩
  simp only [fillNodeJoinRequest, fillNodeJoinRequestKubernetesVersion, NodeJoinRequest.encrypt,
    EStateM.run_bind, EStateM.run_get, CryptoPrimitives.cipher, henc]
  rfl

/-- A complete cluster after the kubeconfig fill function is complete, and a
request differs in its kubeconfig only. -/
theorem fillKubeConfig_complete {r' : NodeJoinRequest} (hcompl : Complete env.net c)
    (hrun : (fillNodeJoinRequestKubeConfig prims.cipher outcomes r).run c = .ok r' c') :
    Complete env.net c' ∧ ∃ text, r' = { r with kubeConfig := text } := by
  have hgen := (generates_fillKubeConfig prims.cipher outcomes r).of_run hrun
  obtain ⟨text, -, -, hr, -⟩ := fillKubeConfig_ok prims.cipher outcomes hrun
  exact ⟨hcompl.of_extends hgen.toExtends, text, hr⟩

theorem fillCredentials_outcome (hsucc : outcomes.Succeed)
    (hcompl : Complete env.net c)
    (hkey : ValidSize r.symmetricKey) :
    match requestTexts prims.cipher c r with
    | .ok _ => Returns (fillCredentials env prims.cipher outcomes r) c
    | .error fault =>
      ∃ c', (fillCredentials env prims.cipher outcomes r).run c = .error fault c' := by
  unfold requestTexts
  cases hep : endpointText prims.cipher c r with
  | error fault => exact ⟨c, run_bind_of_error (fillKubeConfig_error hep)⟩
  | ok ep =>
    have hkubeConf : Returns (fillNodeJoinRequestKubeConfig prims.cipher outcomes r) c :=
      returns_fillKubeConfig hsucc hcompl hkey hep
    obtain ⟨r₁, c₁, hrun₁⟩ := hkubeConf
    obtain ⟨hcomplete₁, kubeConfig, rfl⟩ := fillKubeConfig_complete hcompl hrun₁
    have hkubelet : Returns (fillNodeJoinRequestKubeletConfig env prims.cipher outcomes
        { r with kubeConfig := kubeConfig }) c₁ :=
      returns_fillKubeletConfig hsucc hcomplete₁ hkey
    obtain ⟨r₂, c₂, hrun₂⟩ := hkubelet
    obtain ⟨rfl, kubeletConfig, -, rfl, -⟩ := fillKubeletConfig_ok env prims.cipher outcomes hrun₂
    cases hsans : sanTexts prims.cipher r with
    | error fault =>
      exact ⟨c₂, (run_bind_of_ok hrun₁).trans ((run_bind_of_ok hrun₂).trans
        (run_bind_of_error (fillKubeletServerCertificate_error hsans)))⟩
    | ok extraSANs =>
      have hserver : Returns (fillNodeJoinRequestKubeletServerCertificate prims.cipher outcomes
          { r with kubeConfig := kubeConfig, kubeletConfig := kubeletConfig }) c₂ :=
        returns_fillKubeletServerCertificate hsucc hcomplete₁ hkey hsans
      obtain ⟨r₃, c₃, hrun₃⟩ := hserver
      obtain ⟨rfl, certificate, privateKey, -, -, -, rfl, -⟩ :=
        fillKubeletServerCertificate_ok prims.cipher outcomes hrun₃
      exact .bind hrun₁ (.bind hrun₂ (.bind hrun₃
        (returns_fillKubeletClientCACertificate hsucc hcomplete₁ hkey)))

/-- The work on a request with a key of a valid size and an address is that of the
fill functions after the VPN, on a cluster that has the peer. -/
theorem exists_run_fillCredentials (hsucc : outcomes.Succeed)
    (hcompl : Complete env.net c) (haddr : HasAddress env.net c r.name)
    (hkey : ValidSize r.symmetricKey) :
    ∃ version vpn c₂, Extends c c₂ ∧
      (c.vpn.enabled = true → ∃ vpnPeer, c₂.vpnPeer (workerPeerName r.name) = some vpnPeer) ∧
      (fillNodeJoinRequest env prims.cipher outcomes r).run c =
        (fillCredentials env prims.cipher outcomes
          { r with kubernetesVersion := version, vpn := vpn }).run c₂ := by
  have hver : Returns (fillNodeJoinRequestKubernetesVersion prims.cipher outcomes r) c :=
    returns_fillKubernetesVersion hsucc hkey c
  obtain ⟨r₁, c₁, hrun₁⟩ := hver
  obtain ⟨rfl, version, rfl, -⟩ := fillKubernetesVersion_ok prims.cipher outcomes hrun₁
  have hvpn : Returns (fillNodeJoinRequestVPNAddressAndPeers env prims.cipher outcomes
      { r with kubernetesVersion := version }) c₁ :=
    returns_fillVPN hsucc hcompl haddr hkey
  obtain ⟨r₂, c₂, hrun₂⟩ := hvpn
  have hextends := ((generates_fillVPN env prims.cipher outcomes _).of_run hrun₂).toExtends
  have hrun : (fillNodeJoinRequest env prims.cipher outcomes r).run c₁ =
      (fillCredentials env prims.cipher outcomes r₂).run c₂ :=
    (run_bind_of_ok hrun₁).trans (run_bind_of_ok hrun₂)
  rcases fillVPN_ok env prims.cipher outcomes hrun₂ with
    ⟨hdisabled, rfl⟩ | ⟨-, vpn, vpnPeer, rfl, hpeer, -⟩
  · exact ⟨version, r.vpn, c₂, hextends, fun henb => by simp [hdisabled] at henb, hrun⟩
  · exact ⟨version, some vpn, c₂, hextends, fun _ => ⟨vpnPeer, hpeer⟩, hrun⟩

/-- The texts of a request with a key of a valid size and an address decide how the
work on it ends. -/
theorem fillNodeJoinRequest_outcome (hsucc : outcomes.Succeed)
    (hcompl : Complete env.net c) (haddr : HasAddress env.net c r.name)
    (hkey : ValidSize r.symmetricKey) :
    match requestTexts prims.cipher c r with
    | .ok _ => Returns (fillNodeJoinRequest env prims.cipher outcomes r) c
    | .error fault =>
      ∃ c', (fillNodeJoinRequest env prims.cipher outcomes r).run c = .error fault c' := by
  obtain ⟨version, vpn, c₂, hextends, -, hrun⟩ :=
    exists_run_fillCredentials hsucc hcompl haddr hkey
  -- the texts do not depend on what was filled in
  have htexts : requestTexts prims.cipher c₂ { r with kubernetesVersion := version, vpn := vpn } =
      requestTexts prims.cipher c r := by
    unfold requestTexts endpointText sanTexts
    rw [hextends.apiServerEndpoint]
  unfold Returns
  rw [hrun, ← htexts]
  exact fillCredentials_outcome hsucc (hcompl.of_extends hextends) hkey

/-- The work on a request whose texts open returns an answer. -/
theorem returns_fillNodeJoinRequest (hsucc : outcomes.Succeed)
    (hcompl : Complete env.net c) (haddr : HasAddress env.net c r.name)
    (hkey : ValidSize r.symmetricKey) {texts : String × List String}
    (htexts : requestTexts prims.cipher c r = .ok texts) :
    Returns (fillNodeJoinRequest env prims.cipher outcomes r) c := by
  have hout : match requestTexts prims.cipher c r with
      | .ok _ => Returns (fillNodeJoinRequest env prims.cipher outcomes r) c
      | .error fault =>
        ∃ c', (fillNodeJoinRequest env prims.cipher outcomes r).run c = .error fault c' :=
    fillNodeJoinRequest_outcome hsucc hcompl haddr hkey
  rw [htexts] at hout
  exact hout

/-- Without an address the work on a request is an error that leaves the cluster as
it is. -/
theorem fillNodeJoinRequest_of_not_hasAddress (hsucc : outcomes.Succeed)
    (hcompl : Complete env.net c) (haddr : ¬ HasAddress env.net c r.name)
    (hkey : ValidSize r.symmetricKey) :
    ∃ message, (fillNodeJoinRequest env prims.cipher outcomes r).run c =
      .error (.error message) c := by
  have hver : Returns (fillNodeJoinRequestKubernetesVersion prims.cipher outcomes r) c :=
    returns_fillKubernetesVersion hsucc hkey c
  obtain ⟨r₁, c₁, hrun₁⟩ := hver
  obtain ⟨rfl, version, rfl, -⟩ := fillKubernetesVersion_ok prims.cipher outcomes hrun₁
  obtain ⟨message, hvpn⟩ := fillVPN_of_not_hasAddress (r := { r with kubernetesVersion := version })
    hsucc hcompl haddr hkey
  exact ⟨message, (run_bind_of_ok hrun₁).trans (run_bind_of_error hvpn)⟩

/-- The work on a request with a key of a valid size panics exactly if it gets an
address and its texts panic. -/
theorem panics_fillNodeJoinRequest_iff (hsucc : outcomes.Succeed)
    (hcompl : Complete env.net c) (hkey : ValidSize r.symmetricKey) :
    Panics ((fillNodeJoinRequest env prims.cipher outcomes r).run c) ↔
      HasAddress env.net c r.name ∧ ExceptPanics (requestTexts prims.cipher c r) := by
  by_cases haddr : HasAddress env.net c r.name
  · rw [and_iff_right haddr]
    have hout : match requestTexts prims.cipher c r with
        | .ok _ => Returns (fillNodeJoinRequest env prims.cipher outcomes r) c
        | .error fault =>
          ∃ c', (fillNodeJoinRequest env prims.cipher outcomes r).run c = .error fault c' :=
      fillNodeJoinRequest_outcome hsucc hcompl haddr hkey
    cases htexts : requestTexts prims.cipher c r with
    | ok texts =>
      rw [htexts] at hout
      obtain ⟨r', c', hrun⟩ := hout
      rw [hrun]
      refine iff_of_false (not_panics_ok _ _) ?_
      rintro ⟨_, h⟩
      cases h
    | error fault =>
      rw [htexts] at hout
      obtain ⟨c', hrun⟩ := hout
      rw [hrun]
      constructor
      · rintro ⟨message, c'', h⟩
        cases h
        exact ⟨message, rfl⟩
      · rintro ⟨message, h⟩
        cases h
        exact ⟨message, c', rfl⟩
  · obtain ⟨message, hrun⟩ := fillNodeJoinRequest_of_not_hasAddress hsucc
      hcompl haddr hkey
    rw [hrun]
    exact iff_of_false (not_panics_error _ _) fun h => haddr h.1

/-- After the work on a request with an address its peer exists. -/
theorem exists_vpnPeer_fillNodeJoinRequest (hsucc : outcomes.Succeed)
    (hcompl : Complete env.net c) (henb : c.vpn.enabled = true)
    (haddr : HasAddress env.net c r.name) (hkey : ValidSize r.symmetricKey) :
    ∃ vpnPeer, (finalState ((fillNodeJoinRequest env prims.cipher outcomes r).run c)).vpnPeer
      (workerPeerName r.name) = some vpnPeer := by
  obtain ⟨version, vpn, c₂, -, hpeer, hrun⟩ :=
    exists_run_fillCredentials hsucc hcompl haddr hkey
  obtain ⟨vpnPeer, hpeer⟩ := hpeer henb
  rw [hrun]
  exact ⟨vpnPeer,
    (generates_fillCredentials env prims.cipher outcomes _ c₂).vpnPeers_kept _ _ hpeer⟩

/-! ## Two clusters -/

/-- Two clusters that differ in what was made for requests of other names.  They
can both make the peer of `name`, or both have it. -/
structure Alike (net : NetText) (name : String) (c d : Cluster) : Prop where
  cluster : d = { c with clientCertificates := d.clientCertificates, vpnPeers := d.vpnPeers }
  certificate : d.clientCertificates.lookup (nodeCommonName name) =
    c.clientCertificates.lookup (nodeCommonName name)
  vpnPeer : c.vpn.enabled = true →
    (∃ p q, c.vpnPeer (workerPeerName name) = some p ∧ d.vpnPeer (workerPeerName name) = some q ∧
      q.privateKey = p.privateKey) ∨
    (c.vpnPeer (workerPeerName name) = none ∧ d.vpnPeer (workerPeerName name) = none ∧
      ∃ ip ip', c.requestVPNIP net = .ok ip ∧ d.requestVPNIP net = .ok ip')

/-- The VPN status without the address. -/
def hideAddress (vpn : NodeVPN) : NodeVPN := { vpn with address := "" }

/-- Two requests that differ in the VPN address at most. -/
def SameButAddress (r s : NodeJoinRequest) : Prop :=
  ∃ vpn, s = { r with vpn := vpn } ∧ vpn.map hideAddress = r.vpn.map hideAddress

variable {name : String} {s : NodeJoinRequest}

theorem Alike.of_sameButCertificate {d d' : Cluster} {net : NetText} (h : Alike net name c d)
    (hc : SameButCertificate (nodeCommonName name) c c')
    (hd : SameButCertificate (nodeCommonName name) d d')
    (hcert : d'.clientCertificates.lookup (nodeCommonName name) =
      c'.clientCertificates.lookup (nodeCommonName name)) : Alike net name c' d' := by
  obtain ⟨hcl, -, hpeer⟩ := h
  refine ⟨?_, hcert, ?_⟩
  · rw [hd.cluster, hc.cluster, hcl]
  · rw [hc.cluster, hd.cluster]
    exact hpeer

theorem coupled_clientCertificate (outcomes : JoinOutcomes) (net : NetText)
    (ca : Option Certificate)
    (organization extraSANs : List String) :
    Coupled (Alike net name) Eq
      (clientCertificate outcomes ca (nodeCommonName name) (nodeCommonName name) organization
        extraSANs)
      (clientCertificate outcomes ca (nodeCommonName name) (nodeCommonName name) organization
        extraSANs) := by
  intro c d h
  have hc := sameButCertificate_clientCertificate outcomes ca (nodeCommonName name)
    (nodeCommonName name) organization extraSANs c
  have hd := sameButCertificate_clientCertificate outcomes ca (nodeCommonName name)
    (nodeCommonName name) organization extraSANs d
  simp only [clientCertificate, EStateM.run_bind, EStateM.run_get] at hc hd ⊢
  rw [h.certificate] at hd ⊢
  cases hlk : c.clientCertificates.lookup (nodeCommonName name) with
  | some certificate => exact ⟨rfl, h⟩
  | none =>
    rw [hlk] at hc hd
    cases hcreate : outcomes.createCertificate ca (nodeCommonName name) organization extraSANs with
    | error fault => exact ⟨rfl, h⟩
    | ok certificate =>
      rw [hcreate] at hc hd
      refine ⟨rfl, h.of_sameButCertificate hc hd ?_⟩
      exact (Finmap.lookup_insert _).trans (Finmap.lookup_insert c.clientCertificates).symm

theorem coupled_kubeConfigWithEndpoint (outcomes : JoinOutcomes) (net : NetText)
    (ep : String) (organization : List String) :
    Coupled (Alike net name) Eq
      (kubeConfigWithEndpoint outcomes ep (nodeCommonName name) organization)
      (kubeConfigWithEndpoint outcomes ep (nodeCommonName name) organization) := by
  refine .bind_eq (.bind .of_get fun c d h => ?_) fun kubeConfig => .of_ofExcept _
  rw [h.cluster]
  refine .bind_eq (.of_ofExcept _) fun cas => ?_
  refine .bind_eq (coupled_clientCertificate outcomes net _ _ _) fun certificate => ?_
  exact .bind_eq (.of_ofExcept _) fun apiServer => .bind_eq (.of_ofExcept _) fun ca => .of_pure rfl

/-- Two texts are encrypted or neither is, whatever they are. -/
theorem coupled_encrypt {R : Cluster → Cluster → Prop} (prims : CryptoPrimitives)
    (outcomes : JoinOutcomes) (r : NodeJoinRequest) (field : SealedField)
    (content content' : String) :
    Coupled R (fun text text' => content = content' → text = text')
      (r.encrypt prims.cipher outcomes field content)
      (r.encrypt prims.cipher outcomes field content') := by
  -- whether there is a nonce and a key does not depend on the text
  have henc : ∀ content, prims.cipher.encrypt r.symmetricKey (outcomes.nonce r.name field)
      content =
        (newCipher r.symmetricKey >>= fun _ => outcomes.nonce r.name field).map fun random =>
        prims.encodeToString (nonceBytes random ++
          prims.gcmSeal r.symmetricKey (nonceBytes random) content) := by
    intro content
    show SymmetricKey.encrypt prims _ _ _ = _
    unfold SymmetricKey.encrypt
    cases newCipher r.symmetricKey with
    | error message => rfl
    | ok _ => cases outcomes.nonce r.name field <;> rfl
  intro c d h
  unfold NodeJoinRequest.encrypt
  rw [henc, henc]
  cases newCipher r.symmetricKey >>= fun _ => outcomes.nonce r.name field with
  | error message => exact ⟨rfl, h⟩
  | ok random => exact ⟨fun hcont => by rw [hcont], h⟩

/-- One text is encrypted to one text. -/
theorem coupled_encrypt_eq {R : Cluster → Cluster → Prop} (prims : CryptoPrimitives)
    (outcomes : JoinOutcomes) (r : NodeJoinRequest) (field : SealedField)
    {content content' : String}
    (hcont : content = content') :
    Coupled R Eq (r.encrypt prims.cipher outcomes field content)
      (r.encrypt prims.cipher outcomes field content') :=
  fun c d h => (coupled_encrypt prims outcomes r field content content' c d h).mono
    (fun _ _ => id) fun _ _ htext => htext hcont

/-- The peers of two clusters that are alike have one private key. -/
theorem coupled_generateVPNPeer (net : NetText) (key : Except String WireGuardKey) :
    Coupled (fun c d => Alike net name c d ∧ c.vpn.enabled = true)
      (fun p q => p.privateKey = q.privateKey)
      (generateVPNPeer net key (workerPeerName name))
      (generateVPNPeer net key (workerPeerName name)) := by
  rintro c d ⟨h, henb⟩
  show EndAlike _ _ (generateVPNPeer net key (workerPeerName name) c)
    (generateVPNPeer net key (workerPeerName name) d)
  unfold generateVPNPeer
  rcases h.vpnPeer henb with ⟨p, q, hp, hq, hkey⟩ | ⟨hp, hq, ip, ip', hip, hip'⟩
  · rw [hp, hq]
    exact ⟨hkey.symm, h, henb⟩
  · rw [hp, hq, hip, hip']
    cases key with
    | error message => exact ⟨rfl, h, henb⟩
    | ok key =>
      refine ⟨rfl, ⟨?_, h.certificate, fun _ => .inl ⟨_, _, Finmap.lookup_insert _,
        Finmap.lookup_insert _, rfl⟩⟩, henb⟩
      rw [h.cluster]

/-! ### The fill functions on two clusters -/

theorem coupled_fillKubernetesVersion (prims : CryptoPrimitives) (outcomes : JoinOutcomes)
    (net : NetText) (r : NodeJoinRequest) :
    Coupled (Alike net name) Eq (fillNodeJoinRequestKubernetesVersion prims.cipher outcomes r)
      (fillNodeJoinRequestKubernetesVersion prims.cipher outcomes r) := by
  refine .bind .of_get fun c d h => .bind_eq (coupled_encrypt_eq prims outcomes r _ ?_) fun text =>
    .of_pure rfl
  rw [h.cluster]

theorem coupled_fillVPN (env : Environment) (prims : CryptoPrimitives) (outcomes : JoinOutcomes)
    (r : NodeJoinRequest) :
    Coupled (Alike env.net r.name) SameButAddress
      (fillNodeJoinRequestVPNAddressAndPeers env prims.cipher outcomes r)
      (fillNodeJoinRequestVPNAddressAndPeers env prims.cipher outcomes r) := by
  intro c d h
  have hvpn : d.vpn = c.vpn := by rw [h.cluster]
  have hep : d.vpnServerEndpoint = c.vpnServerEndpoint := by rw [h.cluster]
  simp only [fillNodeJoinRequestVPNAddressAndPeers, EStateM.run_bind, EStateM.run_get]
  rw [hvpn, hep]
  cases henb : c.vpn.enabled with
  | false => exact ⟨⟨r.vpn, rfl, rfl⟩, h⟩
  | true =>
    -- the rest runs on clusters with the VPN enabled, where peers can be made
    refine EndAlike.mono (R := fun c d => Alike env.net r.name c d ∧ c.vpn.enabled = true)
      (V := SameButAddress) (fun _ _ => And.left) (fun _ _ => id) ?_
    refine (?_ : Coupled _ _ _ _) c d ⟨h, henb⟩
    refine .bind_eq (.of_ofExcept _) fun cidr =>
      .bind_eq (coupled_encrypt_eq prims outcomes r _ rfl) fun vpnCIDR => ?_
    refine .bind (coupled_generateVPNPeer env.net _) fun p q hkey => ?_
    refine .bind (coupled_encrypt prims outcomes r _ _ _) fun address address' _ =>
      .bind_eq (coupled_encrypt_eq prims outcomes r _ hkey) fun privateKey => ?_
    exact .bind_eq (coupled_encrypt_eq prims outcomes r _ rfl) fun endpoint =>
      .bind_eq (coupled_encrypt_eq prims outcomes r _ rfl) fun publicKey =>
      .of_pure ⟨_, rfl, rfl⟩

theorem coupled_fillKubeConfig (prims : CryptoPrimitives) (outcomes : JoinOutcomes) (net : NetText)
    (hs : SameButAddress r s) :
    Coupled (Alike net r.name) SameButAddress
      (fillNodeJoinRequestKubeConfig prims.cipher outcomes r)
      (fillNodeJoinRequestKubeConfig prims.cipher outcomes s) := by
  obtain ⟨vpn, rfl, hvpn⟩ := hs
  refine .bind_eq (.bind .of_get fun c d h => ?_) fun ep =>
    .bind_eq (coupled_kubeConfigWithEndpoint outcomes net _ _) fun kubeConfig =>
    .bind_eq (coupled_encrypt_eq prims outcomes r _ rfl) fun text => .of_pure ⟨vpn, rfl, hvpn⟩
  rw [h.cluster]
  dsimp only
  split
  · exact .of_pure rfl
  · exact .of_ofExcept _

theorem coupled_fillKubeletConfig (env : Environment) (prims : CryptoPrimitives)
    (outcomes : JoinOutcomes) (hs : SameButAddress r s) :
    Coupled (Alike env.net name) SameButAddress
      (fillNodeJoinRequestKubeletConfig env prims.cipher outcomes r)
      (fillNodeJoinRequestKubeletConfig env prims.cipher outcomes s) := by
  obtain ⟨vpn, rfl, hvpn⟩ := hs
  refine .bind .of_get fun c d h => ?_
  rw [h.cluster]
  exact .bind_eq (.of_ofExcept _) fun kubeletConfig =>
    .bind_eq (coupled_encrypt_eq prims outcomes r _ rfl) fun text => .of_pure ⟨vpn, rfl, hvpn⟩

theorem coupled_fillKubeletServerCertificate (prims : CryptoPrimitives) (outcomes : JoinOutcomes)
    (net : NetText) (hs : SameButAddress r s) :
    Coupled (Alike net name) SameButAddress
      (fillNodeJoinRequestKubeletServerCertificate prims.cipher outcomes r)
      (fillNodeJoinRequestKubeletServerCertificate prims.cipher outcomes s) := by
  obtain ⟨vpn, rfl, hvpn⟩ := hs
  refine .bind .of_get fun c d h => ?_
  rw [h.cluster]
  refine .bind_eq (.of_ofExcept _) fun extraSANs => .bind_eq (.of_ofExcept _) fun cas =>
    .bind_eq (.of_ofExcept _) fun certificate => ?_
  exact .bind_eq (coupled_encrypt_eq prims outcomes r _ rfl) fun text =>
    .bind_eq (coupled_encrypt_eq prims outcomes r _ rfl) fun keyText => .of_pure ⟨vpn, rfl, hvpn⟩

theorem coupled_fillKubeletClientCACertificate (prims : CryptoPrimitives) (outcomes : JoinOutcomes)
    (net : NetText) (hs : SameButAddress r s) :
    Coupled (Alike net name) SameButAddress
      (fillNodeJoinRequestKubeletClientCACertificate prims.cipher outcomes r)
      (fillNodeJoinRequestKubeletClientCACertificate prims.cipher outcomes s) := by
  obtain ⟨vpn, rfl, hvpn⟩ := hs
  refine .bind .of_get fun c d h => ?_
  rw [h.cluster]
  exact .bind_eq (.of_ofExcept _) fun cas => .bind_eq (.of_ofExcept _) fun kubeletClient =>
    .bind_eq (coupled_encrypt_eq prims outcomes r _ rfl) fun text => .of_pure ⟨vpn, rfl, hvpn⟩

/-- The work on a request ends alike on clusters that are alike, and its answers
differ in the VPN address at most. -/
theorem coupled_fillNodeJoinRequest (env : Environment) (prims : CryptoPrimitives)
    (outcomes : JoinOutcomes) (r : NodeJoinRequest) :
    Coupled (Alike env.net r.name) SameButAddress (fillNodeJoinRequest env prims.cipher outcomes r)
      (fillNodeJoinRequest env prims.cipher outcomes r) := by
  refine .bind (V := fun a b => a = b ∧ a.name = r.name)
    (.and_of_run (coupled_fillKubernetesVersion prims outcomes env.net r) fun c c' r₁ hrun => ?_) ?_
  · obtain ⟨-, text, rfl, -⟩ := fillKubernetesVersion_ok prims.cipher outcomes hrun
    rfl
  rintro r₁ _ ⟨rfl, hname⟩
  rw [← hname]
  refine .bind (V := fun a b => SameButAddress a b ∧ a.name = r₁.name)
    (.and_of_run (coupled_fillVPN env prims outcomes r₁) fun c c' r₂ hrun => ?_) ?_
  · rcases fillVPN_ok env prims.cipher outcomes hrun with ⟨-, rfl⟩ |
      ⟨-, vpn, vpnPeer, rfl, -⟩ <;> rfl
  rintro r₂ s₂ ⟨hs₂, hname₂⟩
  rw [← hname₂]
  refine .bind (coupled_fillKubeConfig prims outcomes env.net hs₂) fun r₃ s₃ hs₃ =>
    .bind (coupled_fillKubeletConfig env prims outcomes hs₃) fun r₄ s₄ hs₄ => ?_
  exact .bind (coupled_fillKubeletServerCertificate prims outcomes env.net hs₄) fun r₅ s₅ hs₅ =>
    coupled_fillKubeletClientCACertificate prims outcomes env.net hs₅

end Cluster

end OneInfra
