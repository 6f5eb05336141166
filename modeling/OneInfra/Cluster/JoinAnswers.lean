import OneInfra.Cluster.NodeJoinRequests

/-!
# What a request is answered with

What the fill functions of `internal/pkg/cluster/node_join_requests.go` do to the
cluster in memory and to the request.

`Generates` is all that the work on one request may change in the cluster,
however it ends: the client certificate of the node and its VPN peer.  `Answered`
is what the texts of a status decrypt to when the work on the request is done
(`fillNodeJoinRequest_ok`).
-/

namespace OneInfra.Cluster

open Lib Conditions

variable (env : Environment) (cipher : Cipher) (outcomes : JoinOutcomes)

/-! ## The cluster in memory -/

/-- Only the client certificate of that name may differ. -/
structure SameButCertificate (name : String) (c c' : Cluster) : Prop where
  cluster : c' = { c with clientCertificates := c'.clientCertificates }
  certificates : ∀ other, other ≠ name →
    c'.clientCertificates.lookup other = c.clientCertificates.lookup other
  kept : ∀ other certificate, c.clientCertificates.lookup other = some certificate →
    c'.clientCertificates.lookup other = some certificate

namespace SameButCertificate

variable {name : String}

theorem refl (c : Cluster) : SameButCertificate name c c :=
  ⟨rfl, fun _ _ => rfl, fun _ _ => id⟩

theorem trans (c c' c'' : Cluster) (h : SameButCertificate name c c')
    (h' : SameButCertificate name c' c'') : SameButCertificate name c c'' := by
  refine ⟨?_, fun other hne => (h'.certificates other hne).trans (h.certificates other hne),
    fun other certificate hfound => h'.kept _ _ (h.kept _ _ hfound)⟩
  rw [h'.cluster, h.cluster]

end SameButCertificate

/-- The name of the client certificate of a node. -/
def nodeCommonName (nodeJoinRequestName : String) : String :=
  "system:node:" ++ nodeJoinRequestName

/-- The cluster has at least the certificates and peers that it had, and
everything else is unchanged. -/
structure Extends (c c' : Cluster) : Prop where
  cluster : c' = { c with
    clientCertificates := c'.clientCertificates, vpnPeers := c'.vpnPeers }
  certificates_kept : ∀ other certificate, c.clientCertificates.lookup other = some certificate →
    c'.clientCertificates.lookup other = some certificate
  vpnPeers_kept : ∀ peerName vpnPeer, c.vpnPeer peerName = some vpnPeer →
    c'.vpnPeer peerName = some vpnPeer

namespace Extends

variable {c c' : Cluster}

theorem refl (c : Cluster) : Extends c c := ⟨rfl, fun _ _ => id, fun _ _ => id⟩

theorem trans (c c' c'' : Cluster) (h : Extends c c') (h' : Extends c' c'') : Extends c c'' := by
  refine ⟨?_, fun other certificate hfound => h'.certificates_kept _ _
      (h.certificates_kept _ _ hfound),
    fun peerName vpnPeer hfound => h'.vpnPeers_kept _ _ (h.vpnPeers_kept _ _ hfound)⟩
  rw [h'.cluster, h.cluster]

theorem joinKey (h : Extends c c') : c'.joinKey = c.joinKey := by
  rw [h.cluster]

theorem name_eq (h : Extends c c') : c'.name = c.name := by
  rw [h.cluster]

theorem apiServerEndpoint (h : Extends c c') : c'.apiServerEndpoint = c.apiServerEndpoint := by
  rw [h.cluster]

theorem certificateAuthorities (h : Extends c c') :
    c'.certificateAuthorities = c.certificateAuthorities := by
  rw [h.cluster]

theorem kubeletConfig (h : Extends c c') (env : Environment) (outcomes : JoinOutcomes) :
    c'.kubeletConfig env outcomes = c.kubeletConfig env outcomes := by
  rw [h.cluster]
  rfl

end Extends

theorem SameButCertificate.extends {name : String} {c c' : Cluster}
    (h : SameButCertificate name c c') : Extends c c' := by
  have hpeers : c'.vpnPeers = c.vpnPeers := by rw [h.cluster]
  refine ⟨?_, h.kept, fun peerName vpnPeer hfound => ?_⟩
  · rw [hpeers]
    exact h.cluster
  · rwa [Cluster.vpnPeer, hpeers]

/-- What the work on the request `name` may change: the certificate of the node,
and its peer if the cluster has none for it yet. -/
structure Generates (name : String) (c c' : Cluster) : Prop extends Extends c c' where
  certificates : ∀ other, other ≠ nodeCommonName name →
    c'.clientCertificates.lookup other = c.clientCertificates.lookup other
  vpnPeers : c'.vpnPeers = c.vpnPeers ∨ c.vpnPeer (workerPeerName name) = none ∧
    ∃ vpnPeer, c'.vpnPeers = c.vpnPeers.insert (workerPeerName name) vpnPeer

namespace Generates

variable {name : String} {c c' : Cluster}

theorem refl (c : Cluster) : Generates name c c := ⟨.refl c, fun _ _ => rfl, .inl rfl⟩

theorem trans (c c' c'' : Cluster) (h : Generates name c c') (h' : Generates name c' c'') :
    Generates name c c'' := by
  refine ⟨.trans _ _ _ h.toExtends h'.toExtends,
    fun other hne => (h'.certificates other hne).trans (h.certificates other hne), ?_⟩
  rcases h.vpnPeers with hsame | ⟨hnone, vpnPeer, hinsert⟩
  · have hpeer : c.vpnPeer (workerPeerName name) = c'.vpnPeer (workerPeerName name) := by
      rw [vpnPeer, vpnPeer, hsame]
    rw [hpeer, ← hsame]
    exact h'.vpnPeers
  · -- the peer is there now, so it is not generated again
    rcases h'.vpnPeers with hsame' | ⟨hnone', -⟩
    · exact .inr ⟨hnone, vpnPeer, hsame'.trans hinsert⟩
    · rw [Cluster.vpnPeer, hinsert, Finmap.lookup_insert] at hnone'
      cases hnone'

theorem of_sameButCertificate (c c' : Cluster)
    (h : SameButCertificate (nodeCommonName name) c c') : Generates name c c' :=
  ⟨h.extends, h.certificates, .inl (by rw [h.cluster])⟩

/-- A peer that is there stays the only one for the request. -/
theorem vpnPeers_of_isSome (h : Generates name c c')
    (hpeer : (c.vpnPeer (workerPeerName name)).isSome) : c'.vpnPeers = c.vpnPeers := by
  rcases h.vpnPeers with hsame | ⟨hnone, -⟩
  · exact hsame
  · rw [hnone] at hpeer
    cases hpeer

end Generates

theorem sameButCertificate_clientCertificate (ca : Option Certificate) (name commonName : String)
    (organization extraSANs : List String) :
    Guarantees (SameButCertificate name)
      (clientCertificate outcomes ca name commonName organization extraSANs) := by
  intro cluster
  simp only [clientCertificate, EStateM.run_bind, EStateM.run_get]
  cases hnone : cluster.clientCertificates.lookup name with
  | some certificate => exact .refl cluster
  | none =>
    cases outcomes.createCertificate ca commonName organization extraSANs with
    | error fault => exact .refl cluster
    | ok certificate =>
      have hother : ∀ other, other ≠ name →
          (cluster.clientCertificates.insert name certificate).lookup other =
            cluster.clientCertificates.lookup other :=
        fun other hne => Finmap.lookup_insert_of_ne _ hne
      refine ⟨rfl, hother, fun other found hfound => ?_⟩
      rw [← hfound]
      refine hother other fun heq => ?_
      rw [heq, hnone] at hfound
      cases hfound

theorem sameButCertificate_kubeConfigWithEndpoint (apiServerEndpoint commonName : String)
    (organization : List String) :
    Guarantees (SameButCertificate commonName)
      (kubeConfigWithEndpoint outcomes apiServerEndpoint commonName organization) := by
  refine .bind .trans (.bind .trans (.of_get .refl) fun cluster => ?_) fun _ =>
    .of_ofExcept .refl _
  refine .bind .trans (.of_ofExcept .refl _) fun certificateAuthorities => .bind .trans
    (sameButCertificate_clientCertificate outcomes _ _ _ _ _) fun certificate => ?_
  exact .bind .trans (.of_ofExcept .refl _) fun _ => .bind .trans (.of_ofExcept .refl _)
    fun _ => .of_pure .refl _

theorem sameButCertificate_restClient :
    Guarantees (SameButCertificate "kubernetes-admin") (restClient outcomes) :=
  .bind .trans (.bind .trans (.of_get .refl) fun _ =>
    sameButCertificate_kubeConfigWithEndpoint outcomes _ _ _) fun _ => .of_ofExcept .refl _

theorem generates_generateVPNPeer (net : NetText) (key : Except String WireGuardKey)
    (name : String) :
    Guarantees (Generates name) (generateVPNPeer net key (workerPeerName name)) := by
  intro cluster
  show Generates name cluster (finalState (generateVPNPeer net key (workerPeerName name) cluster))
  unfold generateVPNPeer
  cases hpeer : cluster.vpnPeer (workerPeerName name) with
  | some vpnPeer => exact .refl _
  | none =>
    cases cluster.requestVPNIP net with
    | error fault => exact .refl _
    | ok vpnIP =>
      cases key with
      | error message => exact .refl _
      | ok key =>
        refine ⟨⟨rfl, fun _ _ => id, fun peerName vpnPeer hfound => ?_⟩, fun _ _ => rfl,
          .inr ⟨hpeer, _, rfl⟩⟩
        rw [← hfound]
        refine Finmap.lookup_insert_of_ne _ fun heq => ?_
        rw [heq, hpeer] at hfound
        cases hfound

theorem generateVPNPeer_ok {net : NetText} {key : Except String WireGuardKey} {peerName : String}
    {cluster cluster' : Cluster} {vpnPeer : VPNPeer}
    (hrun : (generateVPNPeer net key peerName).run cluster = .ok vpnPeer cluster') :
    cluster'.vpnPeer peerName = some vpnPeer := by
  change generateVPNPeer net key peerName cluster = _ at hrun
  unfold generateVPNPeer at hrun
  split at hrun
  next peer hpeer =>
    cases hrun
    exact hpeer
  next hpeer =>
    split at hrun
    · cases hrun
    split at hrun
    · cases hrun
    cases hrun
    exact Finmap.lookup_insert _

theorem generates_fillVPN (r : NodeJoinRequest) :
    Guarantees (Generates r.name)
      (fillNodeJoinRequestVPNAddressAndPeers env cipher outcomes r) := by
  refine .bind .trans (.of_get .refl) fun cluster => ?_
  split
  · exact .of_pure .refl _
  · refine .bind .trans (.of_ofExcept .refl _) fun cidr => .bind .trans (.of_ofExcept .refl _)
      fun vpnCIDR => .bind .trans (generates_generateVPNPeer _ _ _) fun vpnPeer => ?_
    exact .bind .trans (.of_ofExcept .refl _) fun _ => .bind .trans (.of_ofExcept .refl _)
      fun _ => .bind .trans (.of_ofExcept .refl _) fun _ => .bind .trans (.of_ofExcept .refl _)
      fun _ => .of_pure .refl _

theorem generates_fillKubeConfig (r : NodeJoinRequest) :
    Guarantees (Generates r.name) (fillNodeJoinRequestKubeConfig cipher outcomes r) := by
  refine .bind .trans ?_ fun _ => .bind .trans
    ((sameButCertificate_kubeConfigWithEndpoint outcomes _ _ _).mono .of_sameButCertificate)
    fun _ => .bind .trans (.of_ofExcept .refl _) fun _ => .of_pure .refl _
  refine .bind .trans (.of_get .refl) fun _ => ?_
  split
  · exact .of_pure .refl _
  · exact .of_ofExcept .refl _

/-! ## The request -/

theorem decrypt_of_encrypt {r : NodeJoinRequest} {field : SealedField} {content text : String}
    {c c' : Cluster} (hrun : (r.encrypt cipher outcomes field content).run c = .ok text c') :
    cipher.decrypt r.symmetricKey text = .ok content ∧ c' = c := by
  obtain ⟨henc, hsame⟩ := run_ofExcept_eq_ok.mp hrun
  refine ⟨?_, hsame⟩
  cases h : cipher.encrypt r.symmetricKey (outcomes.nonce r.name field) content with
  | error message =>
    rw [h] at henc
    cases henc
  | ok text' =>
    rw [h] at henc
    cases henc
    exact cipher.decrypt_encrypt _ _ _ _ h

/-- The VPN status carries the address and the private key of `vpnPeer`,
encrypted with the key. -/
structure Carries (symmetricKey : String) (vpn : NodeVPN) (vpnPeer : VPNPeer) : Prop where
  address : cipher.decrypt symmetricKey vpn.address = .ok vpnPeer.address
  peerPrivateKey : cipher.decrypt symmetricKey vpn.peerPrivateKey = .ok vpnPeer.privateKey

/-- The VPN status carries the peer and what the cluster says about its VPN. -/
structure VPNAnswered (c : Cluster) (symmetricKey : String) (vpn : NodeVPN) (vpnPeer : VPNPeer) :
    Prop extends Carries cipher symmetricKey vpn vpnPeer where
  cidr : ∃ cidr, c.vpn.cidr = some cidr ∧
    cipher.decrypt symmetricKey vpn.cidr = .ok (env.net.ipNetString cidr)
  endpoint : cipher.decrypt symmetricKey vpn.endpoint = .ok c.vpnServerEndpoint
  endpointPublicKey : cipher.decrypt symmetricKey vpn.endpointPublicKey = .ok c.vpn.publicKey

/-- What the texts of a status decrypt to under the key.  `c` is the cluster when
the work on the request began, and `c'` the cluster when it was done. -/
structure Answered (c c' : Cluster) (name symmetricKey apiServerEndpoint : String)
    (extraSANs : List String) (status : V1alpha1.NodeJoinRequestStatus) : Prop where
  kubernetesVersion : cipher.decrypt symmetricKey status.kubernetesVersion =
    .ok c.kubernetesVersion
  kubeConfig : ∃ kubeConfig text,
    kubeConfig.clusterName = c.name ∧ kubeConfig.apiServerEndpoint = apiServerEndpoint ∧
    c'.clientCertificates.lookup (nodeCommonName name) = some kubeConfig.clientCertificate ∧
    outcomes.encodeKubeConfig kubeConfig = some text ∧
    cipher.decrypt symmetricKey status.kubeConfig = .ok text
  kubeletConfig : ∃ kubeletConfig, c.kubeletConfig env outcomes = .ok kubeletConfig ∧
    cipher.decrypt symmetricKey status.kubeletConfig = .ok kubeletConfig
  kubeletServer : ∃ certificateAuthorities certificate,
    c.certificateAuthorities = some certificateAuthorities ∧
    outcomes.createCertificate certificateAuthorities.kubelet name [c.name]
      (extraSANs ++ [name]) = .ok certificate ∧
    cipher.decrypt symmetricKey status.kubeletServerCertificate = .ok certificate.certificate ∧
    cipher.decrypt symmetricKey status.kubeletServerPrivateKey = .ok certificate.privateKey
  kubeletClientCA : ∃ certificateAuthorities kubeletClient,
    c.certificateAuthorities = some certificateAuthorities ∧
    certificateAuthorities.kubeletClient = some kubeletClient ∧
    cipher.decrypt symmetricKey status.kubeletClientCACertificate = .ok kubeletClient.certificate
  vpn : c.vpn.enabled = true → ∃ vpn vpnPeer, status.vpn = some vpn ∧
    c'.vpnPeer (workerPeerName name) = some vpnPeer ∧
    VPNAnswered env cipher c symmetricKey vpn vpnPeer

namespace Answered

variable {env cipher outcomes} {c₀ c c' c'' : Cluster}
  {name symmetricKey apiServerEndpoint : String}
  {extraSANs : List String} {status : V1alpha1.NodeJoinRequestStatus}

/-- The answer stays one while the cluster gets more certificates and peers. -/
theorem mono (h : Answered env cipher outcomes c c' name symmetricKey apiServerEndpoint extraSANs
      status) (hextends : Extends c' c'') :
    Answered env cipher outcomes c c'' name symmetricKey apiServerEndpoint extraSANs status := by
  refine { h with kubeConfig := ?_, vpn := fun henb => ?_ }
  · obtain ⟨kubeConfig, text, hname, hep, hcert, htext⟩ := h.kubeConfig
    exact ⟨kubeConfig, text, hname, hep, hextends.certificates_kept _ _ hcert, htext⟩
  · obtain ⟨vpn, vpnPeer, hvpn, hpeer, hanswered⟩ := h.vpn henb
    exact ⟨vpn, vpnPeer, hvpn, hextends.vpnPeers_kept _ _ hpeer, hanswered⟩

/-- The answer does not depend on the certificates and peers before. -/
theorem of_extends (hextends : Extends c₀ c) (h : Answered env cipher outcomes c c' name
      symmetricKey apiServerEndpoint extraSANs status) :
    Answered env cipher outcomes c₀ c' name symmetricKey apiServerEndpoint extraSANs status := by
  rw [hextends.cluster] at h
  refine ⟨h.kubernetesVersion, h.kubeConfig, h.kubeletConfig, h.kubeletServer, h.kubeletClientCA,
    fun henb => ?_⟩
  obtain ⟨vpn, vpnPeer, hvpn, hpeer, hanswered⟩ := h.vpn henb
  exact ⟨vpn, vpnPeer, hvpn, hpeer, hanswered.toCarries, hanswered.cidr, hanswered.endpoint,
    hanswered.endpointPublicKey⟩

/-- Two ciphers that decrypt alike under the key. -/
theorem of_decrypt_eq {cipher' : Cipher}
    (hdec : cipher'.decrypt symmetricKey = cipher.decrypt symmetricKey)
    (h : Answered env cipher outcomes c c' name symmetricKey apiServerEndpoint extraSANs status) :
    Answered env cipher' outcomes c c' name symmetricKey apiServerEndpoint extraSANs status := by
  obtain ⟨hver, hkubeConf, hkubeletConf, hserver, hclient, hvpn⟩ := h
  rw [← hdec] at hver hkubeConf hkubeletConf hserver hclient
  refine ⟨hver, hkubeConf, hkubeletConf, hserver, hclient, fun henb => ?_⟩
  obtain ⟨vpn, vpnPeer, hsome, hpeer, ⟨haddr, hkey⟩, hcidr, hep, hpubKey⟩ :=
    hvpn henb
  rw [← hdec] at haddr hkey hcidr hep hpubKey
  exact ⟨vpn, vpnPeer, hsome, hpeer, ⟨haddr, hkey⟩, hcidr, hep, hpubKey⟩

end Answered

variable {r r' : NodeJoinRequest} {c c' : Cluster}

theorem deref_eq_ok {α : Type} {pointer : Option α} {a : α} :
    deref pointer = .ok a ↔ pointer = some a := by
  cases pointer <;> simp [deref]

theorem fillKubernetesVersion_ok
    (hrun : (fillNodeJoinRequestKubernetesVersion cipher outcomes r).run c = .ok r' c') :
    c' = c ∧ ∃ text, r' = { r with kubernetesVersion := text } ∧
      cipher.decrypt r.symmetricKey text = .ok c.kubernetesVersion := by
  simp only [fillNodeJoinRequestKubernetesVersion, run_bind_eq_ok] at hrun
  obtain ⟨_, _, hget, text, c₁, htext, hrun⟩ := hrun
  cases hget
  obtain ⟨htext', rfl⟩ := decrypt_of_encrypt cipher outcomes htext
  cases hrun
  exact ⟨rfl, text, rfl, htext'⟩

/-- The VPN fill function leaves the request as it is, or gives it the
encrypted texts of the peer that the cluster then has for it. -/
theorem fillVPN_ok
    (hrun : (fillNodeJoinRequestVPNAddressAndPeers env cipher outcomes r).run c = .ok r' c') :
    (c.vpn.enabled = false ∧ r' = r) ∨
    c.vpn.enabled = true ∧ ∃ vpn vpnPeer, r' = { r with vpn := some vpn } ∧
      c'.vpnPeer (workerPeerName r.name) = some vpnPeer ∧
      VPNAnswered env cipher c r.symmetricKey vpn vpnPeer := by
  simp only [fillNodeJoinRequestVPNAddressAndPeers, run_bind_eq_ok] at hrun
  obtain ⟨_, _, hget, hrun⟩ := hrun
  cases hget
  split at hrun
  next hdisabled =>
    cases hrun
    exact .inl ⟨by simpa using hdisabled, rfl⟩
  next henb =>
    simp only [run_bind_eq_ok] at hrun
    obtain ⟨cidr, c₁, hcidr, vpnCIDR, c₂, hvpnCIDR, vpnPeer, c₃, hpeer, vpnAddress, c₄, haddr,
      vpnPeerPrivateKey, c₅, hprivKey, endpoint, c₆, hep, publicKey, c₇, hpubKey,
      hrun⟩ := hrun
    obtain ⟨hcidr', rfl⟩ := run_ofExcept_eq_ok.mp hcidr
    obtain ⟨hvpnCIDR', rfl⟩ := decrypt_of_encrypt cipher outcomes hvpnCIDR
    obtain ⟨haddr', rfl⟩ := decrypt_of_encrypt cipher outcomes haddr
    obtain ⟨hprivKey', rfl⟩ := decrypt_of_encrypt cipher outcomes hprivKey
    obtain ⟨hep', rfl⟩ := decrypt_of_encrypt cipher outcomes hep
    obtain ⟨hpubKey', rfl⟩ := decrypt_of_encrypt cipher outcomes hpubKey
    cases hrun
    exact .inr ⟨by simpa using henb, _, vpnPeer, rfl, generateVPNPeer_ok hpeer, ⟨haddr', hprivKey'⟩,
      ⟨cidr, deref_eq_ok.mp hcidr', hvpnCIDR'⟩, hep', hpubKey'⟩

/-- The client certificate that is returned is the one that the cluster then has
under that name. -/
theorem clientCertificate_ok {ca : Option Certificate} {name commonName : String}
    {organization extraSANs : List String} {certificate : Certificate}
    (hrun : (clientCertificate outcomes ca name commonName organization extraSANs).run c =
      .ok certificate c') : c'.clientCertificates.lookup name = some certificate := by
  simp only [clientCertificate, run_bind_eq_ok] at hrun
  obtain ⟨_, _, hget, hrun⟩ := hrun
  cases hget
  split at hrun
  next hfound =>
    cases hrun
    exact hfound
  next =>
    simp only [run_bind_eq_ok] at hrun
    obtain ⟨_, _, hcreate, _, _, hset, hrun⟩ := hrun
    obtain ⟨hcreate', rfl⟩ := run_ofExcept_eq_ok.mp hcreate
    cases hset
    cases hrun
    exact Finmap.lookup_insert _

theorem kubeConfigWithEndpoint_ok {apiServerEndpoint commonName text : String}
    {organization : List String}
    (hrun : (kubeConfigWithEndpoint outcomes apiServerEndpoint commonName organization).run c =
      .ok text c') :
    ∃ kubeConfig : KubeConfigObject, kubeConfig.clusterName = c.name ∧
      kubeConfig.apiServerEndpoint = apiServerEndpoint ∧
      c'.clientCertificates.lookup commonName = some kubeConfig.clientCertificate ∧
      outcomes.encodeKubeConfig kubeConfig = some text := by
  simp only [kubeConfigWithEndpoint, kubeConfigObject, run_bind_eq_ok] at hrun
  obtain ⟨kubeConfig, c₁, ⟨_, _, hget, _, _, hcas, certificate, c₂, hcert, _, _, hserver,
    _, _, hca, hobj⟩, hmarshal⟩ := hrun
  cases hget
  obtain ⟨-, rfl⟩ := run_ofExcept_eq_ok.mp hcas
  obtain ⟨-, rfl⟩ := run_ofExcept_eq_ok.mp hserver
  obtain ⟨-, rfl⟩ := run_ofExcept_eq_ok.mp hca
  cases hobj
  obtain ⟨hmarshal', rfl⟩ := run_ofExcept_eq_ok.mp hmarshal
  have hlk := clientCertificate_ok outcomes hcert
  unfold marshalKubeConfig at hmarshal'
  split at hmarshal'
  next htext =>
    cases hmarshal'
    exact ⟨_, rfl, rfl, hlk, htext⟩
  next => cases hmarshal'

/-- The API server endpoint that the kubeconfig of a request is made with. -/
def EndpointOf (c : Cluster) (r : NodeJoinRequest) (apiServerEndpoint : String) : Prop :=
  if r.apiServerEndpoint = "" then apiServerEndpoint = c.apiServerEndpoint
  else cipher.decrypt r.symmetricKey r.apiServerEndpoint = .ok apiServerEndpoint

theorem fillKubeConfig_ok
    (hrun : (fillNodeJoinRequestKubeConfig cipher outcomes r).run c = .ok r' c') :
    ∃ text kubeConfig content, r' = { r with kubeConfig := text } ∧
      EndpointOf cipher c r kubeConfig.apiServerEndpoint ∧ kubeConfig.clusterName = c.name ∧
      c'.clientCertificates.lookup (nodeCommonName r.name) = some kubeConfig.clientCertificate ∧
      outcomes.encodeKubeConfig kubeConfig = some content ∧
      cipher.decrypt r.symmetricKey text = .ok content := by
  simp only [fillNodeJoinRequestKubeConfig, requestAPIServerEndpoint, run_bind_eq_ok] at hrun
  obtain ⟨apiServerEndpoint, c₀, ⟨_, _, hget, hep⟩, content, c₁, hconf, text, c₂, htext,
    hrun⟩ := hrun
  cases hget
  have hsent : EndpointOf cipher c r apiServerEndpoint ∧ c₀ = c := by
    unfold EndpointOf
    split_ifs at hep ⊢ with hempty
    · cases hep
      exact ⟨rfl, rfl⟩
    · exact run_ofExcept_eq_ok.mp hep
  obtain ⟨hsent, rfl⟩ := hsent
  obtain ⟨kubeConfig, hname, rfl, hlk, hencode⟩ := kubeConfigWithEndpoint_ok outcomes hconf
  obtain ⟨htext', rfl⟩ := decrypt_of_encrypt cipher outcomes htext
  cases hrun
  exact ⟨text, kubeConfig, content, rfl, hsent, hname, hlk, hencode, htext'⟩

theorem fillKubeletConfig_ok
    (hrun : (fillNodeJoinRequestKubeletConfig env cipher outcomes r).run c = .ok r' c') :
    c' = c ∧ ∃ text kubeletConfig, r' = { r with kubeletConfig := text } ∧
      c.kubeletConfig env outcomes = .ok kubeletConfig ∧
      cipher.decrypt r.symmetricKey text = .ok kubeletConfig := by
  simp only [fillNodeJoinRequestKubeletConfig, run_bind_eq_ok] at hrun
  obtain ⟨_, _, hget, kubeletConfig, c₁, hconf, text, c₂, htext, hrun⟩ := hrun
  cases hget
  obtain ⟨hconf', rfl⟩ := run_ofExcept_eq_ok.mp hconf
  obtain ⟨htext', rfl⟩ := decrypt_of_encrypt cipher outcomes htext
  cases hrun
  exact ⟨rfl, text, kubeletConfig, rfl, hconf', htext'⟩

theorem fillKubeletServerCertificate_ok
    (hrun : (fillNodeJoinRequestKubeletServerCertificate cipher outcomes r).run c = .ok r' c') :
    c' = c ∧ ∃ certificateText privateKeyText extraSANs certificateAuthorities certificate,
      r' = { r with
        kubeletServerCertificate := certificateText, kubeletServerPrivateKey := privateKeyText } ∧
      r.extraSANs.mapM (cipher.decrypt r.symmetricKey) = .ok extraSANs ∧
      c.certificateAuthorities = some certificateAuthorities ∧
      outcomes.createCertificate certificateAuthorities.kubelet r.name [c.name]
        (extraSANs ++ [r.name]) = .ok certificate ∧
      cipher.decrypt r.symmetricKey certificateText = .ok certificate.certificate ∧
      cipher.decrypt r.symmetricKey privateKeyText = .ok certificate.privateKey := by
  simp only [fillNodeJoinRequestKubeletServerCertificate, run_bind_eq_ok] at hrun
  obtain ⟨_, _, hget, extraSANs, c₁, hextraSANs, certificateAuthorities, c₂, hcas, certificate, c₃,
    hcreate, certificateText, c₄, htext, privateKeyText, c₅, hkey, hrun⟩ := hrun
  cases hget
  obtain ⟨hextraSANs', rfl⟩ := run_ofExcept_eq_ok.mp hextraSANs
  obtain ⟨hcas', rfl⟩ := run_ofExcept_eq_ok.mp hcas
  obtain ⟨hcreate', rfl⟩ := run_ofExcept_eq_ok.mp hcreate
  obtain ⟨htext', rfl⟩ := decrypt_of_encrypt cipher outcomes htext
  obtain ⟨hkey', rfl⟩ := decrypt_of_encrypt cipher outcomes hkey
  cases hrun
  exact ⟨rfl, _, _, extraSANs, certificateAuthorities, certificate, rfl, hextraSANs',
    deref_eq_ok.mp hcas', hcreate', htext', hkey'⟩

theorem fillKubeletClientCACertificate_ok
    (hrun : (fillNodeJoinRequestKubeletClientCACertificate cipher outcomes r).run c = .ok r' c') :
    c' = c ∧ ∃ text certificateAuthorities kubeletClient,
      r' = { r with kubeletClientCACertificate := text } ∧
      c.certificateAuthorities = some certificateAuthorities ∧
      certificateAuthorities.kubeletClient = some kubeletClient ∧
      cipher.decrypt r.symmetricKey text = .ok kubeletClient.certificate := by
  simp only [fillNodeJoinRequestKubeletClientCACertificate, run_bind_eq_ok] at hrun
  obtain ⟨_, _, hget, certificateAuthorities, c₁, hcas, kubeletClient, c₂, hclient, text, c₃,
    htext, hrun⟩ := hrun
  cases hget
  obtain ⟨hcas', rfl⟩ := run_ofExcept_eq_ok.mp hcas
  obtain ⟨hclient', rfl⟩ := run_ofExcept_eq_ok.mp hclient
  obtain ⟨htext', rfl⟩ := decrypt_of_encrypt cipher outcomes htext
  cases hrun
  exact ⟨rfl, text, certificateAuthorities, kubeletClient, rfl, deref_eq_ok.mp hcas',
    deref_eq_ok.mp hclient', htext'⟩

/-! ## All fill functions -/

/-- The fill functions after the VPN. -/
def fillCredentials (env : Environment) (cipher : Cipher) (outcomes : JoinOutcomes)
    (nodeJoinRequest : NodeJoinRequest) : EStateM Fault Cluster NodeJoinRequest := do
  let nodeJoinRequest ← fillNodeJoinRequestKubeConfig cipher outcomes nodeJoinRequest
  let nodeJoinRequest ← fillNodeJoinRequestKubeletConfig env cipher outcomes nodeJoinRequest
  let nodeJoinRequest ←
    fillNodeJoinRequestKubeletServerCertificate cipher outcomes nodeJoinRequest
  fillNodeJoinRequestKubeletClientCACertificate cipher outcomes nodeJoinRequest

theorem generates_fillCredentials (r : NodeJoinRequest) :
    Guarantees (Generates r.name) (fillCredentials env cipher outcomes r) := by
  refine .bind .trans (generates_fillKubeConfig cipher outcomes r) fun r₁ =>
    .bind .trans ?_ fun r₂ => .bind .trans ?_ fun r₃ => ?_
  · exact .bind .trans (.of_get .refl) fun _ => .bind .trans (.of_ofExcept .refl _) fun _ =>
      .bind .trans (.of_ofExcept .refl _) fun _ => .of_pure .refl _
  · exact .bind .trans (.of_get .refl) fun _ => .bind .trans (.of_ofExcept .refl _) fun _ =>
      .bind .trans (.of_ofExcept .refl _) fun _ => .bind .trans (.of_ofExcept .refl _) fun _ =>
      .bind .trans (.of_ofExcept .refl _) fun _ => .bind .trans (.of_ofExcept .refl _) fun _ =>
      .of_pure .refl _
  · exact .bind .trans (.of_get .refl) fun _ => .bind .trans (.of_ofExcept .refl _) fun _ =>
      .bind .trans (.of_ofExcept .refl _) fun _ => .bind .trans (.of_ofExcept .refl _) fun _ =>
      .of_pure .refl _

/-- The work on a request generates its certificate and its peer, however it
ends. -/
theorem generates_fillNodeJoinRequest (r : NodeJoinRequest) :
    Guarantees (Generates r.name) (fillNodeJoinRequest env cipher outcomes r) := by
  refine .bind_of_run .trans ?_ fun r₁ c c₁ hrun₁ => ?_
  · exact .bind .trans (.of_get .refl) fun _ => .bind .trans (.of_ofExcept .refl _) fun _ =>
      .of_pure .refl _
  obtain ⟨-, text, rfl, -⟩ := fillKubernetesVersion_ok cipher outcomes hrun₁
  refine .bind_of_run .trans
    (generates_fillVPN env cipher outcomes { r with kubernetesVersion := text })
    fun r₂ c c₂ hrun₂ => ?_
  have hname : r₂.name = r.name := by
    rcases fillVPN_ok env cipher outcomes hrun₂ with ⟨-, rfl⟩ | ⟨-, vpn, vpnPeer, rfl, -⟩ <;> rfl
  exact hname ▸ generates_fillCredentials env cipher outcomes r₂

/-- What the fill functions leave of a request. -/
structure SameRequest (r r' : NodeJoinRequest) : Prop where
  name : r'.name = r.name
  symmetricKey : r'.symmetricKey = r.symmetricKey
  joinKey : r'.joinKey = r.joinKey
  conditions : r'.conditions = r.conditions

/-- A filled request carries what the cluster has for it, encrypted with its key.
With the VPN disabled it keeps its VPN status. -/
theorem fillNodeJoinRequest_ok
    (hrun : (fillNodeJoinRequest env cipher outcomes r).run c = .ok r' c') :
    SameRequest r r' ∧ (c.vpn.enabled = false → r'.vpn = r.vpn) ∧
      ∃ apiServerEndpoint extraSANs, EndpointOf cipher c r apiServerEndpoint ∧
        r.extraSANs.mapM (cipher.decrypt r.symmetricKey) = .ok extraSANs ∧
        Answered env cipher outcomes c c' r.name r.symmetricKey apiServerEndpoint extraSANs
          r'.exportStatus := by
  simp only [fillNodeJoinRequest, run_bind_eq_ok] at hrun
  obtain ⟨r₁, c₁, hrun₁, r₂, c₂, hrun₂, r₃, c₃, hrun₃, r₄, c₄, hrun₄, r₅, c₅, hrun₅, hrun₆⟩ := hrun
  obtain ⟨rfl, version, rfl, hver⟩ := fillKubernetesVersion_ok cipher outcomes hrun₁
  have hgenerates₂ := (generates_fillVPN env cipher outcomes _).of_run hrun₂
  -- the request after the VPN fill function differs in its VPN status only
  have hvpn : ∃ vpn, r₂ = { r with kubernetesVersion := version, vpn := vpn } ∧
      (c₁.vpn.enabled = false → vpn = r.vpn) ∧
      (c₁.vpn.enabled = true → ∃ status vpnPeer, vpn = some status ∧
        c₂.vpnPeer (workerPeerName r.name) = some vpnPeer ∧
        VPNAnswered env cipher c₁ r.symmetricKey status vpnPeer) := by
    rcases fillVPN_ok env cipher outcomes hrun₂ with
      ⟨hdisabled, rfl⟩ | ⟨henb, vpn, vpnPeer, rfl, hpeer⟩
    · exact ⟨r.vpn, rfl, fun _ => rfl, fun henb => by simp [hdisabled] at henb⟩
    · exact ⟨some vpn, rfl, fun hdisabled => by simp [hdisabled] at henb,
        fun _ => ⟨vpn, vpnPeer, rfl, hpeer⟩⟩
  obtain ⟨vpn, rfl, hdisabled, henb⟩ := hvpn
  have hgenerates₃ := (generates_fillKubeConfig cipher outcomes _).of_run hrun₃
  obtain ⟨text, kubeConfig, content, rfl, hep, hclName, hcert, hencode, htext⟩ :=
    fillKubeConfig_ok cipher outcomes hrun₃
  obtain ⟨rfl, configText, config, rfl, hconf, hconfText⟩ :=
    fillKubeletConfig_ok env cipher outcomes hrun₄
  obtain ⟨rfl, certificateText, privateKeyText, extraSANs, cas, certificate, rfl, hextraSANs, hcas,
    hcreate, hcertText, hprivKeyText⟩ :=
    fillKubeletServerCertificate_ok cipher outcomes hrun₅
  obtain ⟨rfl, caText, cas', kubeletClient, rfl, hcas', hkubeletClient, hcaText⟩ :=
    fillKubeletClientCACertificate_ok cipher outcomes hrun₆
  have hgen := hgenerates₂.trans _ _ _ hgenerates₃
  refine ⟨⟨rfl, rfl, rfl, rfl⟩, hdisabled, kubeConfig.apiServerEndpoint, extraSANs, ?_,
    hextraSANs, ?_⟩
  · unfold EndpointOf at hep ⊢
    rw [hgenerates₂.apiServerEndpoint] at hep
    exact hep
  rw [hgen.kubeletConfig] at hconf
  rw [hgen.certificateAuthorities] at hcas hcas'
  rw [hgen.name_eq] at hcreate
  refine ⟨hver, ⟨kubeConfig, content, hclName.trans hgenerates₂.name_eq, rfl,
    hcert, hencode, htext⟩, ⟨config, hconf, hconfText⟩,
    ⟨cas, certificate, hcas, hcreate, hcertText, hprivKeyText⟩,
    ⟨cas', kubeletClient, hcas', hkubeletClient, hcaText⟩, fun hon => ?_⟩
  obtain ⟨status, vpnPeer, rfl, hpeer, hanswered⟩ := henb hon
  refine ⟨status, vpnPeer, rfl, ?_, hanswered⟩
  rw [Cluster.vpnPeer, hgenerates₃.vpnPeers_of_isSome (Option.isSome_of_eq_some hpeer)]
  exact hpeer

/-- A run ends before the loop or after it, and before the loop only the client
certificate of the administrator changes. -/
theorem reconcileNodeJoinRequests_cases (run : JoinRun) :
    ∃ cluster, SameButCertificate "kubernetes-admin" run.cluster cluster ∧
      (finalState ((reconcileNodeJoinRequests env cipher outcomes).run run) =
          { run with cluster := cluster } ∨
        finalState ((reconcileNodeJoinRequests env cipher outcomes).run run) =
          finalState ((run.requests.forM (reconcileNodeJoinRequest env cipher outcomes)).run
            { run with cluster := cluster })) := by
  have hsame := sameButCertificate_restClient outcomes run.cluster
  have hclient : (JoinRun.onCluster (restClient outcomes)).run run =
      JoinRun.onCluster (restClient outcomes) run := rfl
  rw [reconcileNodeJoinRequests, EStateM.run_bind, hclient, JoinRun.onCluster]
  cases hrun : (restClient outcomes).run run.cluster with
  | error fault cluster =>
    rw [hrun] at hsame
    exact ⟨cluster, hsame, .inl rfl⟩
  | ok _ cluster =>
    rw [hrun] at hsame
    refine ⟨cluster, hsame, ?_⟩
    cases hlist : outcomes.listError with
    | some message => exact .inl (by simp only [EStateM.run_bind, listNodeJoinRequests, hlist]; rfl)
    | none => exact .inr (by simp only [EStateM.run_bind, listNodeJoinRequests, hlist]; rfl)

end OneInfra.Cluster
