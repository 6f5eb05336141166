import OneInfra.Cluster.Export
import OneInfra.Cluster.JoinAnswers
import OneInfra.Lib.Reach

/-!
# Who gets which client certificate

`ClientCertificate` of `internal/pkg/cluster/cluster.go` keeps the client certificates of a
cluster in one map.  The key is the common name, and a certificate that is found is returned
without a look at its contents.  The map holds the certificate of the administrator, whose
group may do everything, next to those of the nodes, whose names come from outside.

A `Session` is a copy of a cluster in memory, with its cached client and the object in the
store.  The events are the calls that issue a kubeconfig, for an administrator or for a
node, and the stores and reloads in between.  `Session.issued` lists the kubeconfigs that
have been handed out.

The invariant `Session.Sound` says that each key of the map belongs to one holder and that
the certificate under it is the certificate of that holder.  It carries `issued_to_holder`.
-/

namespace OneInfra.Cluster

open Lib

/-! ## Certificates and their holders -/

/-- What a client certificate says, and which authority has signed it. -/
structure Identity where
  authority : Option Certificate
  commonName : String
  organization : List String
deriving DecidableEq, Repr

/-- Whom a kubeconfig is issued for. -/
inductive Holder
  | admin
  | node (name : String)
deriving DecidableEq, Repr

namespace Holder

/-- The common name of a holder. -/
def commonName : Holder → String
  | admin => "kubernetes-admin"
  | node name => nodeCommonName name

/-- The groups of a holder. -/
def organization : Holder → List String
  | admin => ["system:masters"]
  | node _ => ["system:nodes"]

/-- The certificate that a holder should get says this. -/
def identity (authority : Option Certificate) (holder : Holder) : Identity :=
  ⟨authority, holder.commonName, holder.organization⟩

theorem commonName_injective : Function.Injective commonName := by
  intro holder holder' h
  have hfirst : ∀ name, "kubernetes-admin" ≠ nodeCommonName name := by
    intro name h
    have h' := congrArg (fun text => text.toList.head?) h
    rw [nodeCommonName] at h'
    simp at h'
  cases holder with
  | admin =>
    cases holder' with
    | admin => rfl
    | node name => exact absurd h (hfirst name)
  | node name =>
    cases holder' with
    | admin => exact absurd h.symm (hfirst name)
    | node name' =>
      have h' := congrArg String.toList h
      simp only [commonName, nodeCommonName, String.toList_append] at h'
      rw [String.toList_inj.mp (List.append_cancel_left h')]

theorem eq_admin_of_masters {holder : Holder} (h : "system:masters" ∈ holder.organization) :
    holder = .admin := by
  cases holder with
  | admin => rfl
  | node name => exact absurd (List.mem_singleton.mp h) (by decide)

end Holder

/-- What a reader of certificates and kubeconfigs makes of them. -/
structure Reader where
  identity : Certificate → Identity
  decode : String → Option KubeConfigObject

/-- Certificates are issued as they are asked for, and kubeconfigs can be read. -/
structure Reader.Trusts (reader : Reader) (outcomes : JoinOutcomes) : Prop where
  createCertificate : ∀ ca commonName organization extraSANs certificate,
    outcomes.createCertificate ca commonName organization extraSANs = .ok certificate →
      reader.identity certificate = ⟨ca, commonName, organization⟩
  encodeKubeConfig : ∀ kubeConfig text, outcomes.encodeKubeConfig kubeConfig = some text →
    reader.decode text = some kubeConfig

/-! ## Sessions -/

/-- A kubeconfig that has been handed out, as the holder reads it. -/
structure Issuance where
  holder : Holder
  kubeConfig : Except Fault String

/-- A cluster in memory and in the store.  A cached client is the kubeconfig that it has
been made from. -/
structure Session where
  cluster : Cluster
  clientSet : Option String := none
  stored : V1alpha1.Cluster
  issued : List Issuance := []

/-- A call on the cluster in memory. -/
def onCluster {α : Type} (x : EStateM Fault Cluster α) : EStateM Fault Session α := fun session =>
  match x session.cluster with
  | .ok a cluster => .ok a { session with cluster := cluster }
  | .error fault cluster => .error fault { session with cluster := cluster }

/-- The holder gets the kubeconfig. -/
def issue (holder : Holder) (kubeConfig : Except Fault String) : EStateM Fault Session Unit :=
  modify fun session => { session with issued := session.issued ++ [⟨holder, kubeConfig⟩] }

/-- `KubernetesClient`. -/
def kubernetesClient (outcomes : JoinOutcomes) (newForConfig : String → Except Fault Unit) :
    EStateM Fault Session String := do
  let session ← get
  match session.clientSet with
  | some clientSet => pure clientSet
  | none =>
    let kubeConfig ← onCluster (adminKubeConfig outcomes)
    ofExcept (newForConfig kubeConfig)
    modify fun session => { session with clientSet := some kubeConfig }
    pure kubeConfig

/-- What happens in a session. -/
inductive SessionEvent
  | adminKubeConfig (outcomes : JoinOutcomes)
  | kubernetesClient (outcomes : JoinOutcomes) (newForConfig : String → Except Fault Unit)
  | restClient (outcomes : JoinOutcomes)
  | fillNodeJoinRequestKubeConfig (cipher : Cipher) (outcomes : JoinOutcomes)
      (nodeJoinRequest : NodeJoinRequest)
  /-- The cluster is written. -/
  | store (net : NetText) (vpnPeerMap : List (String × VPNPeer))
  /-- Someone else writes the object. -/
  | edit (obj : V1alpha1.Cluster)
  /-- The cluster is read again. -/
  | reload (env : Environment)

/-- The call of an event. -/
def SessionEvent.call : SessionEvent → EStateM Fault Session Unit
  | adminKubeConfig outcomes => do
    let kubeConfig ← onCluster (Cluster.adminKubeConfig outcomes)
    issue .admin (.ok kubeConfig)
  | kubernetesClient outcomes newForConfig => do
    let _ ← Cluster.kubernetesClient outcomes newForConfig
  | restClient outcomes => onCluster (Cluster.restClient outcomes)
  | fillNodeJoinRequestKubeConfig cipher outcomes nodeJoinRequest => do
    let filled ← onCluster (Cluster.fillNodeJoinRequestKubeConfig cipher outcomes nodeJoinRequest)
    -- the node has the symmetric key of its request
    issue (.node nodeJoinRequest.name)
      (cipher.decrypt nodeJoinRequest.symmetricKey filled.kubeConfig)
  | store net vpnPeerMap => modify fun session =>
    { session with stored := session.cluster.export net vpnPeerMap }
  | edit obj => modify fun session => { session with stored := obj }
  | reload env => do
    let session ← get
    let cluster ← ofExcept (newClusterFromv1alpha1 env session.stored)
    set { session with cluster := cluster, clientSet := none }

/-- The session after an event, whether its call fails or not. -/
def Session.step (session : Session) (event : SessionEvent) : Session :=
  finalState (event.call.run session)

/-- The authority for client certificates of a cluster in memory. -/
def clientAuthority (cluster : Cluster) : Option Certificate :=
  (cluster.certificateAuthorities.getD {}).apiServerClient

/-- The authority for client certificates of a stored cluster. -/
def storedClientAuthority (obj : V1alpha1.Cluster) : Option Certificate :=
  (obj.spec.certificateAuthorities.getD {}).apiServerClient

/-- The outcomes of the calls can be trusted, and whoever writes the object changes neither
the authority nor the client certificates. -/
def SessionEvent.Allowed (reader : Reader) (session : Session) : SessionEvent → Prop
  | adminKubeConfig outcomes | kubernetesClient outcomes _ | restClient outcomes
  | fillNodeJoinRequestKubeConfig _ outcomes _ => reader.Trusts outcomes
  | edit obj => storedClientAuthority obj = storedClientAuthority session.stored ∧
      obj.status.clientCertificates = session.stored.status.clientCertificates
  | store _ _ | reload _ => True

/-! ## The invariant -/

variable (reader : Reader) (authority : Option Certificate)

/-- Each certificate is that of the holder that its key belongs to. -/
def Keyed (clientCertificates : GoMap String Certificate) : Prop :=
  ∀ name certificate, clientCertificates.lookup name = some certificate →
    ∃ holder : Holder, holder.commonName = name ∧
      reader.identity certificate = holder.identity authority

/-- The holder of a kubeconfig can read it, and its certificate is that of the holder. -/
def Issuance.Right (issuance : Issuance) : Prop :=
  ∃ text kubeConfig, issuance.kubeConfig = .ok text ∧ reader.decode text = some kubeConfig ∧
    reader.identity kubeConfig.clientCertificate = issuance.holder.identity authority

/-- The cluster in memory has the authority, and its certificates are those of their
holders. -/
def SoundCluster (cluster : Cluster) : Prop :=
  clientAuthority cluster = authority ∧ Keyed reader authority cluster.clientCertificates

structure Session.Sound (session : Session) : Prop where
  cluster : SoundCluster reader authority session.cluster
  storedAuthority : storedClientAuthority session.stored = authority
  keyed : Keyed reader authority session.stored.status.clientCertificates
  right : ∀ issuance ∈ session.issued, issuance.Right reader authority

variable {reader authority} {outcomes : JoinOutcomes}

theorem Keyed.identity {clientCertificates : GoMap String Certificate}
    {certificate : Certificate} (h : Keyed reader authority clientCertificates) (holder : Holder)
    (hlk : clientCertificates.lookup holder.commonName = some certificate) :
    reader.identity certificate = holder.identity authority := by
  obtain ⟨holder', hname, hidentity⟩ := h _ _ hlk
  rwa [Holder.commonName_injective hname] at hidentity

/-! ## One call -/

section Calls

variable (htrusts : reader.Trusts outcomes) (holder : Holder)
include htrusts

theorem preserves_clientCertificate :
    Preserves (SoundCluster reader authority) (clientCertificate outcomes authority
      holder.commonName holder.commonName holder.organization []) := by
  intro cluster hsound
  simp only [clientCertificate, EStateM.run_bind, EStateM.run_get]
  cases hlk : cluster.clientCertificates.lookup holder.commonName with
  | some certificate => exact hsound
  | none =>
    cases hcreate : outcomes.createCertificate authority holder.commonName
        holder.organization [] with
    | error fault => exact hsound
    | ok certificate =>
      refine ⟨hsound.1, fun name found hfound => ?_⟩
      replace hfound : (cluster.clientCertificates.insert holder.commonName certificate).lookup
        name = some found := hfound
      rw [GoMap.lookup_insert_eq] at hfound
      split_ifs at hfound with hname
      · cases hfound
        exact ⟨holder, hname.symm, htrusts.createCertificate _ _ _ _ _ hcreate⟩
      · exact hsound.2 name found hfound

theorem preserves_kubeConfigWithEndpoint (ep : String) :
    Preserves (SoundCluster reader authority) (kubeConfigWithEndpoint outcomes ep
      holder.commonName holder.organization) := by
  refine .bind ?_ fun _ => .of_ofExcept _
  intro cluster hsound
  rw [kubeConfigObject, run_bind_of_ok (EStateM.run_get cluster)]
  cases hauths : cluster.certificateAuthorities with
  | none => exact hsound
  | some certificateAuthorities =>
    have hauth : certificateAuthorities.apiServerClient = authority := by
      rw [← hsound.1, clientAuthority, hauths]
      rfl
    have hderef : (ofExcept (deref (some certificateAuthorities)) : EStateM Fault Cluster _).run
      cluster = .ok certificateAuthorities cluster := rfl
    rw [run_bind_of_ok hderef, hauth]
    exact Preserves.bind (preserves_clientCertificate htrusts holder) (fun _ =>
      .bind (.of_ofExcept _) fun _ => .bind (.of_ofExcept _) fun _ => .of_pure _) cluster hsound

theorem preserves_adminKubeConfig :
    Preserves (SoundCluster reader authority) (adminKubeConfig outcomes) :=
  .bind .of_get fun _ => preserves_kubeConfigWithEndpoint htrusts .admin _

theorem preserves_fillNodeJoinRequestKubeConfig (cipher : Cipher) (r : NodeJoinRequest) :
    Preserves (SoundCluster reader authority)
      (fillNodeJoinRequestKubeConfig cipher outcomes r) := by
  refine .bind (.bind .of_get fun _ => ?_) fun _ =>
    .bind (preserves_kubeConfigWithEndpoint htrusts (.node r.name) _) fun _ =>
      .bind (.of_ofExcept _) fun _ => .of_pure _
  split
  · exact .of_pure _
  · exact .of_ofExcept _

theorem adminKubeConfig_right {cluster cluster' : Cluster} {text : String}
    (hsound : SoundCluster reader authority cluster)
    (hrun : (adminKubeConfig outcomes).run cluster = .ok text cluster') :
    Issuance.Right reader authority ⟨.admin, .ok text⟩ := by
  have hsound' := (preserves_adminKubeConfig htrusts).of_run hrun hsound
  obtain ⟨_, _, hget, hconf⟩ := run_bind_eq_ok.mp hrun
  obtain ⟨kubeConfig, -, -, hlk, hencode⟩ := kubeConfigWithEndpoint_ok outcomes hconf
  exact ⟨text, kubeConfig, rfl, htrusts.encodeKubeConfig _ _ hencode,
    hsound'.2.identity .admin hlk⟩

theorem fillNodeJoinRequestKubeConfig_right {cipher : Cipher} {r r' : NodeJoinRequest}
    {cluster cluster' : Cluster} (hsound : SoundCluster reader authority cluster)
    (hrun : (fillNodeJoinRequestKubeConfig cipher outcomes r).run cluster = .ok r' cluster') :
    Issuance.Right reader authority
      ⟨.node r.name, cipher.decrypt r.symmetricKey r'.kubeConfig⟩ := by
  have hsound' := (preserves_fillNodeJoinRequestKubeConfig htrusts cipher r).of_run hrun hsound
  obtain ⟨text, kubeConfig, content, rfl, -, -, hlk, hencode, hdec⟩ :=
    fillKubeConfig_ok cipher outcomes hrun
  exact ⟨content, kubeConfig, hdec, htrusts.encodeKubeConfig _ _ hencode,
    hsound'.2.identity (.node r.name) hlk⟩

end Calls

/-! ## Sessions are sound -/

namespace Session.Sound

variable {session : Session}

/-- A call on the cluster keeps the session sound if it does so with the cluster. -/
theorem onCluster {α : Type} {x : EStateM Fault Cluster α}
    (hx : Preserves (SoundCluster reader authority) x) :
    Preserves (Session.Sound reader authority) (onCluster x) := by
  intro session hsound
  have hcl := hx session.cluster hsound.cluster
  show Session.Sound reader authority (finalState (Cluster.onCluster x session))
  unfold Cluster.onCluster
  change SoundCluster reader authority (finalState (x session.cluster)) at hcl
  cases hrun : x session.cluster with
  | ok a cluster =>
    rw [hrun] at hcl
    exact { hsound with cluster := hcl }
  | error fault cluster =>
    rw [hrun] at hcl
    exact { hsound with cluster := hcl }

theorem issue {holder : Holder} {kubeConfig : Except Fault String}
    (hsound : session.Sound reader authority)
    (hright : Issuance.Right reader authority ⟨holder, kubeConfig⟩) :
    (finalState ((issue holder kubeConfig).run session)).Sound reader authority := by
  refine { hsound with right := fun issuance hmem => ?_ }
  rcases List.mem_append.mp hmem with hold | hnew
  · exact hsound.right issuance hold
  · rw [List.mem_singleton.mp hnew]
    exact hright

/-- A call on the cluster whose value is then handed out. -/
theorem onCluster_issue {α : Type} {x : EStateM Fault Cluster α} {holder : Holder}
    {kubeConfig : α → Except Fault String} (hx : Preserves (SoundCluster reader authority) x)
    (hright : ∀ a cluster', x.run session.cluster = .ok a cluster' →
      Issuance.Right reader authority ⟨holder, kubeConfig a⟩)
    (hsound : session.Sound reader authority) :
    (finalState ((do
      let a ← Cluster.onCluster x
      Cluster.issue holder (kubeConfig a)).run session)).Sound reader authority := by
  have hafter := onCluster hx session hsound
  cases hrun : (Cluster.onCluster x).run session with
  | error fault session' =>
    rw [hrun] at hafter
    rw [run_bind_of_error hrun]
    exact hafter
  | ok a session' =>
    rw [hrun] at hafter
    rw [run_bind_of_ok hrun]
    refine hafter.issue ?_
    change Cluster.onCluster x session = _ at hrun
    unfold Cluster.onCluster at hrun
    cases hx : x session.cluster with
    | ok a' cluster =>
      rw [hx] at hrun
      cases hrun
      exact hright a cluster hx
    | error fault cluster =>
      rw [hx] at hrun
      cases hrun

theorem kubernetesClient (htrusts : reader.Trusts outcomes)
    (newForConfig : String → Except Fault Unit) :
    Preserves (Session.Sound reader authority) (kubernetesClient outcomes newForConfig) := by
  refine .bind .of_get fun session => ?_
  cases session.clientSet with
  | some clientSet => exact .of_pure _
  | none =>
    refine .bind (onCluster (preserves_adminKubeConfig htrusts)) fun _ => .bind (.of_ofExcept _)
      fun _ => .bind (fun session hsound => ?_) fun _ => .of_pure _
    exact ⟨hsound.cluster, hsound.storedAuthority, hsound.keyed, hsound.right⟩

/-- An import takes the authority and the client certificates from the object. -/
theorem reload {env : Environment} {cluster : Cluster} (hsound : session.Sound reader authority)
    (himp : newClusterFromv1alpha1 env session.stored = .ok cluster) :
    SoundCluster reader authority cluster := by
  obtain ⟨joinKey, serviceAccount, vpn, -, -, -, rfl⟩ := newClusterFromv1alpha1_eq_ok himp
  exact ⟨hsound.storedAuthority, hsound.keyed⟩

theorem step (hsound : session.Sound reader authority) {event : SessionEvent}
    (hallowed : event.Allowed reader session) : (session.step event).Sound reader authority := by
  cases event with
  | adminKubeConfig outcomes =>
    exact onCluster_issue (preserves_adminKubeConfig hallowed)
      (fun _ _ hrun => adminKubeConfig_right hallowed hsound.cluster hrun) hsound
  | kubernetesClient outcomes newForConfig =>
    exact Preserves.bind (kubernetesClient hallowed newForConfig) (fun _ => .of_pure _)
      session hsound
  | restClient outcomes =>
    exact onCluster (.bind (preserves_adminKubeConfig hallowed) fun _ => .of_ofExcept _)
      session hsound
  | fillNodeJoinRequestKubeConfig cipher outcomes r =>
    exact onCluster_issue (preserves_fillNodeJoinRequestKubeConfig hallowed cipher r)
      (fun _ _ hrun => fillNodeJoinRequestKubeConfig_right hallowed hsound.cluster hrun) hsound
  | store net vpnPeerMap =>
    exact ⟨hsound.cluster, hsound.cluster.1, hsound.cluster.2, hsound.right⟩
  | edit obj =>
    refine ⟨hsound.cluster, hallowed.1.trans hsound.storedAuthority, ?_, hsound.right⟩
    show Keyed reader authority obj.status.clientCertificates
    rw [hallowed.2]
    exact hsound.keyed
  | reload env =>
    rw [Session.step, SessionEvent.call, run_bind_of_ok (EStateM.run_get session)]
    cases himp : newClusterFromv1alpha1 env session.stored with
    | error fault => exact hsound
    | ok cluster => exact { hsound with cluster := hsound.reload himp }

end Session.Sound

/-- Each kubeconfig of a session that began without client certificates carries the
certificate of its holder, and only those of administrators are of the group
`system:masters`. -/
theorem issued_to_holder (reader : Reader) (start session : Session)
    (hcl : start.cluster.clientCertificates = ∅)
    (hst : start.stored.status.clientCertificates = ∅)
    (hauth : storedClientAuthority start.stored = clientAuthority start.cluster)
    (hissued : start.issued = [])
    (hrun : Reaches Session.step (fun session event => event.Allowed reader session)
      start session) :
    ∀ issuance ∈ session.issued, ∃ text kubeConfig, issuance.kubeConfig = .ok text ∧
      reader.decode text = some kubeConfig ∧
      reader.identity kubeConfig.clientCertificate =
        issuance.holder.identity (clientAuthority start.cluster) ∧
      ("system:masters" ∈ (reader.identity kubeConfig.clientCertificate).organization →
        issuance.holder = .admin) := by
  have hkeyed : Keyed reader (clientAuthority start.cluster) ∅ := by
    intro name certificate hlk
    rw [Finmap.lookup_empty] at hlk
    cases hlk
  have hsound : start.Sound reader (clientAuthority start.cluster) := by
    refine ⟨⟨rfl, hcl ▸ hkeyed⟩, hauth, hst ▸ hkeyed, fun issuance hmem => ?_⟩
    rw [hissued] at hmem
    cases hmem
  have hend := hrun.invariant (fun _ _ hsound hallowed => hsound.step hallowed) hsound
  intro issuance hmem
  obtain ⟨text, kubeConfig, htext, hdecode, hidentity⟩ := hend.right issuance hmem
  refine ⟨text, kubeConfig, htext, hdecode, hidentity, fun hmasters => ?_⟩
  rw [hidentity] at hmasters
  exact Holder.eq_admin_of_masters hmasters

/-! ## A node that calls itself like the administrator -/

/-- An authority. -/
def signer : Certificate := ⟨"signer", ""⟩

/-- The group that `clearOutcomes` puts into a certificate of that common name. -/
def groupOf (commonName : String) : String :=
  if commonName = "kubernetes-admin" then "system:masters" else "system:nodes"

/-- Certificates and kubeconfigs in clear text. -/
def clearReader : Reader where
  identity certificate := ⟨some signer, certificate.certificate, [certificate.privateKey]⟩
  decode text := some ⟨"cluster", "", "", ⟨text, groupOf text⟩⟩

/-- The outcomes that `clearReader` reads. -/
def clearOutcomes : JoinOutcomes where
  now := 0
  restClientFromKubeConfig _ := .ok ()
  listError := none
  nonce _ _ := .ok ""
  encryptKey _ content := .ok content
  createCertificate ca commonName organization _ :=
    if ca = some signer ∧ organization = [groupOf commonName] then
      .ok ⟨commonName, groupOf commonName⟩
    else .error (.error "unknown request")
  encodeKubeConfig kubeConfig :=
    let commonName := kubeConfig.clientCertificate.certificate
    if kubeConfig = ⟨"cluster", "", "", ⟨commonName, groupOf commonName⟩⟩ then some commonName
    else none
  encodeKubeletConfig _ := .ok ""
  generatePrivateKey _ := .error ""
  put _ := true

theorem clearReader_trusts : clearReader.Trusts clearOutcomes := by
  refine ⟨fun ca commonName organization extraSANs certificate hcreate => ?_,
    fun kubeConfig text hencode => ?_⟩
  · simp only [clearOutcomes] at hcreate
    split_ifs at hcreate with hasked
    cases hcreate
    rw [hasked.1, hasked.2]
    rfl
  · simp only [clearOutcomes] at hencode
    split_ifs at hencode with hclear
    cases hencode
    exact congrArg some hclear.symm

/-- A session of a cluster without client certificates. -/
def freshSession : Session where
  cluster :=
    { name := "cluster"
      «namespace» := ""
      certificateAuthorities := some { apiServerClient := some signer }
      apiServer := some { ca := some ⟨"", ""⟩ } }
  stored :=
    { name := "cluster"
      «namespace» := ""
      spec := { certificateAuthorities := some { apiServerClient := some signer } } }

/-- A request of that name, with all other fields empty. -/
def requestNamed (name : String) : NodeJoinRequest :=
  ⟨name, "", "", "", "", "", none, "", "", "", "", "", [], [], 0, none⟩

/-- A cipher that leaves everything in clear text. -/
def clearCipher : Cipher where
  encrypt _ _ content := .ok content
  decrypt _ content := .ok content
  decryptKey _ content := .ok content
  decrypt_encrypt := Cipher.decrypt_plain

/-- A node asks under the name of the administrator, before and after the
administrator. -/
theorem issued_to_holder_hostile_name :
    let request := SessionEvent.fillNodeJoinRequestKubeConfig clearCipher clearOutcomes
      (requestNamed "kubernetes-admin")
    let session := [request, .adminKubeConfig clearOutcomes, request].foldl Session.step
      freshSession
    session.issued.map Issuance.holder =
        [.node "kubernetes-admin", .admin, .node "kubernetes-admin"] ∧
      ∀ issuance ∈ session.issued, ∃ text kubeConfig, issuance.kubeConfig = .ok text ∧
        clearReader.decode text = some kubeConfig ∧
        clearReader.identity kubeConfig.clientCertificate =
          issuance.holder.identity (some signer) ∧
        ("system:masters" ∈ (clearReader.identity kubeConfig.clientCertificate).organization →
          issuance.holder = .admin) :=
  ⟨by decide +kernel,
    issued_to_holder clearReader freshSession _ rfl rfl rfl rfl
      (reaches_foldl ⟨clearReader_trusts, clearReader_trusts, clearReader_trusts, trivial⟩)⟩

end OneInfra.Cluster
