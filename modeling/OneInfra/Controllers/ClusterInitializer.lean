import OneInfra.Cluster.Export
import OneInfra.Component.Etcd
import OneInfra.Controllers.Store
import OneInfra.Lib.Reach

/-!
# The initialization of certificates

A cluster may come without certificate authorities and keys.  The webhook of
`apis/cluster/v1alpha1/cluster_webhook.go` puts a label on such a cluster, and
`ClusterInitializer.Reconcile` of `controllers/cluster_initializer.go` creates what is
missing and takes the label off.  The component reconciler dereferences the authorities of
every cluster that has no label.

The two sides list the optional fields separately.  `Authority` and `Key` enumerate them
once, and the lemmas about the webhook, the conversions and `InitializeCertificatesAndKeys`
are about every member.

The private half of a key that the user has supplied stays.  The public half does not,
since every import computes it from the private one.
-/

namespace OneInfra

open Lib

namespace V1alpha1.ClusterSpec

/-! ## The optional fields -/

/-- The certificate authorities of a cluster. -/
inductive Authority
  | apiServerClient
  | certificateSigner
  | kubelet
  | kubeletClient
  | etcdClient
  | etcdPeer
  | etcdServer
  | apiServer
deriving DecidableEq, Repr

/-- The key pairs of a cluster. -/
inductive Key
  | serviceAccount
  | join
deriving DecidableEq, Repr

/-- The authority of a specification. -/
def authority (spec : ClusterSpec) : Authority → Option Certificate
  | .apiServerClient => spec.certificateAuthorities.bind (·.apiServerClient)
  | .certificateSigner => spec.certificateAuthorities.bind (·.certificateSigner)
  | .kubelet => spec.certificateAuthorities.bind (·.kubelet)
  | .kubeletClient => spec.certificateAuthorities.bind (·.kubeletClient)
  | .etcdClient => spec.certificateAuthorities.bind (·.etcdClient)
  | .etcdPeer => spec.certificateAuthorities.bind (·.etcdPeer)
  | .etcdServer => spec.etcdServer.bind (·.ca)
  | .apiServer => spec.apiServer.bind (·.ca)

/-- The key pair of a specification. -/
def key (spec : ClusterSpec) : Key → Option KeyPair
  | .serviceAccount => spec.apiServer.bind (·.serviceAccount)
  | .join => spec.joinKey

/-- All authorities and keys are set. -/
structure Initialized (spec : ClusterSpec) : Prop where
  authorities : ∀ authority, (spec.authority authority).isSome
  keys : ∀ key, (spec.key key).isSome

theorem initialized_iff {spec : ClusterSpec} : spec.Initialized ↔
    ((spec.authority .apiServerClient).isSome ∧ (spec.authority .certificateSigner).isSome ∧
      (spec.authority .kubelet).isSome ∧ (spec.authority .kubeletClient).isSome ∧
      (spec.authority .etcdClient).isSome ∧ (spec.authority .etcdPeer).isSome) ∧
      (spec.authority .etcdServer).isSome ∧
      ((spec.authority .apiServer).isSome ∧ (spec.key .serviceAccount).isSome) ∧
      (spec.key .join).isSome := by
  constructor
  · rintro ⟨hauths, hkeys⟩
    simp only [hauths, hkeys, and_self]
  · rintro ⟨⟨_, _, _, _, _, _⟩, _, ⟨_, _⟩, _⟩
    exact ⟨fun authority => by cases authority <;> assumption,
      fun key => by cases key <;> assumption⟩

/-- The two specifications have the same authorities and keys. -/
structure SameCertificates (spec spec' : ClusterSpec) : Prop where
  certificateAuthorities : spec'.certificateAuthorities = spec.certificateAuthorities
  etcdServer : spec'.etcdServer = spec.etcdServer
  apiServer : spec'.apiServer = spec.apiServer
  joinKey : spec'.joinKey = spec.joinKey

namespace SameCertificates

variable {spec spec' spec'' : ClusterSpec}

theorem symm (h : SameCertificates spec spec') : SameCertificates spec' spec :=
  ⟨h.certificateAuthorities.symm, h.etcdServer.symm, h.apiServer.symm, h.joinKey.symm⟩

theorem trans (h : SameCertificates spec spec') (h' : SameCertificates spec' spec'') :
    SameCertificates spec spec'' :=
  ⟨h'.certificateAuthorities.trans h.certificateAuthorities, h'.etcdServer.trans h.etcdServer,
    h'.apiServer.trans h.apiServer, h'.joinKey.trans h.joinKey⟩

theorem authority_eq (h : SameCertificates spec spec') : spec'.authority = spec.authority := by
  funext authority
  cases authority <;>
    simp only [authority, h.certificateAuthorities, h.etcdServer, h.apiServer]

theorem key_eq (h : SameCertificates spec spec') : spec'.key = spec.key := by
  funext key
  cases key <;> simp only [key, h.apiServer, h.joinKey]

theorem initialized (h : SameCertificates spec spec') (hspec : spec.Initialized) :
    spec'.Initialized :=
  ⟨h.authority_eq ▸ hspec.authorities, h.key_eq ▸ hspec.keys⟩

end SameCertificates

end V1alpha1.ClusterSpec

open V1alpha1.ClusterSpec (Authority Key Initialized SameCertificates)

/-! ## The webhook -/

namespace V1alpha1.Cluster

theorem needsCertificateInitialization_eq_false_iff {cluster : Cluster} :
    cluster.needsCertificateInitialization = false ↔ cluster.spec.Initialized := by
  rw [V1alpha1.ClusterSpec.initialized_iff, needsCertificateInitialization]
  cases hauths : cluster.spec.certificateAuthorities <;>
    cases hetcdServer : cluster.spec.etcdServer <;> cases hapiServer : cluster.spec.apiServer <;>
    simp [V1alpha1.ClusterSpec.authority, V1alpha1.ClusterSpec.key, hauths, hetcdServer,
      hapiServer, and_assoc, Option.isSome_iff_ne_none]

variable (env : Environment) (cluster : Cluster)

/-- The label is the only default that depends on the certificates, and no default changes
them. -/
theorem default_cases : ∃ cluster' : Cluster, SameCertificates cluster.spec cluster'.spec ∧
    cluster'.labels = cluster.labels ∧
    cluster.default env = cluster'.defaultUninitializedCertificatesLabel.defaultNetworking := by
  refine ⟨(((cluster.addFinalizer).withDefaultKubernetesVersion env).defaultControlPlaneReplicas
    ).defaultVPN env, ?_, ?_, rfl⟩
  · unfold defaultVPN defaultControlPlaneReplicas withDefaultKubernetesVersion addFinalizer
    split <;> split <;> split <;> exact ⟨rfl, rfl, rfl, rfl⟩
  · unfold defaultVPN defaultControlPlaneReplicas withDefaultKubernetesVersion addFinalizer
    split <;> split <;> split <;> rfl

theorem sameCertificates_default :
    SameCertificates cluster.spec (cluster.default env).spec := by
  obtain ⟨cluster', hsame, -, hdefault⟩ := default_cases env cluster
  rw [hdefault]
  refine hsame.trans ?_
  unfold defaultUninitializedCertificatesLabel
  split <;> exact ⟨rfl, rfl, rfl, rfl⟩

/-- A cluster that passes the webhook has its certificates, or it has the label. -/
theorem initialized_default
    (hlab : uninitializedCertificatesLabel ∉ (cluster.default env).labels) :
    (cluster.default env).spec.Initialized := by
  refine (sameCertificates_default env cluster).initialized ?_
  obtain ⟨cluster', hsame, -, hdefault⟩ := default_cases env cluster
  rw [hdefault] at hlab
  have hneeds : cluster'.needsCertificateInitialization = false := by
    by_contra hneeds
    rw [Bool.not_eq_false] at hneeds
    refine hlab ?_
    rw [defaultUninitializedCertificatesLabel, if_pos hneeds]
    exact Finmap.mem_insert.mpr (.inl rfl)
  exact hsame.symm.initialized (needsCertificateInitialization_eq_false_iff.mp hneeds)

/-- The webhook puts the label on no cluster that has its certificates. -/
theorem labels_default (hinit : cluster.spec.Initialized) :
    (cluster.default env).labels = cluster.labels := by
  obtain ⟨cluster', hsame, hlabs, hdefault⟩ := default_cases env cluster
  have hneeds : cluster'.needsCertificateInitialization = false :=
    needsCertificateInitialization_eq_false_iff.mpr (hsame.initialized hinit)
  rw [hdefault, defaultUninitializedCertificatesLabel, hneeds]
  exact hlabs

end V1alpha1.Cluster

/-! ## The certificates of a cluster in memory -/

/-- What a run gets from outside. -/
structure InitializerOutcomes where
  env : Environment
  /-- `certificates.NewCertificateAuthority`. -/
  newCertificateAuthority : (authorityName : String) → Except String Certificate
  /-- `crypto.NewPrivateKey`, for the service account and for the join key. -/
  serviceAccountKey : Except String KeyPair
  joinKey : Except String KeyPair
  /-- The traversal of the VPN peers in the export. -/
  vpnPeerMap : List (String × VPNPeer) := []
  /-- Whether the update is accepted. -/
  update : Bool := true

/-- What is there stays, and what is not is created. -/
def orNew {α : Type} (current : Option α) (new : Except String α) : Except String (Option α) :=
  match current with
  | some a => .ok (some a)
  | none => new.map some

/-- There is a value, and it is the current one if there was one. -/
def Fills {α : Type} (current value : Option α) : Prop :=
  value.isSome ∧ ∀ a, current = some a → value = some a

theorem Fills.of_getD {α β : Type} {pointer : Option β} {default : β} {field : β → Option α}
    {value : Option α} (hdefault : field default = none)
    (h : Fills (field (pointer.getD default)) value) : Fills (pointer.bind field) value := by
  cases pointer with
  | some b => exact h
  | none =>
    rw [Option.getD_none, hdefault] at h
    exact h

theorem orNew_eq_ok {α : Type} {current value : Option α} {new : Except String α}
    (h : orNew current new = .ok value) : Fills current value := by
  cases current with
  | some a =>
    cases h
    exact ⟨rfl, fun _ => id⟩
  | none =>
    cases new with
    | error message => cases h
    | ok a =>
      cases h
      exact ⟨rfl, fun _ hnone => by cases hnone⟩

namespace Cluster

variable (outcomes : InitializerOutcomes)

/-- `initializeCertificateAuthorities`. -/
def initializeCertificateAuthorities (cluster : Cluster) : Except String Cluster := do
  let authorities := cluster.certificateAuthorities.getD {}
  let apiServerClient ← orNew authorities.apiServerClient
    (outcomes.newCertificateAuthority "apiserver-client-authority")
  let certificateSigner ← orNew authorities.certificateSigner
    (outcomes.newCertificateAuthority "certificate-signer-authority")
  let kubelet ← orNew authorities.kubelet
    (outcomes.newCertificateAuthority "kubelet-authority")
  let kubeletClient ← orNew authorities.kubeletClient
    (outcomes.newCertificateAuthority "kubelet-client-authority")
  let etcdClient ← orNew authorities.etcdClient
    (outcomes.newCertificateAuthority "etcd-client-authority")
  let etcdPeer ← orNew authorities.etcdPeer
    (outcomes.newCertificateAuthority "etcd-peer-authority")
  pure { cluster with
    certificateAuthorities := some
      ⟨apiServerClient, certificateSigner, kubelet, kubeletClient, etcdClient, etcdPeer⟩ }

/-- `initializeEtcdServerCertificateAuthority`. -/
def initializeEtcdServerCertificateAuthority (cluster : Cluster) : Except String Cluster := do
  let etcdServer := cluster.etcdServer.getD {}
  let ca ← orNew etcdServer.ca (outcomes.newCertificateAuthority "etcd-authority")
  pure { cluster with etcdServer := some ⟨ca⟩ }

/-- `initializeAPIServerCertificateAuthority`. -/
def initializeAPIServerCertificateAuthority (cluster : Cluster) : Except String Cluster := do
  let apiServer := cluster.apiServer.getD {}
  let ca ← orNew apiServer.ca (outcomes.newCertificateAuthority "apiserver-authority")
  let serviceAccount ← orNew apiServer.serviceAccount outcomes.serviceAccountKey
  pure { cluster with
    apiServer := some { apiServer with ca := ca, serviceAccount := serviceAccount } }

/-- `initializeJoinKey`. -/
def initializeJoinKey (cluster : Cluster) : Except String Cluster := do
  let joinKey ← orNew cluster.joinKey outcomes.joinKey
  pure { cluster with joinKey := joinKey }

/-- `InitializeCertificatesAndKeys`. -/
def initializeCertificatesAndKeys (cluster : Cluster) : Except String Cluster := do
  let cluster ← cluster.initializeCertificateAuthorities outcomes
  let cluster ← cluster.initializeEtcdServerCertificateAuthority outcomes
  let cluster ← cluster.initializeAPIServerCertificateAuthority outcomes
  cluster.initializeJoinKey outcomes

/-- The specification of a cluster in memory. -/
def spec (cluster : Cluster) : V1alpha1.ClusterSpec :=
  (cluster.export outcomes.env.net outcomes.vpnPeerMap).spec

variable {outcomes} {cluster cluster' : Cluster}

/-- Everything is set afterwards, and what was set is unchanged. -/
theorem initializeCertificatesAndKeys_eq_ok
    (h : cluster.initializeCertificatesAndKeys outcomes = .ok cluster') :
    cluster'.labels = cluster.labels ∧
      (∀ authority, Fills ((cluster.spec outcomes).authority authority)
        ((cluster'.spec outcomes).authority authority)) ∧
      ∀ key, Fills ((cluster.spec outcomes).key key) ((cluster'.spec outcomes).key key) := by
  simp only [initializeCertificatesAndKeys, initializeCertificateAuthorities,
    initializeEtcdServerCertificateAuthority, initializeAPIServerCertificateAuthority,
    initializeJoinKey, except_bind_eq_ok] at h
  obtain ⟨_, ⟨apiServerClient, hapiServerClient, certificateSigner, hcertSigner, kubelet,
    hkubelet, kubeletClient, hkubeletClient, etcdClient, hetcdClient, etcdPeer, hetcdPeer, h₁⟩,
    _, ⟨etcdServer, hetcdServer, h₂⟩, _, ⟨apiServer, hapiServer, serviceAccount, hserviceAccount,
    h₃⟩, joinKey, hjoinKey, h₄⟩ := h
  cases h₁
  cases h₂
  cases h₃
  cases h₄
  refine ⟨rfl, fun authority => ?_, fun key => ?_⟩
  · cases authority with
    | apiServerClient => exact .of_getD rfl (orNew_eq_ok hapiServerClient)
    | certificateSigner => exact .of_getD rfl (orNew_eq_ok hcertSigner)
    | kubelet => exact .of_getD rfl (orNew_eq_ok hkubelet)
    | kubeletClient => exact .of_getD rfl (orNew_eq_ok hkubeletClient)
    | etcdClient => exact .of_getD rfl (orNew_eq_ok hetcdClient)
    | etcdPeer => exact .of_getD rfl (orNew_eq_ok hetcdPeer)
    | etcdServer => exact .of_getD rfl (orNew_eq_ok hetcdServer)
    | apiServer => exact .of_getD rfl (orNew_eq_ok hapiServer)
  · cases key with
    | serviceAccount => exact .of_getD rfl (orNew_eq_ok hserviceAccount)
    | join => exact orNew_eq_ok hjoinKey

/-- An import keeps the authorities of the object. -/
theorem authority_of_import {obj : V1alpha1.Cluster}
    (himp : newClusterFromv1alpha1 outcomes.env obj = .ok cluster) :
    (cluster.spec outcomes).authority = obj.spec.authority := by
  obtain ⟨joinKey, serviceAccount, vpn, -, -, -, rfl⟩ := newClusterFromv1alpha1_eq_ok himp
  funext authority
  cases authority <;>
    simp only [spec, Cluster.export, importedCluster, V1alpha1.ClusterSpec.authority,
      Option.bind_some]
  case etcdServer => cases obj.spec.etcdServer <;> rfl
  case apiServer => cases obj.spec.apiServer <;> rfl
  all_goals cases obj.spec.certificateAuthorities <;> rfl

/-- An import takes the private half of a key pair and computes the public half. -/
theorem key_of_import {obj : V1alpha1.Cluster}
    (himp : newClusterFromv1alpha1 outcomes.env obj = .ok cluster) {key : Key}
    {keyPair : KeyPair} (hkey : obj.spec.key key = some keyPair) :
    ∃ keyPair', outcomes.env.newKeyPairFromString keyPair.privateKey = .ok keyPair' ∧
      (cluster.spec outcomes).key key = some keyPair' := by
  obtain ⟨joinKey, serviceAccount, vpn, hjoinKey, hserviceAccount, -, rfl⟩ :=
    newClusterFromv1alpha1_eq_ok himp
  have hpair : ∀ {imported : Option KeyPair},
      newKeyPairFromv1alpha1 outcomes.env (some keyPair) = .ok imported →
      ∃ keyPair', outcomes.env.newKeyPairFromString keyPair.privateKey = .ok keyPair' ∧
        imported = some keyPair' := by
    intro imported h
    unfold newKeyPairFromv1alpha1 at h
    dsimp only at h
    split at h
    · cases h
    next keyPair' hkeyPair' =>
      cases h
      exact ⟨keyPair', hkeyPair', rfl⟩
  cases key with
  | join =>
    replace hkey : obj.spec.joinKey = some keyPair := hkey
    rw [hkey] at hjoinKey
    exact hpair hjoinKey
  | serviceAccount =>
    obtain ⟨apiServer, hapiServer, hkey⟩ := Option.bind_eq_some_iff.mp hkey
    rw [hapiServer, Option.getD_some, hkey] at hserviceAccount
    exact hpair hserviceAccount

end Cluster

namespace Controllers.ClusterInitializer

open V1alpha1.Cluster (uninitializedCertificatesLabel)

/-! ## The controller and the store -/

/-- The stored clusters. -/
abbrev Clusters := GoMap ObjectKey V1alpha1.Cluster

/-- How a run ends. -/
inductive Result
  | done
  | requeue
  | requeueAfter (seconds : Nat)
  | panic (message : String)
deriving DecidableEq, Repr

/-- The object that is stored when a sent object passes the webhook.  The status has a
write of its own. -/
def admitted (env : Environment) (stored sent : V1alpha1.Cluster) : V1alpha1.Cluster :=
  { sent.default env with status := stored.status }

/-- `Reconcile`.  The update goes through only if the object is the one that was read. -/
def reconcile (outcomes : InitializerOutcomes) (req : ObjectKey) (stored : Clusters) :
    Result × Clusters :=
  match stored.lookup req with
  | none => (.requeue, stored)
  | some obj =>
    match newClusterFromv1alpha1 outcomes.env obj with
    | .error (.error _) => (.requeue, stored)
    | .error (.panic message) => (.panic message, stored)
    | .ok cluster =>
      if !cluster.hasUninitializedCertificates then (.done, stored)
      else
        match cluster.initializeCertificatesAndKeys outcomes with
        | .error _ => (.requeueAfter 10, stored)
        | .ok cluster =>
          let cluster := { cluster with
            labels := cluster.labels.erase uninitializedCertificatesLabel }
          if outcomes.update then
            (.done, stored.insert req (admitted outcomes.env obj
              (cluster.export outcomes.env.net outcomes.vpnPeerMap)))
          else (.requeue, stored)

/-- What happens to the stored clusters. -/
inductive Event
  /-- Someone creates a cluster or replaces it by another object. -/
  | write (env : Environment) (key : ObjectKey) (obj : V1alpha1.Cluster)
  | writeStatus (key : ObjectKey) (status : V1alpha1.ClusterStatus)
  | remove (key : ObjectKey)
  | initializer (outcomes : InitializerOutcomes) (req : ObjectKey)

/-- The stored clusters after an event. -/
def step (stored : Clusters) : Event → Clusters
  | .write env key obj =>
    match stored.lookup key with
    | none => stored.insert key { obj.default env with status := {} }
    | some old => stored.insert key (admitted env old obj)
  | .writeStatus key status =>
    match stored.lookup key with
    | none => stored
    | some obj => stored.insert key { obj with status := status }
  | .remove key => stored.erase key
  | .initializer outcomes req => (reconcile outcomes req stored).2

/-! ## The handshake -/

/-- A cluster without the label has its certificates. -/
def Shaken (obj : V1alpha1.Cluster) : Prop :=
  uninitializedCertificatesLabel ∉ obj.labels → obj.spec.Initialized

/-- Every authority of the object stays, and every key pair keeps its private half.  The
public half is the one that belongs to it. -/
structure KeepsSupplied (env : Environment) (obj obj' : V1alpha1.Cluster) : Prop where
  authorities : ∀ authority certificate, obj.spec.authority authority = some certificate →
    obj'.spec.authority authority = some certificate
  keys : ∀ key keyPair, obj.spec.key key = some keyPair →
    ∃ keyPair', obj'.spec.key key = some keyPair' ∧ keyPair'.privateKey = keyPair.privateKey ∧
      env.newKeyPairFromString keyPair.privateKey = .ok keyPair'

theorem shaken_admitted (env : Environment) (stored sent : V1alpha1.Cluster) :
    Shaken (admitted env stored sent) :=
  V1alpha1.Cluster.initialized_default env sent

/-- What a run does: nothing, or the write of an initialized cluster. -/
theorem reconcile_cases (outcomes : InitializerOutcomes) (req : ObjectKey) (stored : Clusters) :
    ((reconcile outcomes req stored).2 = stored ∧
        ((reconcile outcomes req stored).1 = .done → ∃ obj, stored.lookup req = some obj ∧
          uninitializedCertificatesLabel ∉ obj.labels)) ∨
      ∃ obj cluster cluster', stored.lookup req = some obj ∧
        newClusterFromv1alpha1 outcomes.env obj = .ok cluster ∧
        cluster.initializeCertificatesAndKeys outcomes = .ok cluster' ∧
        (reconcile outcomes req stored).2 = stored.insert req (admitted outcomes.env obj
          ({ cluster' with labels := cluster'.labels.erase uninitializedCertificatesLabel
            }.export outcomes.env.net outcomes.vpnPeerMap)) := by
  unfold reconcile
  cases hobj : stored.lookup req with
  | none => exact .inl ⟨rfl, fun h => by cases h⟩
  | some obj =>
    dsimp only
    cases himp : newClusterFromv1alpha1 outcomes.env obj with
    | error fault => cases fault <;> exact .inl ⟨rfl, fun h => by cases h⟩
    | ok cluster =>
      have hlabs : cluster.labels = obj.labels := by
        obtain ⟨_, _, _, -, -, -, rfl⟩ := newClusterFromv1alpha1_eq_ok himp
        rfl
      dsimp only
      cases hlab : cluster.hasUninitializedCertificates with
      | false =>
        refine .inl ⟨rfl, fun _ => ⟨obj, rfl, ?_⟩⟩
        rwa [← hlabs, ← Finmap.lookup_isSome, Bool.not_eq_true]
      | true =>
        cases hnew : cluster.initializeCertificatesAndKeys outcomes with
        | error message => exact .inl ⟨rfl, fun h => by cases h⟩
        | ok cluster' =>
          cases hupdate : outcomes.update with
          | false => exact .inl ⟨rfl, fun h => by cases h⟩
          | true => exact .inr ⟨obj, cluster, cluster', rfl, himp, hnew, rfl⟩

/-- What the initializer writes. -/
theorem admitted_initialized {outcomes : InitializerOutcomes} {obj : V1alpha1.Cluster}
    {cluster cluster' : Cluster} (himp : newClusterFromv1alpha1 outcomes.env obj = .ok cluster)
    (hnew : cluster.initializeCertificatesAndKeys outcomes = .ok cluster') :
    let obj' := admitted outcomes.env obj
      ({ cluster' with labels := cluster'.labels.erase uninitializedCertificatesLabel
        }.export outcomes.env.net outcomes.vpnPeerMap)
    uninitializedCertificatesLabel ∉ obj'.labels ∧ KeepsSupplied outcomes.env obj obj' := by
  intro obj'
  obtain ⟨-, hauths, hkeys⟩ := Cluster.initializeCertificatesAndKeys_eq_ok hnew
  have hinit : (cluster'.spec outcomes).Initialized :=
    ⟨fun authority => (hauths authority).1, fun key => (hkeys key).1⟩
  have hsame : SameCertificates (cluster'.spec outcomes) obj'.spec :=
    V1alpha1.Cluster.sameCertificates_default outcomes.env
      ({ cluster' with labels := cluster'.labels.erase uninitializedCertificatesLabel
        }.export outcomes.env.net outcomes.vpnPeerMap)
  have hlabs : obj'.labels = cluster'.labels.erase uninitializedCertificatesLabel :=
    V1alpha1.Cluster.labels_default outcomes.env _ hinit
  refine ⟨?_, fun authority certificate hset => ?_, fun key keyPair hset => ?_⟩
  · rw [hlabs, Finmap.mem_erase]
    exact fun h => h.1 rfl
  · rw [hsame.authority_eq]
    refine (hauths authority).2 certificate ?_
    rw [Cluster.authority_of_import himp]
    exact hset
  · obtain ⟨keyPair', hkeyPair', hkey⟩ := Cluster.key_of_import himp hset
    refine ⟨keyPair', ?_, outcomes.env.newKeyPairFromString_privateKey _ _ hkeyPair', hkeyPair'⟩
    rw [hsame.key_eq]
    exact (hkeys key).2 keyPair' hkey

/-- The handshake holds of every stored cluster. -/
def AllShaken (stored : Clusters) : Prop :=
  ∀ key obj, stored.lookup key = some obj → Shaken obj

theorem AllShaken.insert {stored : Clusters} (h : AllShaken stored) {key : ObjectKey}
    {obj : V1alpha1.Cluster} (hobj : Shaken obj) : AllShaken (stored.insert key obj) := by
  intro key' obj' hlk
  rw [GoMap.lookup_insert_eq] at hlk
  split_ifs at hlk
  · cases hlk
    exact hobj
  · exact h key' obj' hlk

theorem AllShaken.step {stored : Clusters} (h : AllShaken stored) (event : Event) :
    AllShaken (step stored event) := by
  cases event with
  | write env key obj =>
    simp only [ClusterInitializer.step]
    split
    · exact h.insert (V1alpha1.Cluster.initialized_default env obj)
    · exact h.insert (shaken_admitted env _ obj)
  | writeStatus key status =>
    simp only [ClusterInitializer.step]
    split
    · exact h
    next obj hlk => exact h.insert (h key obj hlk)
  | remove key =>
    intro key' obj' hlk
    by_cases heq : key' = key
    · rw [heq, ClusterInitializer.step, Finmap.lookup_erase] at hlk
      cases hlk
    · rw [ClusterInitializer.step, Finmap.lookup_erase_ne heq] at hlk
      exact h key' obj' hlk
  | initializer outcomes req =>
    rw [ClusterInitializer.step]
    rcases reconcile_cases outcomes req stored with ⟨hsame, -⟩ | ⟨obj, _, _, -, -, -, hwrite⟩
    · rw [hsame]
      exact h
    · rw [hwrite]
      exact h.insert (shaken_admitted _ _ _)

/-- In every store that writes and runs of the initializer lead to, a cluster without the
label has all authorities and keys.  A run that ends well on a cluster with the label takes
it off and keeps what the user has supplied, but for public halves of keys. -/
theorem certificates_initialized (events : List Event) :
    let stored := events.foldl step ∅
    (∀ key obj, stored.lookup key = some obj → uninitializedCertificatesLabel ∉ obj.labels →
        obj.spec.Initialized) ∧
      ∀ outcomes req obj, stored.lookup req = some obj →
        uninitializedCertificatesLabel ∈ obj.labels →
        (reconcile outcomes req stored).1 = .done →
        ∃ obj', (reconcile outcomes req stored).2.lookup req = some obj' ∧
          uninitializedCertificatesLabel ∉ obj'.labels ∧ KeepsSupplied outcomes.env obj obj' := by
  intro stored
  refine ⟨?_, fun outcomes req obj hlk hlab hdone => ?_⟩
  · have hstart : AllShaken ∅ := by
      intro key obj hlk
      rw [Finmap.lookup_empty] at hlk
      cases hlk
    exact List.foldlRecOn events step hstart fun _ h event _ => h.step event
  · rcases reconcile_cases outcomes req stored with
      ⟨-, hskipped⟩ | ⟨obj', cluster, cluster', hlk', himp, hnew, hwrite⟩
    · obtain ⟨obj', hlk', hlab'⟩ := hskipped hdone
      rw [hlk] at hlk'
      cases hlk'
      exact absurd hlab hlab'
    · rw [hlk] at hlk'
      cases hlk'
      rw [hwrite]
      exact ⟨_, Finmap.lookup_insert _, admitted_initialized himp hnew⟩

/-- An environment in which every text is a private key. -/
def readableKeys : Environment :=
  { keylessEnvironment with
    newKeyPairFromString := fun privateKey => .ok ⟨"public of " ++ privateKey, privateKey⟩
    newKeyPairFromString_privateKey := fun _ _ h => by
      cases h
      rfl }

/-- A run in which everything can be created. -/
def creatingOutcomes : InitializerOutcomes where
  env := readableKeys
  newCertificateAuthority authorityName := .ok ⟨authorityName, ""⟩
  serviceAccountKey := .ok ⟨"public of service account", "service account"⟩
  joinKey := .ok ⟨"public of join", "join"⟩

/-- Someone creates a cluster with a join key whose halves do not belong together. -/
def suppliedJoinKey : Clusters :=
  [Event.write readableKeys ("default", "cluster")
    { name := "cluster"
      «namespace» := "default"
      spec := { joinKey := some ⟨"other", "private"⟩ } }].foldl step ∅

/-- The initializer replaces the public half of the join key. -/
theorem initializer_replaces_public_key :
    (reconcile creatingOutcomes ("default", "cluster") suppliedJoinKey).1 = .done ∧
      (suppliedJoinKey.lookup ("default", "cluster")).bind (·.spec.joinKey) =
        some ⟨"other", "private"⟩ ∧
      ((reconcile creatingOutcomes ("default", "cluster") suppliedJoinKey).2.lookup
        ("default", "cluster")).bind (·.spec.joinKey) =
          some ⟨"public of private", "private"⟩ := by
  decide +kernel

/-- The run on that cluster is one of those that the theorem is about. -/
theorem certificates_initialized_join_key :
    ∃ obj obj', suppliedJoinKey.lookup ("default", "cluster") = some obj ∧
      (reconcile creatingOutcomes ("default", "cluster") suppliedJoinKey).2.lookup
        ("default", "cluster") = some obj' ∧
      uninitializedCertificatesLabel ∉ obj'.labels ∧ KeepsSupplied readableKeys obj obj' := by
  have hsome : (suppliedJoinKey.lookup ("default", "cluster")).isSome := by decide +kernel
  obtain ⟨obj, hlk⟩ := Option.isSome_iff_exists.mp hsome
  have hlab : uninitializedCertificatesLabel ∈ obj.labels := by
    have h : ((suppliedJoinKey.lookup ("default", "cluster")).any fun obj =>
      uninitializedCertificatesLabel ∈ obj.labels) = true := by decide +kernel
    rw [hlk] at h
    simpa using h
  obtain ⟨obj', h⟩ := (certificates_initialized _).2 creatingOutcomes ("default", "cluster") obj
    hlk hlab (by decide +kernel)
  exact ⟨obj, obj', hlk, h⟩

end Controllers.ClusterInitializer

end OneInfra
