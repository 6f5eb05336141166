import OneInfra.Controllers.ClusterInitializer

/-!
# New clusters

`NewCluster` of `internal/pkg/cluster/cluster.go`, which `oi cluster inject` calls.  It
fills a record in three steps: the VPN, the certificates and keys, and the extra names of
the API server.

The last step replaces the record of the API server instead of one of its fields.  A
cluster with extra names has lost the authority and the service account key that the
second step had put there.
-/

namespace OneInfra

open Lib

/-- The VPN that `NewCluster` sets. -/
def newClusterVPN (env : Environment) (vpnEnabled : Bool) (vpnCIDR : String) :
    Except String VPN :=
  if vpnEnabled then
    match env.net.parseCIDR vpnCIDR with
    | none => .error ("invalid CIDR address: " ++ vpnCIDR)
    | some vpnCIDRNet => env.generatePrivateKey.map fun privateKey =>
      ⟨true, privateKey.privateKey, privateKey.publicKey, some vpnCIDRNet⟩
  else .ok { enabled := false }

/-- `NewCluster`.  The outcomes hold what the libraries create. -/
def newCluster (outcomes : InitializerOutcomes) (clusterName kubernetesVersion : String)
    (controlPlaneReplicas : Int64) (vpnEnabled : Bool) (vpnCIDR : String)
    (apiServerExtraSANs : List String) : Except String Cluster := do
  let vpn ← newClusterVPN outcomes.env vpnEnabled vpnCIDR
  let res : Cluster :=
    { name := clusterName
      «namespace» := ""
      kubernetesVersion := kubernetesVersion
      controlPlaneReplicas := controlPlaneReplicas
      vpn := vpn
      clusterCIDR := "10.244.0.0/16"
      serviceCIDR := "10.96.0.0/12" }
  let res ← res.initializeCertificatesAndKeys outcomes
  if apiServerExtraSANs.length > 0 then
    pure { res with apiServer := some { extraSANs := apiServerExtraSANs } }
  else pure res

/-! ## What is there after each step -/

/-- The VPN that a new cluster gets. -/
inductive NewVPN (env : Environment) (vpnCIDR : String) : Bool → VPN → Prop
  | disabled : NewVPN env vpnCIDR false { enabled := false }
  | enabled (vpnCIDRNet : IPNet) (privateKey : WireGuardKey)
      (hparse : env.net.parseCIDR vpnCIDR = some vpnCIDRNet) : NewVPN env vpnCIDR true
        ⟨true, privateKey.privateKey, privateKey.publicKey, some vpnCIDRNet⟩

theorem newClusterVPN_eq_ok {env : Environment} {vpnEnabled : Bool} {vpnCIDR : String} {vpn : VPN}
    (h : newClusterVPN env vpnEnabled vpnCIDR = .ok vpn) : NewVPN env vpnCIDR vpnEnabled vpn := by
  unfold newClusterVPN at h
  cases vpnEnabled with
  | false =>
    cases h
    exact .disabled
  | true =>
    rw [if_pos rfl] at h
    cases hparse : env.net.parseCIDR vpnCIDR with
    | none =>
      rw [hparse] at h
      cases h
    | some vpnCIDRNet =>
      rw [hparse] at h
      dsimp only at h
      cases hkey : env.generatePrivateKey with
      | error message =>
        rw [hkey] at h
        cases h
      | ok privateKey =>
        rw [hkey] at h
        cases h
        exact .enabled vpnCIDRNet privateKey hparse

theorem orNew_none_eq_ok {α : Type} {new : Except String α} {value : Option α}
    (h : orNew none new = .ok value) : ∃ a, new = .ok a ∧ value = some a := by
  cases new with
  | error message => cases h
  | ok a =>
    cases h
    exact ⟨a, rfl, rfl⟩

/-- What `InitializeCertificatesAndKeys` does to a cluster without an API server and a join
key. -/
theorem initializeCertificatesAndKeys_of_none {outcomes : InitializerOutcomes}
    {cluster cluster' : Cluster} (hnoServer : cluster.apiServer = none)
    (hnoKey : cluster.joinKey = none)
    (h : cluster.initializeCertificatesAndKeys outcomes = .ok cluster') :
    cluster'.vpn = cluster.vpn ∧ cluster'.labels = cluster.labels ∧
      (∃ ca serviceAccount, outcomes.serviceAccountKey = .ok serviceAccount ∧
        cluster'.apiServer = some { ca := ca, serviceAccount := some serviceAccount }) ∧
      ∃ joinKey, outcomes.joinKey = .ok joinKey ∧ cluster'.joinKey = some joinKey := by
  simp only [Cluster.initializeCertificatesAndKeys, Cluster.initializeCertificateAuthorities,
    Cluster.initializeEtcdServerCertificateAuthority,
    Cluster.initializeAPIServerCertificateAuthority, Cluster.initializeJoinKey,
    except_bind_eq_ok] at h
  obtain ⟨_, ⟨_, _, _, _, _, _, _, _, _, _, _, _, h₁⟩, _, ⟨_, _, h₂⟩, _, ⟨ca, _, serviceAccount,
    hserviceAccount, h₃⟩, joinKey, hjoinKey, h₄⟩ := h
  cases h₁
  cases h₂
  cases h₃
  cases h₄
  dsimp only at hserviceAccount hjoinKey
  rw [hnoServer, Option.getD_none] at hserviceAccount
  rw [hnoKey] at hjoinKey
  obtain ⟨newAccount, hnewAccount, rfl⟩ := orNew_none_eq_ok hserviceAccount
  obtain ⟨newKey, hnewKey, rfl⟩ := orNew_none_eq_ok hjoinKey
  refine ⟨rfl, rfl, ⟨ca, newAccount, hnewAccount, ?_⟩, newKey, hnewKey, rfl⟩
  dsimp only
  rw [hnoServer, Option.getD_none]

/-- A new cluster before the extra names: its VPN, and certificates and keys that were just
created. -/
structure BeforeExtraSANs (outcomes : InitializerOutcomes) (vpnEnabled : Bool) (vpnCIDR : String)
    (cluster : Cluster) : Prop where
  vpn : NewVPN outcomes.env vpnCIDR vpnEnabled cluster.vpn
  labels : cluster.labels = ∅
  initialized : (cluster.export outcomes.env.net []).spec.Initialized
  apiServer : ∃ ca serviceAccount, outcomes.serviceAccountKey = .ok serviceAccount ∧
    cluster.apiServer = some { ca := ca, serviceAccount := some serviceAccount }
  joinKey : ∃ joinKey, outcomes.joinKey = .ok joinKey ∧ cluster.joinKey = some joinKey

/-- The steps of a call that returns. -/
theorem newCluster_eq_ok {outcomes : InitializerOutcomes} {cl kubernetesVersion : String}
    {controlPlaneReplicas : Int64} {vpnEnabled : Bool} {vpnCIDR : String}
    {apiServerExtraSANs : List String} {cluster : Cluster}
    (h : newCluster outcomes cl kubernetesVersion controlPlaneReplicas vpnEnabled vpnCIDR
      apiServerExtraSANs = .ok cluster) :
    ∃ res, BeforeExtraSANs outcomes vpnEnabled vpnCIDR res ∧
      cluster = if apiServerExtraSANs = [] then res
        else { res with apiServer := some { extraSANs := apiServerExtraSANs } } := by
  obtain ⟨vpn, hvpn, h⟩ := except_bind_eq_ok.mp h
  obtain ⟨res, hres, hcl⟩ := except_bind_eq_ok.mp h
  obtain ⟨hvpn', hlabs, hapiServer, hjoinKey⟩ :=
    initializeCertificatesAndKeys_of_none rfl rfl hres
  obtain ⟨-, hauths, hkeys⟩ := Cluster.initializeCertificatesAndKeys_eq_ok hres
  refine ⟨res, ⟨?_, hlabs, ⟨?_, ?_⟩, hapiServer, hjoinKey⟩, ?_⟩
  · rw [hvpn']
    exact newClusterVPN_eq_ok hvpn
  · intro authority
    exact (hauths authority).1
  · intro key
    exact (hkeys key).1
  · cases apiServerExtraSANs <;> cases hcl <;> rfl

/-! ## Complete clusters -/

/-- The object of a cluster has its certificates and keys, the given extra names, and a VPN
with keys and a network if it is enabled. -/
structure Complete (vpnEnabled : Bool) (apiServerExtraSANs : List String)
    (obj : V1alpha1.Cluster) : Prop where
  initialized : obj.needsCertificateInitialization = false
  extraSANs : obj.spec.apiServer.map KubeAPIServer.extraSANs = some apiServerExtraSANs
  vpn : vpnEnabled = true → ∃ privateKey publicKey cidr,
    obj.spec.vpn = some ⟨true, some privateKey, some publicKey, some cidr⟩

/-- The object can be imported, and the cluster is complete again.  Its VPN network is one
that was parsed and not the empty one. -/
structure ComesBack (env : Environment) (vpnEnabled : Bool) (apiServerExtraSANs : List String)
    (obj : V1alpha1.Cluster) (cluster : Cluster) : Prop where
  imported : newClusterFromv1alpha1 env obj = .ok cluster
  unlabelled : cluster.hasUninitializedCertificates = false
  complete : Complete vpnEnabled apiServerExtraSANs (cluster.export env.net [])
  network : vpnEnabled = true → ∃ text network, env.net.parseCIDR text = some network ∧
    cluster.vpn.cidr = some network

section Complete

variable {outcomes : InitializerOutcomes} {vpnEnabled : Bool} {vpnCIDR : String}
  {cluster : Cluster}

/-- Without extra names nothing is lost. -/
theorem BeforeExtraSANs.complete (h : BeforeExtraSANs outcomes vpnEnabled vpnCIDR cluster) :
    Complete vpnEnabled [] (cluster.export outcomes.env.net []) := by
  obtain ⟨ca, serviceAccount, -, hapiServer⟩ := h.apiServer
  refine ⟨V1alpha1.Cluster.needsCertificateInitialization_eq_false_iff.mpr h.initialized, ?_, ?_⟩
  · show cluster.apiServer.map KubeAPIServer.extraSANs = some []
    rw [hapiServer]
    rfl
  · intro henb
    have hvpn := h.vpn
    show ∃ privateKey publicKey cidr, some (cluster.vpn.export outcomes.env.net) =
      some ⟨true, some privateKey, some publicKey, some cidr⟩
    generalize cluster.vpn = vpn at hvpn
    cases hvpn with
    | disabled => cases henb
    | enabled vpnCIDRNet privateKey hparse => exact ⟨_, _, _, rfl⟩

/-- What an import makes of the VPN of a new cluster. -/
theorem NewVPN.import_export {env : Environment} {vpn : VPN}
    (h : NewVPN env vpnCIDR vpnEnabled vpn)
    (hnet : ∀ network, env.net.parseCIDR vpnCIDR = some network →
      (env.net.parseCIDR (env.net.ipNetString network)).isSome) :
    ∃ vpn', newVPNFromv1alpha1 env.net (some (vpn.export env.net)) = .ok vpn' ∧
      (vpnEnabled = true → (∃ privateKey publicKey cidr, vpn'.export env.net =
          ⟨true, some privateKey, some publicKey, some cidr⟩) ∧
        ∃ text network, env.net.parseCIDR text = some network ∧ vpn'.cidr = some network) := by
  cases h with
  | disabled => exact ⟨{ enabled := false }, rfl, fun henb => by cases henb⟩
  | enabled vpnCIDRNet privateKey hparse =>
    obtain ⟨network, hnetwork⟩ := Option.isSome_iff_exists.mp (hnet vpnCIDRNet hparse)
    refine ⟨⟨true, privateKey.privateKey, privateKey.publicKey, some network⟩, ?_, ?_⟩
    · show Except.ok (VPN.mk true privateKey.privateKey privateKey.publicKey
        (some ((env.net.parseCIDR (env.net.ipNetString vpnCIDRNet)).getD {}))) = _
      rw [hnetwork]
      rfl
    · intro _
      exact ⟨⟨_, _, _, rfl⟩, _, network, hnetwork, rfl⟩

/-- Without extra names the cluster comes back from its export. -/
theorem BeforeExtraSANs.comesBack (h : BeforeExtraSANs outcomes vpnEnabled vpnCIDR cluster)
    (hkeys : ∀ keyPair, outcomes.serviceAccountKey = .ok keyPair ∨ outcomes.joinKey = .ok keyPair →
      outcomes.env.newKeyPairFromString keyPair.privateKey = .ok keyPair)
    (hnet : ∀ network, outcomes.env.net.parseCIDR vpnCIDR = some network →
      (outcomes.env.net.parseCIDR (outcomes.env.net.ipNetString network)).isSome) :
    ∃ cluster', ComesBack outcomes.env vpnEnabled [] (cluster.export outcomes.env.net [])
      cluster' := by
  obtain ⟨ca, serviceAccount, haccount, hapiServer⟩ := h.apiServer
  obtain ⟨joinKey, hkey, hjoinKey⟩ := h.joinKey
  obtain ⟨vpn', hvpn', hnetwork⟩ := h.vpn.import_export hnet
  have himp : newClusterFromv1alpha1 outcomes.env (cluster.export outcomes.env.net []) =
      .ok (importedCluster (cluster.export outcomes.env.net []) (some joinKey)
        { ca := ca, serviceAccount := some serviceAccount } vpn') := by
    have hpair : ∀ keyPair, outcomes.serviceAccountKey = .ok keyPair ∨
        outcomes.joinKey = .ok keyPair →
        newKeyPairFromv1alpha1 outcomes.env (some keyPair) = .ok (some keyPair) := by
      intro keyPair hnew
      unfold newKeyPairFromv1alpha1
      dsimp only
      rw [hkeys keyPair hnew]
    unfold newClusterFromv1alpha1 newKubeAPIServerFromv1alpha1
    simp only [Cluster.export, hapiServer, hjoinKey, Option.getD_some]
    rw [hpair joinKey (.inr hkey), hpair serviceAccount (.inl haccount), hvpn']
    rfl
  refine ⟨_, himp, ?_, ⟨?_, rfl, ?_⟩, fun henb => (hnetwork henb).2⟩
  · show (cluster.labels.lookup _).isSome = false
    rw [h.labels]
    rfl
  · rw [V1alpha1.Cluster.needsCertificateInitialization_eq_false_iff]
    constructor
    · intro authority
      have hsame := congrFun (Cluster.authority_of_import himp) authority
      exact (congrArg Option.isSome hsame).trans (h.initialized.authorities authority)
    · intro key
      cases key <;> rfl
  · intro henb
    obtain ⟨privateKey, publicKey, cidr, hexp⟩ := (hnetwork henb).1
    exact ⟨privateKey, publicKey, cidr, congrArg some hexp⟩

/-- The cluster that `NewCluster` returns is complete and comes back from its export if and
only if no extra names are given.  The libraries read back the keys that they have created
and the texts of the networks that they have parsed. -/
theorem newCluster_complete_iff {cl kubernetesVersion : String}
    {controlPlaneReplicas : Int64} {apiServerExtraSANs : List String}
    (h : newCluster outcomes cl kubernetesVersion controlPlaneReplicas vpnEnabled vpnCIDR
      apiServerExtraSANs = .ok cluster)
    (hkeys : ∀ keyPair, outcomes.serviceAccountKey = .ok keyPair ∨ outcomes.joinKey = .ok keyPair →
      outcomes.env.newKeyPairFromString keyPair.privateKey = .ok keyPair)
    (hnet : ∀ network, outcomes.env.net.parseCIDR vpnCIDR = some network →
      (outcomes.env.net.parseCIDR (outcomes.env.net.ipNetString network)).isSome) :
    (Complete vpnEnabled apiServerExtraSANs (cluster.export outcomes.env.net []) ∧
        ∃ cluster', ComesBack outcomes.env vpnEnabled apiServerExtraSANs
          (cluster.export outcomes.env.net []) cluster') ↔
      apiServerExtraSANs = [] := by
  obtain ⟨res, hres, hcl⟩ := newCluster_eq_ok h
  constructor
  · intro hcompl
    by_contra hextra
    -- the record with the extra names has no authority
    rw [if_neg hextra] at hcl
    have hneeds := hcompl.1.initialized
    rw [hcl, V1alpha1.Cluster.needsCertificateInitialization_eq_false_iff] at hneeds
    have hauth := hneeds.authorities .apiServer
    cases hauth
  · intro hextra
    rw [if_pos hextra] at hcl
    rw [hcl, hextra]
    exact ⟨hres.complete, hres.comesBack hkeys hnet⟩

end Complete

/-- Outcomes in which the key of the VPN can be created, too. -/
def newClusterOutcomes : InitializerOutcomes :=
  { Controllers.ClusterInitializer.creatingOutcomes with
    env := { Controllers.ClusterInitializer.readableKeys with
      generatePrivateKey := .ok ⟨"private", "public"⟩ } }

/-- A new cluster with one extra name needs certificates. -/
theorem newCluster_extraSAN_needs_certificates :
    ((newCluster newClusterOutcomes "cluster" "1.20.0" 1 true "10.0.0.0/16" ["api.example.com"]).map
      fun cluster =>
        (cluster.export newClusterOutcomes.env.net []).needsCertificateInitialization) =
      .ok true := by
  decide +kernel

/-- A new cluster with a VPN and without extra names is complete. -/
theorem newCluster_complete_iff_vpn : ∃ cluster,
    newCluster newClusterOutcomes "cluster" "1.20.0" 1 true "10.0.0.0/16" [] = .ok cluster ∧
      Complete true [] (cluster.export newClusterOutcomes.env.net []) ∧
      ∃ cluster', ComesBack newClusterOutcomes.env true []
        (cluster.export newClusterOutcomes.env.net []) cluster' := by
  have hok : (newCluster newClusterOutcomes "cluster" "1.20.0" 1 true "10.0.0.0/16" []).isOk =
      true := by decide +kernel
  cases hnew : newCluster newClusterOutcomes "cluster" "1.20.0" 1 true "10.0.0.0/16" [] with
  | error message =>
    rw [hnew] at hok
    cases hok
  | ok cluster =>
  refine ⟨cluster, rfl, (newCluster_complete_iff hnew ?_ ?_).mpr rfl⟩
  · intro keyPair hcreated
    rcases hcreated with hcreated | hcreated <;> cases hcreated <;> rfl
  · intro network hparse
    have hnetwork : newClusterOutcomes.env.net.parseCIDR "10.0.0.0/16" =
        some ⟨[10, 0, 0, 0], [255, 255, 0, 0]⟩ := by decide +kernel
    rw [hnetwork, Option.some_inj] at hparse
    rw [← hparse]
    decide +kernel

end OneInfra
