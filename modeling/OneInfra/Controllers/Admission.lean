import OneInfra.Controllers.ClusterController

/-!
# What the admission of a cluster guarantees

The webhook defaults a cluster and accepts every one.  `AdmissionSafe` says that
the code that runs on an admitted cluster does not panic: the import, the
cluster controller with any components, and the generation of VPN peers.

`admissionSafe_iff` gives the exact condition on the object.  Three parts of it
are not checked by the webhook.  `KeysPresent` is about VPN keys: a CIDR without
keys is admitted when the VPN is disabled.  `ReplicasInRange` is about negative
numbers of replicas, and `NetworkLargeEnough` about CIDR texts that do not parse
or that start at the first addresses of all.  An object whose keys do not parse
is safe in any case, since its import returns an error.
-/

namespace OneInfra.Controllers

open OneInfra.Lib ClusterController V1alpha1.Cluster

/-! ## The condition -/

/-- A key pair of the object does not parse, so the import fails. -/
def ImportFails (env : Environment) (obj : V1alpha1.Cluster) : Prop :=
  ∃ keyPair message, (obj.spec.joinKey = some keyPair ∨
      (obj.spec.apiServer.getD {}).serviceAccount = some keyPair) ∧
    env.newKeyPairFromString keyPair.privateKey = .error message

/-- The VPN keys are there when the import reads them. -/
def KeysPresent (env : Environment) (obj : V1alpha1.Cluster) : Prop :=
  ∀ vpn, obj.spec.vpn = some vpn → (vpn.privateKey.isSome ∧ vpn.publicKey.isSome) ∨
    if vpn.enabled then ∃ key, env.generatePrivateKey = .ok key else vpn.cidr = none

/-- The number of replicas keeps the controller inside its list. -/
def ReplicasInRange (obj : V1alpha1.Cluster) : Prop :=
  obj.deletionTimestamp ≠ none ∨ 0 ≤ obj.spec.controlPlaneReplicas ∨
    obj.spec.controlPlaneReplicas = Int64.minValue

/-- The next VPN address has at least two bytes. -/
def NetworkLargeEnough (env : Environment) (obj : V1alpha1.Cluster) : Prop :=
  ∀ vpn, obj.spec.vpn = some vpn → vpn.enabled = true →
    256 ≤ (newVPNCIDRFromv1alpha1 env.net (vpn.cidr.getD defaultVPNCIDR)).number +
      ((obj.status.vpnPeers.map VPNPeer.name).toFinset.card + 1)

/-- The clusters on which the code that runs after their admission does not
panic. -/
def AdmissionCondition (env : Environment) (obj : V1alpha1.Cluster) : Prop :=
  ImportFails env obj ∨ KeysPresent env obj ∧ ReplicasInRange obj ∧ NetworkLargeEnough env obj

/-- The code that runs on an admitted cluster does not panic. -/
structure AdmissionSafe (env : Environment) (obj : V1alpha1.Cluster) : Prop where
  /-- `NewClusterFromv1alpha1` returns a cluster or an error. -/
  imported : ¬ ExceptPanics (newClusterFromv1alpha1 env (obj.default env))
  /-- `ClusterController.Reconcile` ends, whatever it lists and whatever its
  writes return. -/
  reconciled : ∀ (api : ComponentApi) (listed : Except String (List Component)),
    (∀ components, listed = .ok components → components.length < 2 ^ 63) →
    ¬ Panics ((reconcile api env (.ok (obj.default env)) listed).run [])
  /-- `GenerateVPNPeer` returns a peer or an error. -/
  generated : ∀ cluster, newClusterFromv1alpha1 env (obj.default env) = .ok cluster →
    cluster.vpn.enabled = true → ∀ key peerName,
    ¬ Panics ((Cluster.generateVPNPeer env.net key peerName).run cluster)

/-! ## What the defaults keep -/

section Default

variable (env : Environment) (obj : V1alpha1.Cluster)

/-- The fields that the import reads, after the defaults. -/
theorem default_fields :
    (obj.default env).spec.joinKey = obj.spec.joinKey ∧
    (obj.default env).spec.apiServer = obj.spec.apiServer ∧
    (obj.default env).spec.vpn = some (defaultedVPN env obj.spec.vpn) ∧
    (obj.default env).spec.controlPlaneReplicas =
      (if obj.spec.controlPlaneReplicas = 0 then 1 else obj.spec.controlPlaneReplicas) ∧
    (obj.default env).deletionTimestamp = obj.deletionTimestamp ∧
    (obj.default env).status = obj.status := by
  simp only [V1alpha1.Cluster.default, addFinalizer, withDefaultKubernetesVersion,
    defaultControlPlaneReplicas, defaultVPN, defaultUninitializedCertificatesLabel,
    defaultNetworking]
  split_ifs <;> simp_all

/-- The import of a VPN panics when it has a network and lacks a key. -/
theorem newVPNFromv1alpha1_panics_iff (net : NetText) (vpn : V1alpha1.VPN) :
    ExceptPanics (newVPNFromv1alpha1 net (some vpn)) ↔
      vpn.cidr ≠ none ∧ ¬ (vpn.privateKey.isSome ∧ vpn.publicKey.isSome) := by
  obtain ⟨enabled, privateKey, publicKey, cidr⟩ := vpn
  cases cidr with
  | none => simp [newVPNFromv1alpha1, ExceptPanics]
  | some cidr =>
    cases privateKey <;> cases publicKey <;>
      simp [newVPNFromv1alpha1, ExceptPanics, deref, bind, Except.bind, pure, Except.pure]

/-- The import of a VPN returns no error of its own. -/
theorem newVPNFromv1alpha1_ne_error (net : NetText) (vpn : V1alpha1.VPN) (message : String) :
    newVPNFromv1alpha1 net (some vpn) ≠ .error (.error message) := by
  obtain ⟨enabled, privateKey, publicKey, cidr⟩ := vpn
  cases cidr <;> cases privateKey <;> cases publicKey <;>
    simp [newVPNFromv1alpha1, deref, bind, Except.bind, pure, Except.pure]

/-- An imported VPN is enabled when it was so and had a network. -/
theorem newVPNFromv1alpha1_ok {net : NetText} {vpn : V1alpha1.VPN} {res : VPN}
    (hres : newVPNFromv1alpha1 net (some vpn) = .ok res) :
    vpn.cidr = none ∧ res.enabled = false ∨
      ∃ cidr, vpn.cidr = some cidr ∧ res.enabled = vpn.enabled ∧
        res.cidr = some (newVPNCIDRFromv1alpha1 net cidr) := by
  obtain ⟨enabled, privateKey, publicKey, cidr⟩ := vpn
  cases cidr with
  | none =>
    cases hres
    exact Or.inl ⟨rfl, rfl⟩
  | some cidr =>
    cases privateKey <;> cases publicKey <;>
      simp only [newVPNFromv1alpha1, deref, bind, Except.bind, pure, Except.pure,
        reduceCtorEq, Except.ok.injEq] at hres
    subst hres
    exact Or.inr ⟨cidr, rfl, rfl, rfl⟩

/-- The defaults leave a network without a key in place exactly when the keys
of the object are not present. -/
theorem defaultedVPN_keys_iff :
    ((defaultedVPN env obj.spec.vpn).cidr ≠ none ∧
      ¬ ((defaultedVPN env obj.spec.vpn).privateKey.isSome ∧
        (defaultedVPN env obj.spec.vpn).publicKey.isSome)) ↔ ¬ KeysPresent env obj := by
  cases hvpn : obj.spec.vpn with
  | none => simp [defaultedVPN, KeysPresent, hvpn]
  | some vpn =>
    obtain ⟨enabled, privateKey, publicKey, cidr⟩ := vpn
    cases enabled <;> cases privateKey <;> cases publicKey <;> cases cidr <;>
      cases hkey : env.generatePrivateKey <;>
      simp [defaultedVPN, KeysPresent, hvpn, hkey]

/-- The defaults keep whether a VPN is enabled, and an enabled one gets the
given CIDR or the default one. -/
theorem defaultedVPN_some (vpn : V1alpha1.VPN) :
    (defaultedVPN env (some vpn)).enabled = vpn.enabled ∧
      (vpn.enabled = true →
        (defaultedVPN env (some vpn)).cidr = some (vpn.cidr.getD defaultVPNCIDR)) := by
  obtain ⟨enabled, privateKey, publicKey, cidr⟩ := vpn
  cases enabled <;> cases privateKey <;> cases publicKey <;> cases cidr <;>
    cases hkey : env.generatePrivateKey <;> simp [defaultedVPN, hkey]

/-! ## The import after the defaults -/

/-- A key pair is imported or makes the import fail. -/
theorem newKeyPairFromv1alpha1_cases (keyPair : Option KeyPair) :
    (∃ given message, keyPair = some given ∧
        env.newKeyPairFromString given.privateKey = .error message ∧
        newKeyPairFromv1alpha1 env keyPair = .error (.error message)) ∨
      (¬ ∃ given message, keyPair = some given ∧
        env.newKeyPairFromString given.privateKey = .error message) ∧
      ∃ res, newKeyPairFromv1alpha1 env keyPair = .ok res := by
  cases keyPair with
  | none => exact Or.inr ⟨by simp, none, rfl⟩
  | some given =>
    cases hparse : env.newKeyPairFromString given.privateKey with
    | error message =>
      exact Or.inl ⟨given, message, rfl, hparse, by simp [newKeyPairFromv1alpha1, hparse]⟩
    | ok res =>
      refine Or.inr ⟨?_, some res, by simp [newKeyPairFromv1alpha1, hparse]⟩
      rintro ⟨given', message, hgiven, hparse'⟩
      cases hgiven
      rw [hparse] at hparse'
      cases hparse'

/-- The import fails on the key pairs, or else it is the import of the VPN. -/
theorem newClusterFromv1alpha1_cases :
    (ImportFails env obj ∧ ∃ message, newClusterFromv1alpha1 env obj = .error (.error message)) ∨
      ¬ ImportFails env obj ∧ ∃ joinKey kubeAPIServer, newClusterFromv1alpha1 env obj =
        (newVPNFromv1alpha1 env.net obj.spec.vpn).map
          (importedCluster obj joinKey kubeAPIServer) := by
  have hjoin := newKeyPairFromv1alpha1_cases env obj.spec.joinKey
  have hservice :=
    newKeyPairFromv1alpha1_cases env (obj.spec.apiServer.getD {}).serviceAccount
  rcases hjoin with ⟨given, message, hgiven, hparse, hkey⟩ | ⟨hjoin, joinKey, hjoinKey⟩
  · refine Or.inl ⟨⟨given, message, Or.inl hgiven, hparse⟩, message, ?_⟩
    simp only [newClusterFromv1alpha1, hkey, bind, Except.bind]
  rcases hservice with ⟨given, message, hgiven, hparse, hkey⟩ | ⟨hservice, account, haccount⟩
  · refine Or.inl ⟨⟨given, message, Or.inr hgiven, hparse⟩, message, ?_⟩
    simp only [newClusterFromv1alpha1, newKubeAPIServerFromv1alpha1, hjoinKey, hkey, bind,
      Except.bind]
  · refine Or.inr ⟨?_, joinKey,
      { obj.spec.apiServer.getD {} with serviceAccount := account }, ?_⟩
    · rintro ⟨given, message, hgiven | hgiven, hparse⟩
      · exact hjoin ⟨given, message, hgiven, hparse⟩
      · exact hservice ⟨given, message, hgiven, hparse⟩
    · simp only [newClusterFromv1alpha1, newKubeAPIServerFromv1alpha1, hjoinKey, haccount, bind,
        Except.bind, pure, Except.pure]
      cases newVPNFromv1alpha1 env.net obj.spec.vpn <;> rfl

end Default

/-! ## The result -/

section Result

variable {env : Environment} {obj : V1alpha1.Cluster}

theorem importFails_default_iff : ImportFails env (obj.default env) ↔ ImportFails env obj := by
  obtain ⟨hjoin, hservice, -⟩ := default_fields env obj
  rw [ImportFails, ImportFails, hjoin, hservice]

theorem replicasInRange_iff (cluster : Cluster)
    (hreps : cluster.controlPlaneReplicas = (obj.default env).spec.controlPlaneReplicas)
    (hdel : cluster.deletionTimestamp = (obj.default env).deletionTimestamp) :
    ReplicasInRange obj ↔ ¬ (cluster.deletionTimestamp = none ∧
      cluster.controlPlaneReplicas < 0 ∧ cluster.controlPlaneReplicas ≠ Int64.minValue) := by
  obtain ⟨-, -, -, hdefault, hts, -⟩ := default_fields env obj
  rw [hreps, hdel, hdefault, hts, ReplicasInRange]
  split_ifs with hzero
  · have hone : ¬ (1 : Int64) < 0 := by decide
    simp [hzero, hone]
  · rw [← Int64.not_lt]
    tauto

/-- What the import returns on an admitted cluster. -/
theorem imported_cases (himp : ¬ ImportFails env obj) :
    (¬ KeysPresent env obj ∧ ExceptPanics (newClusterFromv1alpha1 env (obj.default env))) ∨
      KeysPresent env obj ∧ ∃ cluster, newClusterFromv1alpha1 env (obj.default env) = .ok cluster ∧
        cluster.controlPlaneReplicas = (obj.default env).spec.controlPlaneReplicas ∧
        cluster.deletionTimestamp = (obj.default env).deletionTimestamp ∧
        cluster.vpnPeers.keys = (obj.status.vpnPeers.map VPNPeer.name).toFinset ∧
        newVPNFromv1alpha1 env.net (some (defaultedVPN env obj.spec.vpn)) = .ok cluster.vpn := by
  obtain ⟨-, -, hvpn, -, -, hstat⟩ := default_fields env obj
  rcases newClusterFromv1alpha1_cases env (obj.default env) with ⟨hfails, -⟩ | ⟨-, hcl⟩
  · exact absurd (importFails_default_iff.mp hfails) himp
  obtain ⟨joinKey, kubeAPIServer, hcl⟩ := hcl
  rw [hvpn] at hcl
  have hpanics := newVPNFromv1alpha1_panics_iff env.net (defaultedVPN env obj.spec.vpn)
  rw [defaultedVPN_keys_iff] at hpanics
  cases hres : newVPNFromv1alpha1 env.net (some (defaultedVPN env obj.spec.vpn)) with
  | error fault =>
    cases fault with
    | panic message =>
      refine Or.inl ⟨hpanics.mp ⟨message, hres⟩, message, ?_⟩
      rw [hcl, hres]
      rfl
    | error message => exact absurd hres (newVPNFromv1alpha1_ne_error _ _ _)
  | ok vpn =>
    refine Or.inr ⟨?_, _, by rw [hcl, hres]; rfl, rfl, rfl, ?_, rfl⟩
    · by_contra hkeys
      obtain ⟨message, h⟩ := hpanics.mpr hkeys
      rw [hres] at h
      cases h
    · rw [← hstat]
      exact keys_newVPNPeersFromv1alpha1 _

/-- On an imported cluster the peers are generated without a panic exactly when
the network of the object is large enough. -/
theorem generated_iff {cluster : Cluster}
    (hpeers : cluster.vpnPeers.keys = (obj.status.vpnPeers.map VPNPeer.name).toFinset)
    (hvpn : newVPNFromv1alpha1 env.net (some (defaultedVPN env obj.spec.vpn)) = .ok cluster.vpn) :
    (cluster.vpn.enabled = true → ∀ key peerName,
        ¬ Panics ((Cluster.generateVPNPeer env.net key peerName).run cluster)) ↔
      NetworkLargeEnough env obj := by
  have hpanics : ∀ cidr, cluster.vpn.cidr = some cidr →
      ((∀ key peerName,
        ¬ Panics ((Cluster.generateVPNPeer env.net key peerName).run cluster)) ↔
        256 ≤ cidr.number + ((obj.status.vpnPeers.map VPNPeer.name).toFinset.card + 1)) := by
    intro cidr hcidr
    have hiff := Cluster.generateVPNPeer_panics_iff env.net hcidr
    rw [Cluster.nextVPNNumber, hpeers] at hiff
    rw [← not_lt, ← hiff]
    push Not
    rfl
  constructor
  · intro hsafe vpn hgiven henb
    obtain ⟨hdefault, hcidr⟩ := defaultedVPN_some env vpn
    rw [hgiven] at hvpn
    rcases newVPNFromv1alpha1_ok hvpn with ⟨hnone, -⟩ | ⟨cidr, hsome, hon, hnet⟩
    · rw [hcidr henb] at hnone
      cases hnone
    · rw [hcidr henb, Option.some.injEq] at hsome
      rw [hsome]
      exact (hpanics _ hnet).mp (hsafe (by rw [hon, hdefault, henb]))
  · intro hlarge henb
    rcases newVPNFromv1alpha1_ok hvpn with ⟨-, hoff⟩ | ⟨cidr, hsome, hon, hnet⟩
    · rw [henb] at hoff
      cases hoff
    · cases hgiven : obj.spec.vpn with
      | none =>
        rw [hgiven] at hsome
        cases hsome
      | some vpn =>
        obtain ⟨hdefault, hcidr⟩ := defaultedVPN_some env vpn
        rw [hgiven] at hsome hon
        have hgivenOn : vpn.enabled = true := by rw [← hdefault, ← hon, henb]
        rw [hcidr hgivenOn, Option.some.injEq] at hsome
        rw [hpanics _ hnet, ← hsome]
        exact hlarge vpn hgiven hgivenOn

/-- The controller panics on an admitted cluster exactly when the import does
or the number of replicas is out of range. -/
theorem reconciled_iff {cluster : Cluster}
    (hcl : newClusterFromv1alpha1 env (obj.default env) = .ok cluster)
    (hreps : cluster.controlPlaneReplicas = (obj.default env).spec.controlPlaneReplicas)
    (hdel : cluster.deletionTimestamp = (obj.default env).deletionTimestamp) :
    (∀ (api : ComponentApi) (listed : Except String (List Component)),
        (∀ components, listed = .ok components → components.length < 2 ^ 63) →
        ¬ Panics ((reconcile api env (.ok (obj.default env)) listed).run [])) ↔
      ReplicasInRange obj := by
  rw [replicasInRange_iff cluster hreps hdel, ← reconcileComponents_panics_iff]
  constructor
  · rintro hsafe ⟨api, components, hlen, hpanics⟩
    refine hsafe api (.ok components) ?_ ?_
    · intro components' h
      cases h
      exact hlen
    · simpa only [reconcile, hcl] using hpanics
  · intro hrange api listed hlisted
    simp only [reconcile, hcl]
    cases listed with
    | error message => exact not_panics_ok _ _
    | ok components =>
      exact fun hpanics => hrange ⟨api, components, hlisted components rfl, hpanics⟩

/-- **Admission.**  The code that runs on an admitted cluster does not panic if
and only if the object meets the condition: its keys do not parse, or the VPN
keys are there, the number of replicas is in range and the VPN network is
large enough. -/
theorem admissionSafe_iff (env : Environment) (obj : V1alpha1.Cluster) :
    AdmissionSafe env obj ↔ AdmissionCondition env obj := by
  by_cases himp : ImportFails env obj
  · refine iff_of_true ?_ (Or.inl himp)
    rcases newClusterFromv1alpha1_cases env (obj.default env) with
      ⟨-, message, hcl⟩ | ⟨hnot, -⟩
    · constructor
      case imported =>
        rintro ⟨message', h⟩
        rw [hcl] at h
        cases h
      case reconciled =>
        intro api listed _
        simp only [reconcile, hcl]
        exact not_panics_ok _ _
      case generated =>
        intro cluster h
        rw [hcl] at h
        cases h
    · exact absurd (importFails_default_iff.mpr himp) hnot
  · rcases imported_cases himp with ⟨hkeys, hpanics⟩ |
      ⟨hkeys, cluster, hcl, hreps, hdel, hpeers, hvpn⟩
    · refine iff_of_false (fun hsafe => hsafe.imported hpanics) ?_
      rintro (h | ⟨h, -⟩)
      · exact himp h
      · exact hkeys h
    · have hcontroller := reconciled_iff hcl hreps hdel
      have hpeer := generated_iff hpeers hvpn
      constructor
      · intro hsafe
        refine Or.inr ⟨hkeys, hcontroller.mp hsafe.reconciled, hpeer.mp ?_⟩
        exact hsafe.generated cluster hcl
      · rintro (h | ⟨-, hrange, hlarge⟩)
        · exact absurd h himp
        · constructor
          case imported =>
            rintro ⟨message, h⟩
            rw [hcl] at h
            cases h
          case reconciled => exact hcontroller.mpr hrange
          case generated =>
            intro cluster' h
            rw [hcl] at h
            cases h
            exact hpeer.mpr hlarge

end Result

/-! ## Objects that the webhook admits -/

private theorem sampleEnvironment_privateKey (privateKey : String) (keyPair : KeyPair)
    (h : (.error "could not parse private key" : Except String KeyPair) = .ok keyPair) :
    keyPair.privateKey = privateKey := by
  cases h

/-- An environment in which only the default CIDR parses. -/
private def sampleEnvironment : Environment where
  net := {
    parseCIDR := fun text =>
      if text = defaultVPNCIDR then some ⟨[10, 0, 0, 0], [255, 255, 0, 0]⟩ else none
    parseIP := fun _ => none
    ipString := fun _ => ""
    ipNetString := fun _ => "" }
  newKeyPairFromString := fun _ => .error "could not parse private key"
  newKeyPairFromString_privateKey := sampleEnvironment_privateKey
  defaultKubernetesVersion := "1.20.0"
  generatePrivateKey := .ok ⟨"private", "public"⟩

/-- A cluster object with a spec and nothing else. -/
private def objectOf (spec : V1alpha1.ClusterSpec) : V1alpha1.Cluster :=
  { name := "c", «namespace» := "ns", spec := spec }

/-- Three admitted objects on which the code panics: a disabled VPN with a CIDR
and no keys, an enabled VPN with a CIDR that does not parse, and a negative
number of replicas. -/
theorem admission_panics :
    ¬ AdmissionSafe sampleEnvironment
        (objectOf { vpn := some { enabled := false, cidr := some "10.0.0.0/16" } }) ∧
    ¬ AdmissionSafe sampleEnvironment
        (objectOf { vpn := some { enabled := true, cidr := some "10.0.0.0" } }) ∧
    ¬ AdmissionSafe sampleEnvironment (objectOf { controlPlaneReplicas := -1 }) := by
  refine ⟨fun h => h.imported ⟨_, rfl⟩, ?_, ?_⟩
  · intro h
    exact h.generated _ rfl rfl (.error "") "peer" ⟨_, _, rfl⟩
  · intro h
    refine h.reconciled (fun _ _ => none) (.ok []) ?_ ⟨_, _, rfl⟩
    intro components h'
    cases h'
    decide

end OneInfra.Controllers
