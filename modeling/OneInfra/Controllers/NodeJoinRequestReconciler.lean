import OneInfra.Cluster.JoinAnswers
import OneInfra.Lib.Reach

/-!
# Runs of the node join request reconciler

`controllers/node_join_request_reconciler.go`.  A run loads the stored cluster,
answers the requests of the managed cluster on that copy, and ends.  The copy is
never written back.

`JoinSystem` is what lasts between runs: the stored cluster, the requests and the
history of the peers that were handed out.  `VPNAddressesSafe` is the property of
such a state that two nodes do not share an address and that the ingress, which
reads the stored peers, knows every node.

The peers that a run generates are lost with its copy.  So the next run counts
the same number of peers and hands out the same address
(`reconcile_repeats_vpnAddress`).  The property holds along the runs that only
meet requests whose peers are stored already
(`vpnAddressesSafe_of_provisioned`).
-/

namespace OneInfra.Controllers

open Lib Conditions

/-- The stored cluster, the requests of the managed cluster, and the history of
`JoinRun`. -/
structure JoinSystem where
  cluster : V1alpha1.Cluster
  requests : List V1alpha1.NodeJoinRequest := []
  answers : List (String × VPNPeer) := []

/-- What happens to the system. -/
inductive JoinEvent
  | create (request : V1alpha1.NodeJoinRequest)
  | reconcile (outcomes : JoinOutcomes)

/-- The request was answered. -/
def IsIssued (request : V1alpha1.NodeJoinRequest) : Prop :=
  isCondition request.status.conditions NodeJoinRequest.issued .true = true

instance (request : V1alpha1.NodeJoinRequest) : Decidable (IsIssued request) :=
  inferInstanceAs (Decidable (_ = _))

namespace JoinSystem

variable (env : Environment) (cipher : Cipher)

/-- A node creates a request.  A name can be used once, and a status is not
taken from the creator. -/
def create (request : V1alpha1.NodeJoinRequest) (system : JoinSystem) : JoinSystem :=
  if request.name ∈ system.requests.map V1alpha1.NodeJoinRequest.name then system
  else { system with requests := system.requests ++ [{ request with status := {} }] }

/-- `Reconcile`. -/
def reconcile (outcomes : JoinOutcomes) (system : JoinSystem) : JoinSystem :=
  match newClusterFromv1alpha1 env system.cluster with
  | .error _ => system
  | .ok cluster =>
    if cluster.currentJoinTokens.length = 0 then system
    else
      let run := finalState ((Cluster.reconcileNodeJoinRequests env cipher outcomes).run
        ⟨cluster, system.requests, system.answers⟩)
      -- the cluster in memory is dropped here
      { system with requests := run.requests, answers := run.answers }

/-- One event. -/
def step (system : JoinSystem) : JoinEvent → JoinSystem
  | .create request => system.create request
  | .reconcile outcomes => system.reconcile env cipher outcomes

/-- Every answered request with a VPN status is in the history with the peer
whose texts it carries, nodes of different names have different addresses, and
the stored cluster has the peer of every node. -/
structure VPNAddressesSafe (system : JoinSystem) : Prop where
  recorded : ∀ request ∈ system.requests, IsIssued request →
    ∀ vpn, request.status.vpn = some vpn → ∃ vpnPeer joinKey symmetricKey,
      (request.name, vpnPeer) ∈ system.answers ∧
      newKeyPairFromv1alpha1 env system.cluster.spec.joinKey = .ok joinKey ∧
      NodeJoinRequest.importSymmetricKey cipher joinKey request.spec.symmetricKey =
        .ok symmetricKey ∧
      Cluster.Carries cipher symmetricKey vpn vpnPeer
  distinct : ∀ a ∈ system.answers, ∀ b ∈ system.answers, a.1 ≠ b.1 → a.2.address ≠ b.2.address
  stored : ∀ a ∈ system.answers, a.2 ∈ system.cluster.status.vpnPeers

/-- Every request that waits for an answer has its peer in the stored cluster,
and stored peers of different names have different addresses. -/
structure Provisioned (system : JoinSystem) : Prop where
  waiting : ∀ request ∈ system.requests, ¬ IsIssued request →
    ∃ vpnPeer ∈ system.cluster.status.vpnPeers,
      vpnPeer.name = Cluster.workerPeerName request.name
  addresses : ∀ a ∈ system.cluster.status.vpnPeers, ∀ b ∈ system.cluster.status.vpnPeers,
    a.name ≠ b.name → a.address ≠ b.address

/-- A run of the reconciler starts in a provisioned state. -/
def Allowed (system : JoinSystem) : JoinEvent → Prop
  | .create _ => True
  | .reconcile _ => system.Provisioned

/-! ## One run -/

section Loop

variable (outcomes : JoinOutcomes) {peers : VPNPeerMap} {joinKey : Option KeyPair}
  {specs : List (String × V1alpha1.NodeJoinRequestSpec)} {run : Cluster.JoinRun}

/-- What the loop over the requests keeps.  The cluster in memory still has the
peers and the join key that it was loaded with. -/
structure LoopInv (peers : VPNPeerMap) (joinKey : Option KeyPair)
    (specs : List (String × V1alpha1.NodeJoinRequestSpec)) (run : Cluster.JoinRun) : Prop where
  vpnPeers_eq : run.cluster.vpnPeers = peers
  joinKey_eq : run.cluster.joinKey = joinKey
  specs_eq : run.requests.map (fun request => (request.name, request.spec)) = specs
  waiting : ∀ request ∈ run.requests, ¬ IsIssued request → request.status.vpn = none
  answers : ∀ a ∈ run.answers, peers.lookup (Cluster.workerPeerName a.1) = some a.2
  recorded : ∀ request ∈ run.requests, IsIssued request →
    ∀ vpn, request.status.vpn = some vpn → ∃ vpnPeer symmetricKey,
      (request.name, vpnPeer) ∈ run.answers ∧
      NodeJoinRequest.importSymmetricKey cipher joinKey request.spec.symmetricKey =
        .ok symmetricKey ∧
      Cluster.Carries cipher symmetricKey vpn vpnPeer

variable {cipher}

/-- The loop invariant does not depend on the rest of the cluster. -/
theorem LoopInv.of_cluster {cluster : Cluster} (hinv : LoopInv cipher peers joinKey specs run)
    (hpeers : cluster.vpnPeers = run.cluster.vpnPeers)
    (hjoinKey : cluster.joinKey = run.cluster.joinKey) :
    LoopInv cipher peers joinKey specs { run with cluster := cluster } :=
  { hinv with
    vpnPeers_eq := hpeers.trans hinv.vpnPeers_eq
    joinKey_eq := hjoinKey.trans hinv.joinKey_eq }

/-- A request that is put with the VPN status of its peer, or with none, keeps
the invariant. -/
theorem LoopInv.putNodeJoinRequest (hinv : LoopInv cipher peers joinKey specs run)
    {spec : V1alpha1.NodeJoinRequestSpec} {r : NodeJoinRequest} {sk : String}
    (hspec : ∀ request ∈ run.requests, request.name = r.name → request.spec = spec)
    (hkey : NodeJoinRequest.importSymmetricKey cipher joinKey spec.symmetricKey = .ok sk)
    (hvpn : r.vpn = none ∨ ∃ vpn vpnPeer, r.vpn = some vpn ∧
      peers.lookup (Cluster.workerPeerName r.name) = some vpnPeer ∧
      Cluster.Carries cipher sk vpn vpnPeer) :
    LoopInv cipher peers joinKey specs (Cluster.putNodeJoinRequest outcomes r run) := by
  rw [Cluster.putNodeJoinRequest_eq]
  split_ifs with hput
  swap
  · exact hinv
  have hanswer : ∀ vpn vpnPeer, r.vpn = some vpn →
      peers.lookup (Cluster.workerPeerName r.name) = some vpnPeer →
      Cluster.answer run.cluster r = [(r.name, vpnPeer)] := by
    intro vpn vpnPeer hsome hlk
    rw [← hinv.vpnPeers_eq] at hlk
    simp [Cluster.answer, hsome, Cluster.vpnPeer, hlk]
  refine ⟨hinv.vpnPeers_eq, hinv.joinKey_eq, ?_, ?_, ?_, ?_⟩
  · rw [← hinv.specs_eq]
    exact map_modifyKey fun _ => rfl
  · intro request hmem hwait
    rcases mem_modifyKey.mp hmem with ⟨hold, -⟩ | ⟨old, -, -, rfl⟩
    · exact hinv.waiting request hold hwait
    · exact absurd isCondition_setCondition hwait
  · intro a ha
    rcases List.mem_append.mp ha with hold | hnew
    · exact hinv.answers a hold
    rcases hvpn with hnone | ⟨vpn, vpnPeer, hsome, hlk, -⟩
    · simp [Cluster.answer, hnone] at hnew
    · rw [hanswer vpn vpnPeer hsome hlk, List.mem_singleton] at hnew
      rw [hnew]
      exact hlk
  · intro request hmem hreq vpn hsome
    rcases mem_modifyKey.mp hmem with ⟨hold, -⟩ | ⟨old, hold, hname, rfl⟩
    · obtain ⟨vpnPeer, key, hentry, hrest⟩ := hinv.recorded request hold hreq vpn hsome
      exact ⟨vpnPeer, key, List.mem_append_left _ hentry, hrest⟩
    · replace hsome : r.vpn = some vpn := hsome
      rcases hvpn with hnone | ⟨vpn', vpnPeer, hvpn', hlk, hcarries⟩
      · rw [hnone] at hsome
        cases hsome
      · obtain rfl : vpn' = vpn := Option.some_inj.mp (hvpn'.symm.trans hsome)
        refine ⟨vpnPeer, sk, List.mem_append_right _ ?_, ?_, hcarries⟩
        · rw [hanswer vpn' vpnPeer hvpn' hlk, hname]
          exact List.mem_singleton_self _
        · rw [hspec old hold hname]
          exact hkey

/-- One request keeps the invariant, if its peer is known. -/
theorem loopInv_reconcileNodeJoinRequest (hnd : (specs.map Prod.fst).Nodup)
    {item : V1alpha1.NodeJoinRequest} (hspec : (item.name, item.spec) ∈ specs)
    (hitem : ¬ IsIssued item → item.status.vpn = none ∧
      (peers.lookup (Cluster.workerPeerName item.name)).isSome) :
    Guarantees (fun run run' => LoopInv cipher peers joinKey specs run →
        LoopInv cipher peers joinKey specs run')
      (Cluster.reconcileNodeJoinRequest env cipher outcomes item) := by
  intro run hinv
  show LoopInv cipher peers joinKey specs
    (finalState (Cluster.reconcileNodeJoinRequest env cipher outcomes item run))
  unfold Cluster.reconcileNodeJoinRequest
  rw [hinv.joinKey_eq]
  cases himp : NodeJoinRequest.newNodeJoinRequestFromv1alpha1 cipher item joinKey with
  | error message => exact hinv
  | ok r =>
    have hr := NodeJoinRequest.isImport_of_ok himp
    dsimp only
    split_ifs with hissued
    · exact hinv
    rw [hr.conditions] at hissued
    obtain ⟨hnone, hpeer⟩ := hitem hissued
    rw [← hr.name, ← hinv.vpnPeers_eq] at hpeer
    have hkeeps := Cluster.generates_fillNodeJoinRequest env cipher outcomes r run.cluster
    cases hfill : (Cluster.fillNodeJoinRequest env cipher outcomes r).run run.cluster with
    | error fault cluster =>
      rw [hfill] at hkeeps
      cases fault <;> exact hinv.of_cluster (hkeeps.vpnPeers_of_isSome hpeer) hkeeps.joinKey
    | ok r' cluster =>
      rw [hfill] at hkeeps
      have hinv' := hinv.of_cluster (hkeeps.vpnPeers_of_isSome hpeer) hkeeps.joinKey
      obtain ⟨hsame, hdisabled, _, _, -, -, hanswered⟩ :=
        Cluster.fillNodeJoinRequest_ok env cipher outcomes hfill
      refine hinv'.putNodeJoinRequest outcomes ?_ hr.symmetricKey ?_
      · -- the stored request of that name still has the spec that was listed
        intro request hmem hreq
        have hpair : (request.name, request.spec) ∈ specs := by
          rw [← hinv.specs_eq]
          exact List.mem_map_of_mem hmem
        exact congrArg Prod.snd (List.inj_on_of_nodup_map hnd hpair hspec
          (hreq.trans (hsame.name.trans hr.name)))
      · cases henb : run.cluster.vpn.enabled with
        | false => exact .inl ((hdisabled henb).trans (hr.vpn.trans hnone))
        | true =>
          obtain ⟨vpn, vpnPeer, hsome, hlk, hcarries⟩ := hanswered.vpn henb
          refine .inr ⟨vpn, vpnPeer, hsome, ?_, hcarries.toCarries⟩
          rw [hsame.name, ← hinv'.vpnPeers_eq]
          exact hlk

/-- A run keeps the invariant, if the peers of all requests are known. -/
theorem LoopInv.reconcileNodeJoinRequests (hnd : (specs.map Prod.fst).Nodup)
    (hpeers : ∀ request ∈ run.requests, ¬ IsIssued request →
      (peers.lookup (Cluster.workerPeerName request.name)).isSome)
    (hinv : LoopInv cipher peers joinKey specs run) :
    LoopInv cipher peers joinKey specs
      (finalState ((Cluster.reconcileNodeJoinRequests env cipher outcomes).run run)) := by
  have hloop : Guarantees (fun run run' => LoopInv cipher peers joinKey specs run →
        LoopInv cipher peers joinKey specs run')
      (run.requests.forM (Cluster.reconcileNodeJoinRequest env cipher outcomes)) := by
    refine .forM (fun _ => id) (fun _ _ _ h h' => h' ∘ h) fun item hitem => ?_
    refine loopInv_reconcileNodeJoinRequest env outcomes hnd ?_ fun hwait =>
      ⟨hinv.waiting item hitem hwait, hpeers item hitem hwait⟩
    rw [← hinv.specs_eq]
    exact List.mem_map_of_mem hitem
  obtain ⟨cluster, hsame, hrun⟩ := Cluster.reconcileNodeJoinRequests_cases env cipher outcomes run
  have hloaded : LoopInv cipher peers joinKey specs { run with cluster := cluster } := by
    rw [hsame.cluster]
    exact hinv.of_cluster rfl rfl
  rcases hrun with hrun | hrun
  · rw [hrun]
    exact hloaded
  · rw [hrun]
    exact hloop _ hloaded

end Loop

/-! ## All runs -/

/-- What every event keeps, if the runs start in provisioned states.  A peer that
was handed out is the one that an import finds for the request. -/
structure JoinInv (system : JoinSystem) : Prop where
  nodup : (system.requests.map V1alpha1.NodeJoinRequest.name).Nodup
  waiting : ∀ request ∈ system.requests, ¬ IsIssued request → request.status.vpn = none
  answers : ∀ a ∈ system.answers, (newVPNPeersFromv1alpha1 system.cluster.status.vpnPeers).lookup
    (Cluster.workerPeerName a.1) = some a.2
  safe : VPNAddressesSafe env cipher system

variable {env cipher} {system : JoinSystem}

theorem JoinInv.create (hinv : JoinInv env cipher system) (request : V1alpha1.NodeJoinRequest) :
    JoinInv env cipher (system.create request) := by
  unfold JoinSystem.create
  split_ifs with htaken
  · exact hinv
  · have hold : ∀ r ∈ system.requests ++ [{ request with status := {} }], IsIssued r →
        r ∈ system.requests := by
      intro r hr hissued
      rcases List.mem_append.mp hr with hr | hr
      · exact hr
      · rw [List.mem_singleton.mp hr] at hissued
        cases hissued
    refine ⟨nodup_map_concat hinv.nodup htaken, ?_, hinv.answers, ?_, hinv.safe.distinct,
      hinv.safe.stored⟩
    · intro r hr hwait
      rcases List.mem_append.mp hr with hr | hr
      · exact hinv.waiting r hr hwait
      · rw [List.mem_singleton.mp hr]
    · exact fun r hr hissued => hinv.safe.recorded r (hold r hr hissued) hissued

/-- The peers of different requests are stored peers of different names. -/
theorem distinct_of_answers {cluster : V1alpha1.Cluster} {answers : List (String × VPNPeer)}
    (haddrs : ∀ a ∈ cluster.status.vpnPeers, ∀ b ∈ cluster.status.vpnPeers,
      a.name ≠ b.name → a.address ≠ b.address)
    (hanswers : ∀ a ∈ answers, (newVPNPeersFromv1alpha1 cluster.status.vpnPeers).lookup
      (Cluster.workerPeerName a.1) = some a.2) :
    ∀ a ∈ answers, ∀ b ∈ answers, a.1 ≠ b.1 → a.2.address ≠ b.2.address := by
  intro a ha b hb hne
  obtain ⟨hmem, hname⟩ := lookup_newVPNPeersFromv1alpha1 (hanswers a ha)
  obtain ⟨hmem', hname'⟩ := lookup_newVPNPeersFromv1alpha1 (hanswers b hb)
  refine haddrs _ hmem _ hmem' ?_
  rw [hname, hname']
  exact fun h => hne ((String.append_right_inj "worker-").mp h)

theorem JoinInv.reconcile (hinv : JoinInv env cipher system) (hprovisioned : system.Provisioned)
    (outcomes : JoinOutcomes) : JoinInv env cipher (system.reconcile env cipher outcomes) := by
  unfold JoinSystem.reconcile
  cases himp : newClusterFromv1alpha1 env system.cluster with
  | error fault => exact hinv
  | ok cluster =>
    dsimp only
    split_ifs with htokens
    · exact hinv
    obtain ⟨hjoinKey, hpeers⟩ := newClusterFromv1alpha1_ok himp
    have hnd : ((system.requests.map fun request => (request.name, request.spec)).map
        Prod.fst).Nodup := by
      rw [List.map_map]
      exact hinv.nodup
    have hstart : LoopInv cipher (newVPNPeersFromv1alpha1 system.cluster.status.vpnPeers)
        cluster.joinKey (system.requests.map fun request => (request.name, request.spec))
        ⟨cluster, system.requests, system.answers⟩ := by
      refine ⟨hpeers, rfl, rfl, hinv.waiting, hinv.answers, ?_⟩
      intro request hmem hissued vpn hvpn
      obtain ⟨vpnPeer, joinKey, key, hentry, hjoinKey', hkey, hcarries⟩ :=
        hinv.safe.recorded request hmem hissued vpn hvpn
      obtain rfl : joinKey = cluster.joinKey := Except.ok.inj (hjoinKey'.symm.trans hjoinKey)
      exact ⟨vpnPeer, key, hentry, hkey, hcarries⟩
    have hwait : ∀ request ∈ system.requests, ¬ IsIssued request →
        ((newVPNPeersFromv1alpha1 system.cluster.status.vpnPeers).lookup
          (Cluster.workerPeerName request.name)).isSome := by
      intro request hmem hwait
      obtain ⟨vpnPeer, hst, hname⟩ := hprovisioned.waiting request hmem hwait
      rw [← hname]
      exact isSome_lookup_newVPNPeersFromv1alpha1 hst
    have hend := hstart.reconcileNodeJoinRequests env outcomes hnd hwait
    refine ⟨?_, hend.waiting, hend.answers, ?_, ?_, ?_⟩
    · have hnames := congrArg (List.map Prod.fst) hend.specs_eq
      rw [List.map_map] at hnames
      exact hnames ▸ hnd
    · intro request hmem hissued vpn hvpn
      obtain ⟨vpnPeer, key, hentry, hkey, hcarries⟩ :=
        hend.recorded request hmem hissued vpn hvpn
      exact ⟨vpnPeer, cluster.joinKey, key, hentry, hjoinKey, hkey, hcarries⟩
    · exact distinct_of_answers hprovisioned.addresses hend.answers
    · exact fun a ha => (lookup_newVPNPeersFromv1alpha1 (hend.answers a ha)).1

/-- Along the runs that start in provisioned states, nodes of different names
have different VPN addresses and the stored cluster has all their peers. -/
theorem vpnAddressesSafe_of_provisioned {start : V1alpha1.Cluster}
    (hrun : Reaches (step env cipher) Allowed ⟨start, [], []⟩ system) :
    VPNAddressesSafe env cipher system := by
  refine (hrun.invariant (P := JoinInv env cipher) ?_ ?_).safe
  · intro s event hinv hallowed
    cases event with
    | create request => exact hinv.create request
    | reconcile outcomes => exact hinv.reconcile hallowed outcomes
  · exact ⟨List.nodup_nil, by simp, by simp, by simp, by simp, by simp⟩

/-! ## Two runs on given inputs -/

/-- IPv4 texts, and keys that always parse. -/
def ipv4Environment : Environment where
  net := .ipv4
  newKeyPairFromString privateKey := .ok ⟨privateKey, privateKey⟩
  newKeyPairFromString_privateKey := by
    intro privateKey keyPair h
    cases h
    rfl
  defaultKubernetesVersion := "1.19.3"
  generatePrivateKey := .error "unused"

/-- The cipher that hides nothing. -/
def plainCipher : Cipher where
  encrypt _ _ content := .ok content
  decrypt _ content := .ok content
  decryptKey _ content := .ok content
  decrypt_encrypt := Cipher.decrypt_plain

/-- A run in which every call succeeds. -/
def goodOutcomes : JoinOutcomes where
  now := 0
  restClientFromKubeConfig _ := .ok ()
  listError := none
  nonce _ _ := .ok ""
  encryptKey _ content := .ok content
  createCertificate _ commonName _ _ := .ok ⟨commonName, commonName⟩
  encodeKubeConfig _ := some ""
  encodeKubeletConfig _ := .ok ""
  generatePrivateKey peerName := .ok ⟨"private " ++ peerName, "public " ++ peerName⟩
  put _ := true

/-- A cluster with a VPN and the given peers. -/
def vpnCluster (vpnPeers : List VPNPeer) : V1alpha1.Cluster where
  name := "cluster"
  «namespace» := "default"
  spec := {
    certificateAuthorities := some { kubeletClient := some ⟨"", ""⟩ }
    apiServer := some { ca := some ⟨"", ""⟩ }
    vpn := some ⟨true, some "private", some "public", some "10.0.0.0/16"⟩
    networking := some { serviceCIDR := "10.96.0.0/12" } }
  status := { vpnPeers := vpnPeers, joinTokens := ["abcdef.0123456789abcdef"] }

/-- A node joins, and after a run that answers it another one does. -/
def twoJoins : List JoinEvent :=
  [.create { name := "a" }, .reconcile goodOutcomes, .create { name := "b" },
    .reconcile goodOutcomes]

/-- Two runs with a new request each hand out one address twice. -/
theorem reconcile_repeats_vpnAddress :
    (∀ request ∈ (twoJoins.foldl (step ipv4Environment plainCipher)
        ⟨vpnCluster [], [], []⟩).requests, IsIssued request) ∧
      ¬ VPNAddressesSafe ipv4Environment plainCipher
        (twoJoins.foldl (step ipv4Environment plainCipher) ⟨vpnCluster [], [], []⟩) := by
  refine ⟨by decide +kernel, fun hsafe => ?_⟩
  have hanswers : (twoJoins.foldl (step ipv4Environment plainCipher)
      ⟨vpnCluster [], [], []⟩).answers =
      [("a", ⟨"worker-a", "10.0.0.1/16", "private worker-a", "public worker-a"⟩),
        ("b", ⟨"worker-b", "10.0.0.1/16", "private worker-b", "public worker-b"⟩)] := by
    decide +kernel
  have hdist := hsafe.distinct
  rw [hanswers] at hdist
  exact hdist _ List.mem_cons_self _ (List.mem_cons_of_mem _ List.mem_cons_self)
    (by decide) rfl

/-- The stored cluster already has the peers of the nodes that join. -/
def storedPeers : JoinSystem :=
  ⟨vpnCluster [⟨"worker-a", "10.0.0.1/16", "private a", "public a"⟩,
    ⟨"worker-b", "10.0.0.2/16", "private b", "public b"⟩], [], []⟩

/-- Two runs with a new request each answer with the stored peers. -/
theorem vpnAddressesSafe_storedPeer :
    Reaches (step ipv4Environment plainCipher) Allowed storedPeers
        (twoJoins.foldl (step ipv4Environment plainCipher) storedPeers) ∧
      VPNAddressesSafe ipv4Environment plainCipher
        (twoJoins.foldl (step ipv4Environment plainCipher) storedPeers) ∧
      (twoJoins.foldl (step ipv4Environment plainCipher) storedPeers).answers =
        [("a", ⟨"worker-a", "10.0.0.1/16", "private a", "public a"⟩),
          ("b", ⟨"worker-b", "10.0.0.2/16", "private b", "public b"⟩)] := by
  have hfirst : (storedPeers.create { name := "a" }).Provisioned := by
    refine ⟨?_, ?_⟩ <;> decide +kernel
  have hsecond : (((storedPeers.create { name := "a" }).reconcile ipv4Environment plainCipher
      goodOutcomes).create { name := "b" }).Provisioned := by
    refine ⟨?_, ?_⟩ <;> decide +kernel
  have hrun : Reaches (step ipv4Environment plainCipher) Allowed storedPeers
      (twoJoins.foldl (step ipv4Environment plainCipher) storedPeers) :=
    reaches_foldl ⟨trivial, hfirst, trivial, hsecond, trivial⟩
  exact ⟨hrun, vpnAddressesSafe_of_provisioned hrun, by decide +kernel⟩

end JoinSystem

end OneInfra.Controllers
