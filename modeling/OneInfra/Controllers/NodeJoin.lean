import OneInfra.Controllers.NodeJoinRequestReconciler
import OneInfra.Node.Join

/-!
# The node join protocol

The two programs of a join together.  `internal/pkg/node/join.go` creates a
request, runs of `ReconcileNodeJoinRequests` answer it, and the node decrypts the
answer with its own decryptor.  Between the runs other nodes create requests, and
the stored cluster changes in every way but one: its join key stays.

A request is stored without a status until one run answers it, and it does not
change afterwards.  What the node reads from the answer is what that run had
(`delivered_of_issued`).
-/

namespace OneInfra.Node

open Lib SymmetricKey

/-- The cipher as the node has it. -/
def cipher (prims : CryptoPrimitives) : Cipher where
  encrypt := SymmetricKey.encrypt prims
  decrypt := decrypt prims
  decryptKey := prims.decryptKey
  decrypt_encrypt _ _ _ _ h := by
    rw [decrypt_eq (encrypt_eq_ok.mp h).1]
    exact decrypt_of_encrypt_eq_ok h

end OneInfra.Node

namespace OneInfra.Controllers

open Lib Conditions

/-- What happens during a join. -/
inductive ProtocolEvent
  | create (request : V1alpha1.NodeJoinRequest)
  | reconcile (outcomes : JoinOutcomes)
  | update (cluster : V1alpha1.Cluster)

namespace JoinSystem

/-- One event. -/
def protocolStep (env : Environment) (cipher : Cipher) (system : JoinSystem) :
    ProtocolEvent → JoinSystem
  | .create request => system.create request
  | .reconcile outcomes => system.reconcile env cipher outcomes
  | .update cluster => { system with cluster := cluster }

/-- The join key of the stored cluster stays. -/
def FixedJoinKey (system : JoinSystem) : ProtocolEvent → Prop
  | .create _ => True
  | .reconcile _ => True
  | .update cluster => cluster.spec.joinKey = system.cluster.spec.joinKey

variable (env : Environment) (prims : CryptoPrimitives)

/-- The end of a run on the loaded cluster. -/
def reconciled (outcomes : JoinOutcomes) (cluster : Cluster) (system : JoinSystem) :
    Cluster.JoinRun :=
  finalState ((Cluster.reconcileNodeJoinRequests env prims.cipher outcomes).run
    ⟨cluster, system.requests, system.answers⟩)

/-- What the node reads from a status: the answer of a run that loaded `cluster`
and had `cluster'` in memory at its end. -/
structure Delivered (outcomes : JoinOutcomes) (cluster cluster' : Cluster)
    (args : Node.JoinArguments) (sk : String)
    (status : V1alpha1.NodeJoinRequestStatus) : Prop where
  answered : Cluster.Answered env (Node.cipher prims) outcomes cluster cluster' args.nodename
    sk args.apiServerEndpoint args.extraSANs status
  vpn : status.vpn.isSome = cluster.vpn.enabled

/-! ## One run -/

section Loop

variable {env prims} {outcomes : JoinOutcomes} {cluster : Cluster} {args : Node.JoinArguments}
  {sk : String} {item : V1alpha1.NodeJoinRequest} {run : Cluster.JoinRun}

/-- The node can be answered: its request is waiting, and has its key and its
texts. -/
structure Waits (prims : CryptoPrimitives) (joinKey : Option KeyPair) (args : Node.JoinArguments)
    (sk : String) (item : V1alpha1.NodeJoinRequest) : Prop where
  validSize : SymmetricKey.ValidSize sk
  name : item.name = args.nodename
  status : item.status = {}
  key : NodeJoinRequest.importSymmetricKey prims.cipher joinKey item.spec.symmetricKey = .ok sk
  sent : Node.Sent prims args sk item.spec

/-- What the loop of a run on `cluster` keeps for the request that was listed as
`item`: it is unchanged, or it was waiting and has its answer. -/
structure RunInv (env : Environment) (prims : CryptoPrimitives) (outcomes : JoinOutcomes)
    (cluster : Cluster) (args : Node.JoinArguments) (sk : String)
    (item : V1alpha1.NodeJoinRequest) (run : Cluster.JoinRun) : Prop where
  loaded : Cluster.Extends cluster run.cluster
  request : ∃ stored, OnlyAt V1alpha1.NodeJoinRequest.name item.name run.requests stored ∧
    (stored = item ∨ ¬ IsIssued item ∧ stored.spec = item.spec ∧ IsIssued stored ∧
      Delivered env prims outcomes cluster run.cluster args sk stored.status)

theorem RunInv.of_cluster {cluster' : Cluster}
    (hinv : RunInv env prims outcomes cluster args sk item run)
    (hextends : Cluster.Extends run.cluster cluster') :
    RunInv env prims outcomes cluster args sk item { run with cluster := cluster' } := by
  refine ⟨hinv.loaded.trans _ _ _ hextends, ?_⟩
  obtain ⟨stored, honly, hsame | ⟨hwait, hspec, hissued, hdelivered⟩⟩ := hinv.request
  · exact ⟨stored, honly, .inl hsame⟩
  · exact ⟨stored, honly, .inr ⟨hwait, hspec, hissued,
      hdelivered.answered.mono hextends, hdelivered.vpn⟩⟩

/-- A filled request is one that the node can read. -/
theorem delivered_of_fillNodeJoinRequest {c c' : Cluster} {r r' : NodeJoinRequest}
    (hwaits : Waits prims cluster.joinKey args sk item)
    (hloaded : Cluster.Extends cluster c)
    (hr : NodeJoinRequest.IsImport prims.cipher item cluster.joinKey r)
    (hfill : (Cluster.fillNodeJoinRequest env prims.cipher outcomes r).run c = .ok r' c') :
    Delivered env prims outcomes cluster c' args sk
      (Cluster.issuedStatus outcomes r') := by
  have hkey : r.symmetricKey = sk :=
    Except.ok.inj (hr.symmetricKey.symm.trans hwaits.key)
  obtain ⟨hsame, hdisabled, ep, extraSANs, hep, hextraSANs, hanswered⟩ :=
    Cluster.fillNodeJoinRequest_ok env prims.cipher outcomes hfill
  -- the texts of the request open to what the node sent
  obtain rfl : ep = args.apiServerEndpoint := by
    rw [Cluster.EndpointOf, hr.apiServerEndpoint, if_neg hwaits.sent.endpoint_ne, hkey] at hep
    exact Except.ok.inj (hep.symm.trans hwaits.sent.apiServerEndpoint)
  obtain rfl : extraSANs = args.extraSANs := by
    rw [hr.extraSANs, hkey] at hextraSANs
    exact Except.ok.inj (hextraSANs.symm.trans hwaits.sent.extraSANs)
  rw [hr.name, hwaits.name, hkey] at hanswered
  have hdec : (Node.cipher prims).decrypt sk = prims.cipher.decrypt sk :=
    Node.decrypt_eq hwaits.validSize
  have hnode := (hanswered.of_extends hloaded).of_decrypt_eq hdec
  refine ⟨⟨hnode.kubernetesVersion, hnode.kubeConfig, hnode.kubeletConfig, hnode.kubeletServer,
    hnode.kubeletClientCA, hnode.vpn⟩, ?_⟩
  show r'.vpn.isSome = cluster.vpn.enabled
  cases henb : cluster.vpn.enabled with
  | true =>
    obtain ⟨vpn, vpnPeer, hvpn, -⟩ := hnode.vpn henb
    rw [show r'.vpn = some vpn from hvpn]
    rfl
  | false =>
    have hoff : c.vpn.enabled = false := by
      rw [hloaded.cluster]
      exact henb
    rw [hdisabled hoff, hr.vpn, hwaits.status]
    rfl

/-- One listed request keeps the invariant. -/
theorem runInv_reconcileNodeJoinRequest
    (hwaits : ¬ IsIssued item → Waits prims cluster.joinKey args sk item)
    {listed : V1alpha1.NodeJoinRequest} (hlisted : listed.name = item.name → listed = item) :
    Guarantees (fun run run' => RunInv env prims outcomes cluster args sk item run →
        RunInv env prims outcomes cluster args sk item run')
      (Cluster.reconcileNodeJoinRequest env prims.cipher outcomes listed) := by
  intro run hinv
  show RunInv env prims outcomes cluster args sk item
    (finalState (Cluster.reconcileNodeJoinRequest env prims.cipher outcomes listed run))
  unfold Cluster.reconcileNodeJoinRequest
  rw [hinv.loaded.joinKey]
  cases himp : NodeJoinRequest.newNodeJoinRequestFromv1alpha1 prims.cipher listed
      cluster.joinKey with
  | error message => exact hinv
  | ok r =>
    have hr := NodeJoinRequest.isImport_of_ok himp
    dsimp only
    split_ifs with hissued
    · exact hinv
    have hgen :=
      Cluster.generates_fillNodeJoinRequest env prims.cipher outcomes r run.cluster
    cases hfill : (Cluster.fillNodeJoinRequest env prims.cipher outcomes r).run run.cluster with
    | error fault c =>
      rw [hfill] at hgen
      cases fault <;> exact hinv.of_cluster hgen.toExtends
    | ok r' c =>
      rw [hfill] at hgen
      have hinv' := hinv.of_cluster hgen.toExtends
      have hname : r'.name = listed.name :=
        (Cluster.fillNodeJoinRequest_ok env prims.cipher outcomes hfill).1.name.trans hr.name
      dsimp only
      rw [finalState_ok, Cluster.putNodeJoinRequest_eq]
      split_ifs with hput
      swap
      · exact hinv'
      obtain ⟨stored, honly, hst⟩ := hinv'.request
      refine ⟨hinv'.loaded, ?_⟩
      by_cases hown : r'.name = item.name
      · -- the request of the node is put, with the answer to what was listed
        obtain rfl := hlisted (hname.symm.trans hown)
        rw [hr.conditions] at hissued
        have hspec : stored.spec = listed.spec := by
          rcases hst with rfl | ⟨-, hspec, -⟩
          · rfl
          · exact hspec
        refine ⟨{ stored with
          resourceVersion := stored.resourceVersion + 1
          status := Cluster.issuedStatus outcomes r' }, ?_, .inr ⟨hissued, hspec,
          isCondition_setCondition,
          delivered_of_fillNodeJoinRequest (hwaits hissued) hinv.loaded hr hfill⟩⟩
        rw [hname]
        exact honly.modifyKey_self fun _ => rfl
      · exact ⟨stored, honly.modifyKey_ne hown fun _ => rfl, hst⟩

/-- A run keeps the invariant. -/
theorem runInv_reconciled {system : JoinSystem}
    (honly : OnlyAt V1alpha1.NodeJoinRequest.name item.name system.requests item)
    (hwaits : ¬ IsIssued item → Waits prims cluster.joinKey args sk item) :
    RunInv env prims outcomes cluster args sk item
      (reconciled env prims outcomes cluster system) := by
  obtain ⟨cluster', hsame, hrun⟩ := Cluster.reconcileNodeJoinRequests_cases env prims.cipher
    outcomes ⟨cluster, system.requests, system.answers⟩
  have hstart : RunInv env prims outcomes cluster args sk item
      ⟨cluster', system.requests, system.answers⟩ := ⟨hsame.extends, item, honly, .inl rfl⟩
  have hloop : Guarantees (fun run run' =>
        RunInv env prims outcomes cluster args sk item run →
        RunInv env prims outcomes cluster args sk item run')
      (system.requests.forM (Cluster.reconcileNodeJoinRequest env prims.cipher outcomes)) := by
    refine .forM (fun _ => id) (fun _ _ _ h h' => h' ∘ h) fun listed hmem => ?_
    exact runInv_reconcileNodeJoinRequest hwaits fun hname => (honly listed).mp ⟨hmem, hname⟩
  unfold reconciled
  rcases hrun with hrun | hrun
  · rw [hrun]
    exact hstart
  · rw [hrun]
    exact hloop _ hstart

end Loop

/-! ## All runs -/

section Protocol

variable {env prims} {outcomes : JoinOutcomes} {args : Node.JoinArguments}
  {sk : String} {joinKey : KeyPair} {start before after later system : JoinSystem}
  {request stored : V1alpha1.NodeJoinRequest}

/-- Protocol runs of which the join key of the cluster is not changed. -/
abbrev Runs (env : Environment) (prims : CryptoPrimitives) : JoinSystem → JoinSystem → Prop :=
  Reaches (protocolStep env prims.cipher) FixedJoinKey

/-- A run leaves the requests as they are, or it is one on the loaded cluster. -/
theorem reconcile_requests (outcomes : JoinOutcomes) (system : JoinSystem) :
    (system.reconcile env prims.cipher outcomes).requests = system.requests ∨
      ∃ cluster, newClusterFromv1alpha1 env system.cluster = .ok cluster ∧
        (system.reconcile env prims.cipher outcomes).requests =
          (reconciled env prims outcomes cluster system).requests := by
  unfold JoinSystem.reconcile
  cases himp : newClusterFromv1alpha1 env system.cluster with
  | error fault => exact .inl rfl
  | ok cluster =>
    dsimp only
    split_ifs with htokens
    · exact .inl rfl
    · exact .inr ⟨cluster, rfl, rfl⟩

/-- The stored cluster after a run is the one before it. -/
theorem reconcile_cluster (outcomes : JoinOutcomes) (system : JoinSystem) :
    (system.reconcile env prims.cipher outcomes).cluster = system.cluster := by
  unfold JoinSystem.reconcile
  cases newClusterFromv1alpha1 env system.cluster with
  | error fault => rfl
  | ok cluster =>
    dsimp only
    split_ifs <;> rfl

/-- The join key of the stored cluster is the same after an event. -/
theorem joinKey_protocolStep {event : ProtocolEvent} (hfixed : FixedJoinKey system event) :
    (protocolStep env prims.cipher system event).cluster.spec.joinKey =
      system.cluster.spec.joinKey := by
  cases event with
  | create other =>
    show (system.create other).cluster.spec.joinKey = _
    unfold JoinSystem.create
    split_ifs <;> rfl
  | update cluster => exact hfixed
  | reconcile outcomes =>
    exact congrArg (fun cluster => cluster.spec.joinKey) (reconcile_cluster outcomes system)

/-- A request under a name that is taken is not created. -/
theorem onlyAt_create {name : String}
    (honly : OnlyAt V1alpha1.NodeJoinRequest.name name system.requests stored)
    (other : V1alpha1.NodeJoinRequest) :
    OnlyAt V1alpha1.NodeJoinRequest.name name (system.create other).requests stored := by
  unfold JoinSystem.create
  split_ifs with htaken
  · exact honly
  · refine honly.concat fun hname => htaken ?_
    obtain ⟨hmem, hst⟩ := honly.mem
    exact List.mem_map.mpr ⟨stored, hmem, hst.trans hname.symm⟩

/-- An answered request does not change. -/
theorem onlyAt_of_runs (hissued : IsIssued stored)
    (honly : OnlyAt V1alpha1.NodeJoinRequest.name stored.name after.requests stored)
    (hrun : Runs env prims after later) :
    OnlyAt V1alpha1.NodeJoinRequest.name stored.name later.requests stored := by
  refine hrun.invariant
    (P := fun s => OnlyAt V1alpha1.NodeJoinRequest.name stored.name s.requests stored) ?_ honly
  intro s event honly _
  cases event with
  | create other => exact onlyAt_create honly other
  | update cluster => exact honly
  | reconcile outcomes =>
    show OnlyAt _ _ (s.reconcile env prims.cipher outcomes).requests stored
    rcases reconcile_requests outcomes s with hsame | ⟨cluster, -, hreqs⟩
    · rw [hsame]
      exact honly
    · have hinv : RunInv env prims outcomes cluster ⟨"", "", "", "", []⟩ "" stored
          (reconciled env prims outcomes cluster s) :=
        runInv_reconciled honly fun hwait => absurd hissued hwait
      obtain ⟨stored', honly', rfl | ⟨hwait, -⟩⟩ := hinv.request
      · rw [hreqs]
        exact honly'
      · exact absurd hissued hwait

/-- How far the request of the node has come: it waits, or some run in the past
answered it. -/
structure Progress (env : Environment) (prims : CryptoPrimitives) (joinKey : KeyPair)
    (args : Node.JoinArguments) (sk : String) (start : JoinSystem)
    (request : V1alpha1.NodeJoinRequest) (system : JoinSystem) : Prop where
  runs : Runs env prims start system
  joinKey : newKeyPairFromv1alpha1 env system.cluster.spec.joinKey = .ok (some joinKey)
  request : ∃ stored,
    OnlyAt V1alpha1.NodeJoinRequest.name args.nodename system.requests stored ∧
    stored.spec = request.spec ∧ (stored.status = {} ∨ IsIssued stored ∧
      ∃ before outcomes cluster, Runs env prims start before ∧
        Runs env prims (before.reconcile env prims.cipher outcomes) system ∧
        newClusterFromv1alpha1 env before.cluster = .ok cluster ∧
        Delivered env prims outcomes cluster (reconciled env prims outcomes cluster before).cluster
          args sk stored.status)

/-- A request that waits and was made by the node is one that can be answered. -/
theorem Progress.waits (hprogress : Progress env prims joinKey args sk start request system)
    (hpair : prims.IsPair joinKey) (hsize : SymmetricKey.ValidSize sk)
    {random : Node.JoinRandom}
    (hkey : prims.encryptKey joinKey.publicKey random.symmetricKey sk =
      .ok request.spec.symmetricKey)
    (hsent : Node.Sent prims args sk request.spec) {cluster : Cluster}
    (himp : newClusterFromv1alpha1 env system.cluster = .ok cluster)
    (hname : stored.name = args.nodename) (hspec : stored.spec = request.spec)
    (hstat : stored.status = {}) :
    Waits prims cluster.joinKey args sk stored := by
  have hjoinKey : cluster.joinKey = some joinKey := by
    have hloaded := (newClusterFromv1alpha1_ok himp).1
    rw [hprogress.joinKey] at hloaded
    exact (Except.ok.inj hloaded).symm
  refine ⟨hsize, hname, hstat, ?_, hspec ▸ hsent⟩
  rw [hjoinKey, hspec]
  exact prims.decryptKey_encryptKey _ _ _ _ hpair hkey

/-- Every event keeps the progress of the node. -/
theorem Progress.step (hprogress : Progress env prims joinKey args sk start request system)
    (hpair : prims.IsPair joinKey) (hsize : SymmetricKey.ValidSize sk)
    {random : Node.JoinRandom}
    (hkey : prims.encryptKey joinKey.publicKey random.symmetricKey sk =
      .ok request.spec.symmetricKey)
    (hsent : Node.Sent prims args sk request.spec) (event : ProtocolEvent)
    (hfixed : FixedJoinKey system event) :
    Progress env prims joinKey args sk start request
      (protocolStep env prims.cipher system event) := by
  have hlast : ∃ e, FixedJoinKey system e ∧ protocolStep env prims.cipher system e =
      protocolStep env prims.cipher system event := ⟨event, hfixed, rfl⟩
  obtain ⟨stored, honly, hspec, hst⟩ := hprogress.request
  refine ⟨hprogress.runs.tail hlast, ?_, ?_⟩
  · rw [joinKey_protocolStep hfixed]
    exact hprogress.joinKey
  rcases hst with hstat | ⟨hissued, before, outcomes, cluster, hbef, hafter, hrest⟩
  · have hwait : ¬ IsIssued stored := by
      rw [IsIssued, hstat]
      decide
    cases event with
    | create other => exact ⟨stored, onlyAt_create honly other, hspec, .inl hstat⟩
    | update cluster => exact ⟨stored, honly, hspec, .inl hstat⟩
    | reconcile outcomes =>
      show ∃ stored', OnlyAt _ _ (system.reconcile env prims.cipher outcomes).requests stored' ∧ _
      rcases reconcile_requests outcomes system with hsame | ⟨cluster, himp, hreqs⟩
      · rw [hsame]
        exact ⟨stored, honly, hspec, .inl hstat⟩
      · have hname := honly.mem.2
        have hwaits := hprogress.waits hpair hsize hkey hsent himp hname hspec hstat
        have hinv : RunInv env prims outcomes cluster args sk stored
            (reconciled env prims outcomes cluster system) :=
          runInv_reconciled (hname ▸ honly) fun _ => hwaits
        obtain ⟨stored', honly', hst'⟩ := hinv.request
        rw [hreqs]
        rw [hname] at honly'
        rcases hst' with rfl | ⟨-, hspec', hissued, hdelivered⟩
        · exact ⟨stored', honly', hspec, .inl hstat⟩
        · exact ⟨stored', honly', hspec'.trans hspec, .inr ⟨hissued, system, outcomes, cluster,
            hprogress.runs, .refl, himp, hdelivered⟩⟩
  · have hname := honly.mem.2
    refine ⟨stored, ?_, hspec, .inr ⟨hissued, before, outcomes, cluster, hbef,
      hafter.tail hlast, hrest⟩⟩
    rw [← hname] at honly ⊢
    exact onlyAt_of_runs hissued honly (Relation.ReflTransGen.single hlast)

/-- A node that finds its request issued reads from it what the run that answered
it had: the texts of the status decrypt, with the node's own decryptor, to the
data of the cluster which that run loaded and to what it made for the node.  The
texts that the node sent are still there, and the request does not change any
more. -/
theorem delivered_of_issued {random : Node.JoinRandom} (hsize : sk.utf8ByteSize = 32)
    (hpair : prims.IsPair joinKey)
    (hpublished : newKeyPairFromv1alpha1 env start.cluster.spec.joinKey = .ok (some joinKey))
    (hfresh : args.nodename ∉ start.requests.map V1alpha1.NodeJoinRequest.name)
    (hreq : Node.createAndWaitForJoinRequest prims random args joinKey.publicKey sk = .ok request)
    (hrun : Runs env prims (start.create request) after) (hmem : stored ∈ after.requests)
    (hname : stored.name = args.nodename) (hissued : IsIssued stored) :
    (∃ before outcomes cluster received,
      Runs env prims (start.create request) before ∧
      Runs env prims (before.reconcile env prims.cipher outcomes) after ∧
      newClusterFromv1alpha1 env before.cluster = .ok cluster ∧
      NodeJoinRequest.newNodeJoinRequestFromv1alpha1 (Node.cipher prims) stored none =
        .ok received ∧
      Delivered env prims outcomes cluster (reconciled env prims outcomes cluster before).cluster
        args sk received.exportStatus ∧
      Node.decrypt prims sk received.containerRuntimeEndpoint =
        .ok args.containerRuntimeEndpoint ∧
      Node.decrypt prims sk received.imageServiceEndpoint = .ok args.imageServiceEndpoint) ∧
      stored.spec = request.spec ∧
      ∀ later, Runs env prims after later → stored ∈ later.requests := by
  obtain ⟨hreqName, hstat, hkey, hsent⟩ := Node.sent_of_createAndWaitForJoinRequest hreq
  have hvalid : SymmetricKey.ValidSize sk := .inr (.inr hsize)
  have hnew : start.create request = { start with requests := start.requests ++ [request] } := by
    rw [JoinSystem.create, if_neg (hreqName ▸ hfresh), ← hstat]
  have hprogress : Progress env prims joinKey args sk (start.create request) request
      after := by
    refine hrun.invariant
      (fun s event hprogress hfixed => hprogress.step hpair hvalid hkey hsent event hfixed)
      ⟨.refl, ?_, request, ?_, rfl, .inl hstat⟩
    · rw [hnew]
      exact hpublished
    · rw [hnew, ← hreqName]
      exact onlyAt_concat (hreqName ▸ hfresh)
  obtain ⟨stored', honly, hspec, hst⟩ := hprogress.request
  obtain rfl := (honly stored).mp ⟨hmem, hname⟩
  rcases hst with hempty | ⟨-, before, outcomes, cluster, hbef, hafter, himp, hdelivered⟩
  · rw [IsIssued, hempty] at hissued
    cases hissued
  refine ⟨⟨before, outcomes, cluster, _, hbef, hafter, himp, rfl, hdelivered, ?_, ?_⟩, hspec,
    fun later hlater => (onlyAt_of_runs hissued (hname ▸ honly) hlater).mem.1⟩
  · show Node.decrypt prims sk stored.spec.containerRuntimeEndpoint = _
    rw [Node.decrypt_eq hvalid, hspec]
    exact hsent.containerRuntimeEndpoint
  · show Node.decrypt prims sk stored.spec.imageServiceEndpoint = _
    rw [Node.decrypt_eq hvalid, hspec]
    exact hsent.imageServiceEndpoint

/-! ## A join on given inputs -/

/-- The symmetric key of the node. -/
def joiningKey : String := "0123456789abcdef0123456789abcdef"

/-- The node. -/
def joiningNode : Node.JoinArguments where
  nodename := "a"
  apiServerEndpoint := "https://127.0.0.1:6443"
  containerRuntimeEndpoint := "unix:///run/containerd.sock"
  imageServiceEndpoint := "unix:///run/images.sock"
  extraSANs := ["a.local"]

/-- The cluster, with the join key. -/
def joinableCluster : V1alpha1.Cluster :=
  let cluster := vpnCluster []
  { cluster with spec := { cluster.spec with joinKey := some ⟨"key", "key"⟩ } }

/-- What the node reads at random. -/
def joiningRandom : Node.JoinRandom := ⟨"", .ok "", .ok "", .ok "", fun _ => .ok ""⟩

/-- The request of the node. -/
def joiningRequest : Except String V1alpha1.NodeJoinRequest :=
  Node.createAndWaitForJoinRequest .plain joiningRandom joiningNode "key" joiningKey

/-- The system after one run on the request. -/
def joinedSystem (request : V1alpha1.NodeJoinRequest) : JoinSystem :=
  (JoinSystem.create request ⟨joinableCluster, [], []⟩).reconcile ipv4Environment
    CryptoPrimitives.plain.cipher goodOutcomes

/-- The request is issued in that run, and the node reads its answer. -/
theorem delivered_of_issued_joinedSystem :
    ∃ request stored, joiningRequest = .ok request ∧ (joinedSystem request).requests = [stored] ∧
      IsIssued stored ∧ ∃ outcomes cluster cluster' received,
        NodeJoinRequest.newNodeJoinRequestFromv1alpha1 (Node.cipher .plain) stored none =
          .ok received ∧
        Delivered ipv4Environment .plain outcomes cluster cluster' joiningNode joiningKey
          received.exportStatus := by
  have hissued : ∃ request ∈ joiningRequest.toOption,
      ∃ stored ∈ (joinedSystem request).requests.head?, (joinedSystem request).requests = [stored] ∧
        stored.name = "a" ∧ IsIssued stored := by
    decide +kernel
  obtain ⟨request, hreq, stored, -, hst, hname, hissued⟩ := hissued
  replace hreq : joiningRequest = .ok request := by
    cases h : joiningRequest with
    | error message => simp [h, Except.toOption] at hreq
    | ok other => simpa [h, Except.toOption] using hreq
  have hrun : Runs ipv4Environment .plain (JoinSystem.create request ⟨joinableCluster, [], []⟩)
      (joinedSystem request) := .single ⟨.reconcile goodOutcomes, trivial, rfl⟩
  have hpublished : newKeyPairFromv1alpha1 ipv4Environment joinableCluster.spec.joinKey =
      .ok (some ⟨"key", "key"⟩) := rfl
  have hfresh : joiningNode.nodename ∉ (⟨joinableCluster, [], []⟩ : JoinSystem).requests.map
      V1alpha1.NodeJoinRequest.name := List.not_mem_nil
  have hmem : stored ∈ (joinedSystem request).requests := by
    rw [hst]
    exact List.mem_singleton_self _
  have hcreate : Node.createAndWaitForJoinRequest .plain joiningRandom joiningNode
      (KeyPair.publicKey ⟨"key", "key"⟩) joiningKey = .ok request := hreq
  have hsize : joiningKey.utf8ByteSize = 32 := by decide +kernel
  obtain ⟨⟨before, outcomes, cluster, received, -, -, -, hreceived, hdelivered, -⟩, -⟩ :=
    delivered_of_issued hsize trivial hpublished hfresh hcreate hrun hmem hname hissued
  exact ⟨request, stored, hreq, hst, hissued, outcomes, cluster, _, received, hreceived,
    hdelivered⟩

end Protocol

end JoinSystem

end OneInfra.Controllers
