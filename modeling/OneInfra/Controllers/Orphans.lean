import OneInfra.Cluster.Export
import OneInfra.Cluster.Reconciler
import OneInfra.Controllers.Phases
import OneInfra.Controllers.Replicas
import OneInfra.Lib.Reach

/-!
# Components without a cluster

Three controllers work on clusters and their components at the same time.
`ClusterController` reads a cluster, lists its components, and creates or deletes components one
call at a time.  `ClusterReconciler` reads a cluster and lists its components.  It writes the
status of the cluster, or removes the finalizer of one that is being deleted and has no components.
`ComponentReconciler` removes the finalizer of a component that is being deleted, if its cluster is
there and nothing of the component is left.

`System` is the API server with the runs that are going on, and an `Event` is one call of a run or
of a user.  The calls of a run of `ClusterController` are those of the program in
`OneInfra.Controllers.ClusterController`, in its order.  What a component is sent as comes from the
program in `OneInfra.Controllers.ComponentReconciler`, and `release_eq_write` says that the write is
that of `Store`.

A run can read a cluster, and create a component after the cluster has been deleted.  Nobody deletes
that component.  `noOrphans_of_reaches` says that this is the only way to such a component.
-/

namespace OneInfra.Controllers

open OneInfra.Lib OneInfra.Clusters

/-! ## The API server -/

/-- The key of a cluster object. -/
def clusterKey (cluster : V1alpha1.Cluster) : ObjectKey := (cluster.namespace, cluster.name)

/-- The key of the cluster that a component refers to. -/
def ownerKey (component : Component) : ObjectKey := (component.namespace, component.clusterName)

/-- The stored clusters.  All of them went through the webhook.  No resource version is given out
twice. -/
structure StoredClusters where
  list : List V1alpha1.Cluster
  /-- The last resource version that was given out. -/
  version : Nat
  keyed : (list.map clusterKey).Nodup
  versions : ∀ cluster ∈ list, cluster.resourceVersion ≤ version
  finalized : ∀ cluster ∈ list, cluster.deletionTimestamp = none →
    oneInfraCleanupFinalizer ∈ cluster.finalizers

namespace StoredClusters

/-- A cluster as it is stored when it is created. -/
def admitted (env : Environment) (stored : StoredClusters) (cluster : V1alpha1.Cluster) :
    V1alpha1.Cluster :=
  { ({ cluster with deletionTimestamp := none } : V1alpha1.Cluster).default env with
    resourceVersion := stored.version + 1 }

theorem default_fields (env : Environment) (cluster : V1alpha1.Cluster) :
    clusterKey (cluster.default env) = clusterKey cluster ∧
      (cluster.default env).deletionTimestamp = cluster.deletionTimestamp ∧
      (cluster.default env).finalizers = cluster.addFinalizer.finalizers := by
  unfold V1alpha1.Cluster.default V1alpha1.Cluster.defaultNetworking
    V1alpha1.Cluster.defaultUninitializedCertificatesLabel V1alpha1.Cluster.defaultVPN
    V1alpha1.Cluster.defaultControlPlaneReplicas V1alpha1.Cluster.withDefaultKubernetesVersion
    V1alpha1.Cluster.addFinalizer clusterKey
  dsimp only
  split_ifs <;> exact ⟨rfl, rfl, rfl⟩

theorem mem_finalizers_addFinalizer {cluster : V1alpha1.Cluster}
    (h : cluster.deletionTimestamp = none) :
    oneInfraCleanupFinalizer ∈ cluster.addFinalizer.finalizers := by
  unfold V1alpha1.Cluster.addFinalizer
  rw [if_neg (by simp [h])]
  dsimp only
  unfold addElementToListIfNotExists
  split_ifs with hmem
  · exact hmem
  · simp

/-- `Create`. -/
def create (env : Environment) (stored : StoredClusters) (cluster : V1alpha1.Cluster) :
    StoredClusters :=
  if hkey : clusterKey (stored.admitted env cluster) ∈ stored.list.map clusterKey then stored
  else
    { list := stored.list ++ [stored.admitted env cluster]
      version := stored.version + 1
      keyed := nodup_map_concat stored.keyed hkey
      versions := by
        intro other hmem
        rcases List.mem_append.mp hmem with hmem | hmem
        · exact (stored.versions other hmem).trans (Nat.le_succ _)
        · rw [List.mem_singleton.mp hmem]
          exact le_rfl
      finalized := by
        intro other hmem hts
        rcases List.mem_append.mp hmem with hmem | hmem
        · exact stored.finalized other hmem hts
        · rw [List.mem_singleton.mp hmem]
          show oneInfraCleanupFinalizer ∈ (V1alpha1.Cluster.default env _).finalizers
          rw [(default_fields env _).2.2]
          exact mem_finalizers_addFinalizer rfl }

/-- What a change may do to a stored cluster: it has a new version, and a cluster that is not being
deleted keeps the finalizer. -/
structure Changed (stored : StoredClusters) (cluster cluster' : V1alpha1.Cluster) : Prop where
  key : clusterKey cluster' = clusterKey cluster
  version : cluster'.resourceVersion = stored.version + 1
  finalized : (cluster.deletionTimestamp = none → oneInfraCleanupFinalizer ∈ cluster.finalizers) →
    cluster'.deletionTimestamp = none → oneInfraCleanupFinalizer ∈ cluster'.finalizers

/-- What goes through the webhook is a change. -/
theorem changed_default (env : Environment) {stored : StoredClusters}
    {sent cluster : V1alpha1.Cluster} (hsame : clusterKey sent = clusterKey cluster) :
    stored.Changed cluster { sent.default env with resourceVersion := stored.version + 1 } := by
  obtain ⟨hkey, hts, hfins⟩ := default_fields env sent
  refine ⟨hkey.trans hsame, rfl, fun _ hnone => ?_⟩
  show oneInfraCleanupFinalizer ∈ (sent.default env).finalizers
  rw [hfins]
  exact mem_finalizers_addFinalizer (hts.symm.trans hnone)

/-- The stored clusters after a change of some of them. -/
def change (stored : StoredClusters) (f : V1alpha1.Cluster → Option V1alpha1.Cluster)
    (hf : ∀ cluster cluster', f cluster = some cluster' →
      cluster' = cluster ∨ stored.Changed cluster cluster') : StoredClusters where
  list := stored.list.filterMap f
  version := stored.version + 1
  keyed := by
    refine stored.keyed.sublist (map_filterMap_sublist fun cluster cluster' heq => ?_)
    rcases hf cluster cluster' heq with rfl | hchanged
    · rfl
    · exact hchanged.key
  versions := by
    intro cluster' hmem
    obtain ⟨cluster, hcl, heq⟩ := List.mem_filterMap.mp hmem
    rcases hf cluster cluster' heq with rfl | hchanged
    · exact (stored.versions cluster' hcl).trans (Nat.le_succ _)
    · exact hchanged.version.le
  finalized := by
    intro cluster' hmem hts
    obtain ⟨cluster, hcl, heq⟩ := List.mem_filterMap.mp hmem
    rcases hf cluster cluster' heq with rfl | hchanged
    · exact stored.finalized cluster' hcl hts
    · exact hchanged.finalized (stored.finalized cluster hcl) hts

/-- A cluster after the request to delete the one under `key`. -/
def deletedAt (stored : StoredClusters) (key : ObjectKey) (now : Nat)
    (cluster : V1alpha1.Cluster) : Option V1alpha1.Cluster :=
  if clusterKey cluster = key then
    requestDeletion V1alpha1.Cluster.deletionTimestamp V1alpha1.Cluster.finalizers (fun cluster =>
      { cluster with
        resourceVersion := stored.version + 1, deletionTimestamp := some now }) cluster
  else some cluster

/-- `Delete`.  A cluster with finalizers stays. -/
def delete (stored : StoredClusters) (key : ObjectKey) (now : Nat) : StoredClusters :=
  stored.change (stored.deletedAt key now) (by
    intro cluster cluster' heq
    unfold deletedAt requestDeletion at heq
    split_ifs at heq <;> cases heq
    · exact .inl rfl
    · exact .inr ⟨rfl, rfl, fun _ hts => by cases hts⟩
    · exact .inl rfl)

/-- Importing a cluster commutes with deleting it, but for the version. -/
theorem import_deletedAt {env : Environment} {stored : StoredClusters} {object : V1alpha1.Cluster}
    {cluster : Cluster} (himp : newClusterFromv1alpha1 env object = .ok cluster) (now : Nat) :
    (stored.deletedAt (clusterKey object) now object).map (fun deleted =>
        (newClusterFromv1alpha1 env { deleted with resourceVersion := 0 })) =
      (cluster.deleted now).map fun deleted => .ok { deleted with resourceVersion := 0 } := by
  obtain ⟨joinKey, serviceAccount, vpn, hjoin, hservice, hvpn, rfl⟩ :=
    newClusterFromv1alpha1_eq_ok himp
  unfold deletedAt Cluster.deleted requestDeletion importedCluster newClusterFromv1alpha1
    newKubeAPIServerFromv1alpha1
  rw [if_pos rfl]
  split_ifs
  · simp only [Option.map_some, hjoin, hservice, hvpn]
    rfl
  · rfl
  · simp only [Option.map_some, hjoin, hservice, hvpn]
    rfl

/-- A cluster after an update that was sent. -/
def updatedAt (env : Environment) (stored : StoredClusters) (sent cluster : V1alpha1.Cluster) :
    Option V1alpha1.Cluster :=
  if clusterKey cluster = clusterKey sent ∧ cluster.resourceVersion = sent.resourceVersion then
    let admitted : V1alpha1.Cluster :=
      ({ sent with
        deletionTimestamp := cluster.deletionTimestamp
        status := cluster.status } : V1alpha1.Cluster).default env
    if admitted.deletionTimestamp.isSome ∧ admitted.finalizers = [] then none
    else some { admitted with resourceVersion := stored.version + 1 }
  else some cluster

/-- `Update`.  Nothing changes if the resource version is not that of the stored cluster. -/
def update (env : Environment) (stored : StoredClusters) (sent : V1alpha1.Cluster) :
    StoredClusters :=
  stored.change (stored.updatedAt env sent) (by
    intro cluster cluster' heq
    unfold updatedAt at heq
    dsimp only at heq
    split_ifs at heq with hsame hgone
    · cases heq
      exact .inr (changed_default env hsame.1.symm)
    · cases heq
      exact .inl rfl)

/-- `Update` by a user or by `ClusterInitializer`, which keeps the finalizers. -/
def edit (env : Environment) (stored : StoredClusters) (sent : V1alpha1.Cluster) :
    StoredClusters :=
  stored.change (fun cluster =>
    if clusterKey cluster = clusterKey sent ∧ cluster.resourceVersion = sent.resourceVersion then
      some { ({ sent with
        finalizers := cluster.finalizers
        deletionTimestamp := cluster.deletionTimestamp
        status := cluster.status } : V1alpha1.Cluster).default env with
        resourceVersion := stored.version + 1 }
    else some cluster) (by
    intro cluster cluster' heq
    split_ifs at heq with hsame <;> cases heq
    · exact .inr (changed_default env hsame.1.symm)
    · exact .inl rfl)

/-- `Status().Update`. -/
def updateStatus (stored : StoredClusters) (sent : V1alpha1.Cluster) : StoredClusters :=
  stored.change (fun cluster =>
    if clusterKey cluster = clusterKey sent ∧ cluster.resourceVersion = sent.resourceVersion then
      some { cluster with resourceVersion := stored.version + 1, status := sent.status }
    else some cluster) (by
    intro cluster cluster' heq
    split_ifs at heq <;> cases heq
    · exact .inr ⟨rfl, rfl, id⟩
    · exact .inl rfl)

end StoredClusters

namespace StoredComponents

/-- A component after an update that a run of `ComponentReconciler` sends.  No two versions of an
object have one resource version, so the version that was read is the stored component, but for
what the operations change. -/
def releasedAt (sent component : Component) : Option Component :=
  if component.frozen = sent.frozen then component.withSpecOf sent else some component

theorem releasedAt_eq_some {sent component comp' : Component}
    (h : releasedAt sent component = some comp') :
    comp'.key = component.key ∧ comp'.labels = component.labels ∧
      comp'.clusterName = component.clusterName := by
  unfold releasedAt Component.withSpecOf at h
  split_ifs at h with hfrz <;> cases h
  · exact ⟨rfl, (congrArg Component.labels hfrz).symm, (congrArg Component.clusterName hfrz).symm⟩
  · exact ⟨rfl, rfl, rfl⟩

/-- `Update` by `ComponentReconciler` at the end of a deletion. -/
def release (stored : StoredComponents) (sent : Component) : StoredComponents where
  list := stored.list.filterMap (releasedAt sent)
  keyed := stored.keyed.sublist (map_filterMap_sublist fun _ _ h => (releasedAt_eq_some h).1)
  labelled := by
    intro component' hmem
    obtain ⟨component, hcomp, heq⟩ := List.mem_filterMap.mp hmem
    obtain ⟨-, hlabs, hcl⟩ := releasedAt_eq_some heq
    rw [hlabs, hcl]
    exact stored.labelled component hcomp

end StoredComponents

/-! ## Runs of the controllers -/

/-- How a write ends: the server takes it, or it does not, or it does and the answer is lost. -/
inductive WriteOutcome
  | taken
  | refused
  | lost
deriving DecidableEq, Repr

/-- What a run of a controller has read. -/
inductive Task
  | idle
  /-- `ClusterController` has read a cluster, -/
  | controllerRead (cluster : Cluster)
  /-- has listed its components, and has made a number of calls. -/
  | controllerListed (cluster : Cluster) (components : List Component) (calls : Nat)
  /-- `ClusterReconciler` has read a cluster, -/
  | reconcilerRead (cluster : Cluster)
  /-- and has reconciled it in memory, -/
  | reconcilerReconciled (cluster : Cluster)
  /-- or has removed its finalizer in memory. -/
  | reconcilerReleased (cluster : Cluster)
  /-- `ComponentReconciler` has read a component and its cluster, -/
  | componentRead (cluster : Cluster) (name : String)
  /-- and has deleted what there was of the component. -/
  | componentReleased (component : Component)

/-- The API server and the runs that are going on. -/
structure System where
  clusters : StoredClusters
  components : StoredComponents
  tasks : Nat → Task

/-- One call of a user or of a run. -/
inductive Event (σ : Type)
  | userCreates (cluster : V1alpha1.Cluster)
  | userDeletes (key : ObjectKey) (now : Nat)
  /-- A user or `ClusterInitializer` changes a cluster. -/
  | edits (sent : V1alpha1.Cluster)
  | controllerReads (task : Nat) (key : ObjectKey)
  | controllerLists (task : Nat)
  | controllerWrites (task : Nat) (outcome : WriteOutcome)
  | reconcilerReads (task : Nat) (key : ObjectKey)
  | reconcilerLists (task : Nat) (hypervisorMap : List Infra.Hypervisor) (clock : Nat → Nat)
      (answers : Answers)
  | reconcilerWrites (task : Nat) (vpnPeerMap : List (String × VPNPeer)) (outcome : WriteOutcome)
  | componentReads (task : Nat) (key : ObjectKey)
  /-- The outside and its state are any for each run. -/
  | componentLists (task : Nat) (hypervisors : List Infra.Hypervisor) (outside : Outside σ)
      (state : σ)
  | componentWrites (task : Nat) (outcome : WriteOutcome)
  | fails (task : Nat)

/-- The call that a run of `ClusterController` makes after a number of calls that succeeded. -/
def nextCall (cluster : Cluster) (components : List Component) (calls : Nat) :
    Option ComponentCall :=
  (finalState ((ClusterController.reconcileComponents
    (fun before _ => if before.length < calls then none else some "not answered yet") cluster
    components).run []))[calls]?

namespace System

variable {σ : Type} (choices : ServerChoices) (env : Environment)

/-- The system with another state of a run. -/
def setTask (system : System) (task : Nat) (state : Task) : System :=
  { system with tasks := Function.update system.tasks task state }

/-- `getCluster`. -/
def getCluster (system : System) (key : ObjectKey) : Option Cluster :=
  match lookupKey clusterKey key system.clusters.list with
  | none => none
  | some object => (newClusterFromv1alpha1 env object).toOption

/-- The components after a call. -/
def take (system : System) (call : ComponentCall) : Option StoredComponents :=
  (system.components.take choices call).toOption

/-- The system after a call of `ClusterController`. -/
def controllerWrite (system : System) (task : Nat) (outcome : WriteOutcome) : System :=
  match system.tasks task with
  | .controllerListed cluster components calls =>
    match nextCall cluster components calls with
    | none => system.setTask task .idle
    | some call =>
      match outcome, system.take choices call with
      | .refused, _ => system.setTask task .idle
      | _, none => system.setTask task .idle
      | .taken, some stored =>
        { system with components := stored }.setTask task
          (.controllerListed cluster components (calls + 1))
      | .lost, some stored => { system with components := stored }.setTask task .idle
  | _ => system

/-- The component as a run of `ComponentReconciler` sends it after its deletion. -/
def released (system : System) (cluster : Cluster) (name : String)
    (hypervisors : List Infra.Hypervisor) (outside : Outside σ) (state : σ) : Option Component :=
  match (operations outside cluster name).run
      (load ⟨hypervisors, [], system.components.list⟩ cluster state) with
  | .ok (.deleted true) world => lookupKey Component.name name world.components
  | _ => none

/-- The system after an event. -/
def after (system : System) : Event σ → System
  | .userCreates cluster => { system with clusters := system.clusters.create env cluster }
  | .userDeletes key now => { system with clusters := system.clusters.delete key now }
  | .edits sent => { system with clusters := system.clusters.edit env sent }
  | .controllerReads task key =>
    match system.getCluster env key with
    | none => system.setTask task .idle
    | some cluster => system.setTask task (.controllerRead cluster)
  | .controllerLists task =>
    match system.tasks task with
    | .controllerRead cluster => system.setTask task (.controllerListed cluster
        (system.components.listClusterComponents cluster.namespace cluster.name) 0)
    | _ => system
  | .controllerWrites task outcome => system.controllerWrite choices task outcome
  | .reconcilerReads task key =>
    match system.getCluster env key with
    | none => system.setTask task .idle
    | some cluster => system.setTask task (.reconcilerRead cluster)
  | .reconcilerLists task hypervisorMap clock answers =>
    match system.tasks task with
    | .reconcilerRead cluster =>
      let clusterReconciler : ClusterReconciler := ⟨hypervisorMap,
        system.components.listClusterComponents cluster.namespace cluster.name⟩
      if cluster.deletionTimestamp.isNone then
        -- Even after an error the status may be written, if the VPN peers change their order.
        system.setTask task (.reconcilerReconciled
          ((clusterReconciler.reconcile false clock [] [(cluster, answers)]).1.headD cluster))
      else
        let (released, reconcileErrors) := clusterReconciler.reconcileDeletion cluster
        if reconcileErrors.isSome then system.setTask task .idle
        else system.setTask task (.reconcilerReleased released)
    | _ => system
  | .reconcilerWrites task vpnPeerMap outcome =>
    match system.tasks task with
    | .reconcilerReconciled cluster =>
      match outcome with
      | .refused => system.setTask task .idle
      | .taken | .lost =>
        { system with clusters := system.clusters.updateStatus (cluster.export env.net vpnPeerMap) }
          |>.setTask task .idle
    | .reconcilerReleased cluster =>
      match outcome with
      | .refused => system.setTask task .idle
      | .taken | .lost =>
        { system with clusters := system.clusters.update env (cluster.export env.net vpnPeerMap) }
          |>.setTask task .idle
    | _ => system
  | .componentReads task key =>
    match lookupKey Component.key key system.components.list with
    | none => system.setTask task .idle
    | some component =>
      match system.getCluster env (ownerKey component) with
      | none => system.setTask task .idle
      | some cluster => system.setTask task (.componentRead cluster component.name)
  | .componentLists task hypervisors outside state =>
    match system.tasks task with
    | .componentRead cluster name =>
      match system.released cluster name hypervisors outside state with
      | none => system.setTask task .idle
      | some component => system.setTask task (.componentReleased component)
    | _ => system
  | .componentWrites task outcome =>
    match system.tasks task with
    | .componentReleased component =>
      match outcome with
      | .refused => system.setTask task .idle
      | .taken | .lost =>
        { system with components := system.components.release component }.setTask task .idle
    | _ => system
  | .fails task => system.setTask task .idle

/-- The update that a run of `ComponentReconciler` sends is the write of `Store`. -/
theorem release_eq_write {system : System} {cluster : Cluster} {name : String}
    {hypervisors : List Infra.Hypervisor} (hnames : (hypervisors.map Infra.Hypervisor.name).Nodup)
    {outside : Outside σ} {state : σ} {sent : Component}
    (hsent : system.released cluster name hypervisors outside state = some sent) {store' : Store}
    (hwrite : (⟨hypervisors, [], system.components.list⟩ : Store).write (.componentUpdate sent) =
      .ok store') :
    (system.components.release sent).list = store'.components := by
  have hkeyed : Store.Keyed ⟨hypervisors, [], system.components.list⟩ :=
    ⟨hnames, List.nodup_nil, system.components.keyed⟩
  -- What is sent differs from the stored component in what the operations change.
  obtain ⟨component, hcomp, hfrz⟩ : ∃ component ∈ system.components.list,
      component.frozen = sent.frozen := by
    unfold released at hsent
    split at hsent
    next world hrun =>
      have hsame := (sameFrozen_operations hkeyed hrun).frozen_lookup name
      rw [hsent] at hsame
      obtain ⟨component, hlk, hfrz⟩ := Option.map_eq_some_iff.mp hsame.symm
      exact ⟨component, (List.mem_filter.mp (lookupKey_some_mem hlk).1).1, hfrz⟩
    · cases hsent
  have hkeys : ∀ {comp comp' : Component}, comp.frozen = comp'.frozen → comp.key = comp'.key :=
    fun h => (congrArg Component.key h :)
  obtain ⟨components, hput, rfl⟩ := Store.write_componentUpdate_ok hwrite
  obtain ⟨-, -, -, rfl⟩ := putRow_eq_ok.mp hput
  refine List.filterMap_congr fun other hother => ?_
  unfold StoredComponents.releasedAt
  by_cases hsame : other.key = sent.key
  · rw [List.inj_on_of_nodup_map system.components.keyed hother hcomp 
      (hsame.trans (hkeys hfrz).symm), if_pos hfrz, if_pos (hkeys hfrz)]
  · rw [if_neg fun heq => hsame (hkeys heq), if_neg hsame]

/-- Every component refers to a stored cluster. -/
def NoOrphans (system : System) : Prop :=
  ∀ component ∈ system.components.list, ∃ stored ∈ system.clusters.list,
    clusterKey stored = ownerKey component

/-- A component is created only while the cluster of the run is stored and is not being
deleted. -/
def Safe (system : System) : Event σ → Prop
  | .controllerWrites task _ => ∀ cluster components calls component,
    system.tasks task = .controllerListed cluster components calls →
    nextCall cluster components calls = some (.create component) →
    ∃ stored ∈ system.clusters.list, clusterKey stored = cluster.key ∧
      stored.deletionTimestamp = none
  | _ => True

end System

/-! ## What a run has read -/

/-- The calls of a run create components of its cluster. -/
def ComponentCall.OwnedBy (cluster : Cluster) : ComponentCall → Prop
  | .create component => ownerKey component = cluster.key
  | .delete _ => True

namespace ClusterController

variable {api : ComponentApi} {cluster : Cluster}

theorem preserves_write {call : ComponentCall} (h : call.OwnedBy cluster) :
    Preserves (fun calls => ∀ call ∈ calls, call.OwnedBy cluster) (write api call) := by
  intro calls hcalls call' hmem
  rcases List.mem_append.mp hmem with hmem | hmem
  · exact hcalls call' hmem
  · rw [List.mem_singleton.mp hmem]
    exact h

theorem preserves_createMissing {component : Component} (h : ownerKey component = cluster.key)
    (n : Nat) :
    Preserves (fun calls => ∀ call ∈ calls, call.OwnedBy cluster)
      (createMissing api component n) := by
  induction n with
  | zero => exact .of_pure _
  | succ n ih =>
    refine .bind (preserves_write h) fun ok => ?_
    cases ok with
    | true => exact ih
    | false => exact .of_pure _

theorem preserves_deleteExcess (replicas : List Component) (n i : Nat) :
    Preserves (fun calls => ∀ call ∈ calls, call.OwnedBy cluster)
      (deleteExcess api replicas n i) := by
  induction n generalizing i with
  | zero => exact .of_pure _
  | succ n ih =>
    rw [deleteExcess]
    split
    · exact .of_throw _
    · refine .bind (preserves_write trivial) fun ok => ?_
      cases ok with
      | true => exact ih _
      | false => exact .of_pure _

theorem preserves_reconcileDeletion (components : List Component) :
    Preserves (fun calls => ∀ call ∈ calls, call.OwnedBy cluster)
      (reconcileDeletion api components) := by
  induction components with
  | nil => exact .of_pure _
  | cons component components ih =>
    refine .bind (preserves_write trivial) fun ok => ?_
    cases ok with
    | true => exact ih
    | false => exact .of_pure _

theorem preserves_reconcileComponents (components : List Component) :
    Preserves (fun calls => ∀ call ∈ calls, call.OwnedBy cluster)
      (reconcileComponents api cluster components) := by
  unfold reconcileComponents
  split
  · exact preserves_reconcileDeletion components
  · refine .bind ?_ fun ok => ?_
    · unfold reconcileControlPlane
      dsimp only
      split
      · exact preserves_createMissing rfl _
      · exact preserves_deleteExcess _ _ _
    · cases ok with
      | false => exact .of_pure _
      | true =>
        refine .bind ?_ fun ok => ?_
        · unfold reconcileControlPlaneIngress
          dsimp only
          split
          · exact preserves_write rfl
          · split
            · exact preserves_deleteExcess _ _ _
            · exact .of_pure _
        · cases ok <;> exact .of_pure _

end ClusterController

theorem ownedBy_nextCall {cluster : Cluster} {components : List Component} {calls : Nat}
    {call : ComponentCall} (h : nextCall cluster components calls = some call) :
    call.OwnedBy cluster := by
  have hpres := @ClusterController.preserves_reconcileComponents
    (fun before _ => if before.length < calls then none else some "not answered yet") cluster
    components
  exact hpres [] (by simp) call (List.mem_of_getElem? h)

/-- The stored cluster is the version that was read. -/
def IsRead (cluster : Cluster) (stored : V1alpha1.Cluster) : Prop :=
  clusterKey stored = cluster.key ∧ stored.resourceVersion = cluster.resourceVersion

/-- A cluster was read that was being deleted. -/
structure ReadDeleting (clusters : StoredClusters) (cluster : Cluster) : Prop where
  version : cluster.resourceVersion ≤ clusters.version
  deleting : ∀ stored ∈ clusters.list, IsRead cluster stored → stored.deletionTimestamp.isSome

/-- The version of a cluster that was read has no components. -/
def ReadEmpty (clusters : StoredClusters) (components : StoredComponents) (cluster : Cluster) :
    Prop :=
  ∀ stored ∈ clusters.list, IsRead cluster stored →
    ∀ component ∈ components.list, ownerKey component ≠ cluster.key

/-- What holds of a run. -/
def Task.Fits (clusters : StoredClusters) (components : StoredComponents) : Task → Prop
  | .reconcilerRead cluster => cluster.deletionTimestamp.isSome → ReadDeleting clusters cluster
  | .reconcilerReleased cluster =>
    ReadDeleting clusters cluster ∧ ReadEmpty clusters components cluster
  | _ => True

/-- The invariant of a system without orphans. -/
structure System.Sound (system : System) : Prop where
  noOrphans : system.NoOrphans
  fits : ∀ task, (system.tasks task).Fits system.clusters system.components

/-! ## What a call does to the stored objects -/

/-- Every cluster is as it was or has a version that was not given out before. -/
structure StoredClusters.Later (stored stored' : StoredClusters) : Prop where
  version : stored.version ≤ stored'.version
  list : ∀ cluster ∈ stored'.list, cluster ∈ stored.list ∨ stored.version < cluster.resourceVersion

namespace StoredClusters

variable {env : Environment} {stored stored' : StoredClusters}

theorem Later.refl : stored.Later stored where
  version := le_rfl
  list := fun _ hmem => .inl hmem

theorem later_create (cluster : V1alpha1.Cluster) : stored.Later (stored.create env cluster) := by
  unfold create
  split_ifs
  · exact .refl
  · refine ⟨Nat.le_succ _, fun other hmem => ?_⟩
    rcases List.mem_append.mp hmem with hmem | hmem
    · exact .inl hmem
    · rw [List.mem_singleton.mp hmem]
      exact .inr (Nat.lt_succ_self _)

theorem later_change {f : V1alpha1.Cluster → Option V1alpha1.Cluster}
    (hf : ∀ cluster cluster', f cluster = some cluster' →
      cluster' = cluster ∨ stored.Changed cluster cluster') :
    stored.Later (stored.change f hf) := by
  refine ⟨Nat.le_succ _, fun cluster' hmem => ?_⟩
  obtain ⟨cluster, hcl, heq⟩ := List.mem_filterMap.mp hmem
  rcases hf cluster cluster' heq with rfl | hchanged
  · exact .inl hcl
  · right
    rw [hchanged.version]
    exact Nat.lt_succ_self _

theorem Later.isRead (h : stored.Later stored') {cluster : Cluster}
    (hver : cluster.resourceVersion ≤ stored.version) {object : V1alpha1.Cluster}
    (hmem : object ∈ stored'.list) (hread : IsRead cluster object) : object ∈ stored.list := by
  rcases h.list object hmem with hmem | hlt
  · exact hmem
  · have := hread.2
    omega

/-- A key of a cluster that a change does not remove stays. -/
theorem exists_change {f : V1alpha1.Cluster → Option V1alpha1.Cluster}
    (hf : ∀ cluster cluster', f cluster = some cluster' →
      cluster' = cluster ∨ stored.Changed cluster cluster') {cluster : V1alpha1.Cluster}
    (hmem : cluster ∈ stored.list) (hstays : f cluster ≠ none) :
    ∃ cluster' ∈ (stored.change f hf).list, clusterKey cluster' = clusterKey cluster := by
  obtain ⟨cluster', heq⟩ := Option.ne_none_iff_exists'.mp hstays
  refine ⟨cluster', List.mem_filterMap.mpr ⟨cluster, hmem, heq⟩, ?_⟩
  rcases hf cluster cluster' heq with rfl | hchanged
  · rfl
  · exact hchanged.key

theorem deletedAt_ne_none {key : ObjectKey} {now : Nat} {cluster : V1alpha1.Cluster}
    (hmem : cluster ∈ stored.list) : stored.deletedAt key now cluster ≠ none := by
  unfold deletedAt requestDeletion
  split_ifs with hkey hdel hfins
  · simp
  · have hfin := stored.finalized cluster hmem (Option.not_isSome_iff_eq_none.mp hdel)
    rw [hfins] at hfin
    cases hfin
  · simp
  · simp

theorem eq_of_updatedAt_eq_none {sent cluster : V1alpha1.Cluster}
    (h : stored.updatedAt env sent cluster = none) :
    clusterKey cluster = clusterKey sent ∧ cluster.resourceVersion = sent.resourceVersion := by
  unfold updatedAt at h
  dsimp only at h
  split_ifs at h with hsame
  exact hsame

end StoredClusters

/-- Every component refers to a cluster that one of the components before refers to. -/
def StoredComponents.NoNewOwner (stored stored' : StoredComponents) : Prop :=
  ∀ component' ∈ stored'.list, ∃ component ∈ stored.list, ownerKey component = ownerKey component'

namespace StoredComponents

variable {choices : ServerChoices} {stored stored' : StoredComponents}

theorem ownerKey_admitted (component : Component) :
    ownerKey (stored.admitted choices component) = ownerKey component := by
  unfold ownerKey admitted Component.default Component.addClusterNameLabel Component.addFinalizer
  dsimp only
  split_ifs <;> rfl

theorem noNewOwner_release (sent : Component) : stored.NoNewOwner (stored.release sent) := by
  intro comp' hmem
  obtain ⟨component, hcomp, heq⟩ := List.mem_filterMap.mp hmem
  obtain ⟨hkey, -, hcl⟩ := releasedAt_eq_some heq
  refine ⟨component, hcomp, Prod.ext ?_ hcl.symm⟩
  exact (congrArg Prod.fst hkey).symm

theorem noNewOwner_delete {component : Component}
    (h : stored.delete choices component = .ok stored') : stored.NoNewOwner stored' := by
  unfold delete at h
  split_ifs at h
  cases h
  intro comp' hmem
  obtain ⟨component, hcomp, heq⟩ := List.mem_filterMap.mp hmem
  obtain ⟨hkey, -, hcl, -⟩ := deletedAt_eq_some choices heq
  refine ⟨component, hcomp, Prod.ext ?_ hcl.symm⟩
  exact (congrArg Prod.fst hkey).symm

theorem ownerKey_create {component : Component}
    (h : stored.create choices component = .ok stored') {comp' : Component}
    (hmem : comp' ∈ stored'.list) :
    comp' ∈ stored.list ∨ ownerKey comp' = ownerKey component := by
  unfold create at h
  split_ifs at h
  cases h
  rcases List.mem_append.mp hmem with hmem | hmem
  · exact .inl hmem
  · rw [List.mem_singleton.mp hmem]
    exact .inr (ownerKey_admitted component)

/-- The components of a cluster are those that refer to it. -/
theorem mem_listClusterComponents {component : Component} {key : ObjectKey}
    (hmem : component ∈ stored.list) (howner : ownerKey component = key) :
    component ∈ stored.listClusterComponents key.1 key.2 := by
  subst howner
  apply List.mem_filter.mpr
  refine ⟨hmem, ?_⟩
  simp [ownerKey, stored.labelled component hmem]

end StoredComponents

/-! ## What a call does to the runs -/

section Later

variable {clusters clusters' : StoredClusters} {components components' : StoredComponents}
  {cluster : Cluster}

theorem ReadDeleting.later (h : ReadDeleting clusters cluster)
    (hlater : clusters.Later clusters') : ReadDeleting clusters' cluster where
  version := h.version.trans hlater.version
  deleting := fun object hmem hread =>
    h.deleting object (hlater.isRead h.version hmem hread) hread

theorem ReadEmpty.later (h : ReadEmpty clusters components cluster)
    (hread : ReadDeleting clusters cluster) (hlater : clusters.Later clusters') :
    ReadEmpty clusters' components cluster :=
  fun object hmem hobj => h object (hlater.isRead hread.version hmem hobj) hobj

theorem ReadEmpty.noNewOwner (h : ReadEmpty clusters components cluster)
    (hnew : components.NoNewOwner components') : ReadEmpty clusters components' cluster := by
  intro object hmem hread comp' hcomp' howner
  obtain ⟨component, hcomp, heq⟩ := hnew comp' hcomp'
  exact h object hmem hread component hcomp (heq.trans howner)

/-- A cluster that is not being deleted is not the version that was read. -/
theorem ReadDeleting.not_isRead (h : ReadDeleting clusters cluster) {object : V1alpha1.Cluster}
    (hmem : object ∈ clusters.list) (hkey : clusterKey object = cluster.key)
    (hlive : object.deletionTimestamp = none) {stored : V1alpha1.Cluster}
    (hst : stored ∈ clusters.list) : ¬ IsRead cluster stored := by
  intro hread
  have heq : stored = object :=
    List.inj_on_of_nodup_map clusters.keyed hst hmem (hread.1.trans hkey.symm)
  have hdel := h.deleting stored hst hread
  rw [heq, hlive] at hdel
  cases hdel

theorem Task.Fits.later {state : Task} (h : state.Fits clusters components)
    (hlater : clusters.Later clusters') : state.Fits clusters' components := by
  cases state with
  | reconcilerRead cluster => exact fun hdel => (h hdel).later hlater
  | reconcilerReleased cluster => exact ⟨h.1.later hlater, h.2.later h.1 hlater⟩
  | _ => trivial

theorem Task.Fits.noNewOwner {state : Task} (h : state.Fits clusters components)
    (hnew : components.NoNewOwner components') : state.Fits clusters components' := by
  cases state with
  | reconcilerRead cluster => exact h
  | reconcilerReleased cluster => exact ⟨h.1, h.2.noNewOwner hnew⟩
  | _ => trivial

end Later

namespace System

variable {σ : Type} {choices : ServerChoices} {env : Environment} {system : System}

theorem Sound.setTask (h : system.Sound) (task : Nat) {state : Task}
    (hstate : state.Fits system.clusters system.components) :
    (system.setTask task state).Sound where
  noOrphans := h.noOrphans
  fits := by
    intro other
    show (Function.update system.tasks task state other).Fits _ _
    by_cases hother : other = task
    · subst hother
      rw [Function.update_self]
      exact hstate
    · rw [Function.update_of_ne hother]
      exact h.fits other

theorem Sound.idle (h : system.Sound) (task : Nat) : (system.setTask task .idle).Sound :=
  h.setTask task trivial

/-- A change of the clusters that keeps the keys that components refer to. -/
theorem Sound.changeClusters (h : system.Sound) {clusters : StoredClusters}
    (hlater : system.clusters.Later clusters)
    (hkept : ∀ component ∈ system.components.list, ∀ object ∈ system.clusters.list,
      clusterKey object = ownerKey component →
      ∃ object' ∈ clusters.list, clusterKey object' = clusterKey object) :
    ({ system with clusters := clusters } : System).Sound where
  noOrphans := by
    intro component hcomp
    obtain ⟨object, hobj, hkey⟩ := h.noOrphans component hcomp
    obtain ⟨object', hobj', hkey'⟩ := hkept component hcomp object hobj hkey
    exact ⟨object', hobj', hkey'.trans hkey⟩
  fits := fun task => (h.fits task).later hlater

theorem Sound.changeComponents (h : system.Sound) {components : StoredComponents}
    (hnew : system.components.NoNewOwner components) :
    ({ system with components := components } : System).Sound where
  noOrphans := by
    intro comp' hcomp'
    obtain ⟨component, hcomp, heq⟩ := hnew comp' hcomp'
    obtain ⟨object, hobj, hkey⟩ := h.noOrphans component hcomp
    exact ⟨object, hobj, hkey.trans heq⟩
  fits := fun task => (h.fits task).noNewOwner hnew

theorem Sound.userCreates (h : system.Sound) (cluster : V1alpha1.Cluster) :
    ({ system with clusters := system.clusters.create env cluster } : System).Sound := by
  refine h.changeClusters (StoredClusters.later_create cluster) ?_
  intro component _ object hobj _
  refine ⟨object, ?_, rfl⟩
  unfold StoredClusters.create
  split_ifs
  · exact hobj
  · exact List.mem_append_left _ hobj

/-- A change that removes no cluster. -/
theorem Sound.change (h : system.Sound) {f : V1alpha1.Cluster → Option V1alpha1.Cluster}
    (hf : ∀ cluster cluster', f cluster = some cluster' →
      cluster' = cluster ∨ system.clusters.Changed cluster cluster')
    (hstays : ∀ cluster ∈ system.clusters.list, f cluster ≠ none) :
    ({ system with clusters := system.clusters.change f hf } : System).Sound := by
  refine h.changeClusters (StoredClusters.later_change _) ?_
  intro component _ object hobj _
  exact StoredClusters.exists_change _ hobj (hstays object hobj)

/-- A component is created while its cluster is not being deleted. -/
theorem Sound.create (h : system.Sound) {component : Component} {components : StoredComponents}
    (hcreate : system.components.create choices component = .ok components)
    {live : V1alpha1.Cluster} (hlive : live ∈ system.clusters.list)
    (hkey : clusterKey live = ownerKey component) (hts : live.deletionTimestamp = none) :
    ({ system with components := components } : System).Sound where
  noOrphans := by
    intro comp' hcomp'
    rcases StoredComponents.ownerKey_create hcreate hcomp' with hold | heq
    · exact h.noOrphans comp' hold
    · exact ⟨live, hlive, hkey.trans heq.symm⟩
  fits := by
    intro task
    have hfits := h.fits task
    show (system.tasks task).Fits system.clusters components
    cases hstate : system.tasks task with
    | reconcilerReleased cluster =>
      rw [hstate] at hfits
      refine ⟨hfits.1, ?_⟩
      intro object hobj hread comp' hcomp' howner
      rcases StoredComponents.ownerKey_create hcreate hcomp' with hold | heq
      · exact hfits.2 object hobj hread comp' hold howner
      · -- The version that was read is being deleted, so it is not the live cluster.
        have hcl : clusterKey live = cluster.key := (hkey.trans heq.symm).trans howner
        exact hfits.1.not_isRead hlive hcl hts hobj hread
    | reconcilerRead cluster =>
      rw [hstate] at hfits
      exact hfits
    | _ => trivial

theorem Sound.controllerWrite (h : system.Sound) {task : Nat} {outcome : WriteOutcome}
    (hsafe : system.Safe (σ := σ) (.controllerWrites task outcome)) :
    (system.controllerWrite choices task outcome).Sound := by
  have htake : ∀ {cluster components calls call stored},
      system.tasks task = .controllerListed cluster components calls →
      nextCall cluster components calls = some call → system.take choices call = some stored →
      ({ system with components := stored } : System).Sound := by
    intro cluster components calls call stored hstate hnext hst
    have hcall := ownedBy_nextCall hnext
    have htaken : system.components.take choices call = .ok stored := by
      unfold System.take at hst
      cases hres : system.components.take choices call with
      | error error => rw [hres] at hst; cases hst
      | ok stored' =>
        rw [hres] at hst
        cases hst
        rfl
    cases call with
    | create component =>
      obtain ⟨live, hlive, hkey, hts⟩ :=
        hsafe cluster components calls component hstate hnext
      exact h.create htaken hlive (hkey.trans hcall.symm) hts
    | delete component => exact h.changeComponents (StoredComponents.noNewOwner_delete htaken)
  unfold System.controllerWrite
  split
  next cluster components calls hstate =>
    split
    · exact h.idle task
    next call hnext =>
      split
      · exact h.idle task
      · exact h.idle task
      next stored hst => exact (htake hstate hnext hst).setTask task trivial
      next stored hst => exact (htake hstate hnext hst).idle task
  · exact h

/-- What is imported is a stored version. -/
theorem getCluster_eq_some {key : ObjectKey} {cluster : Cluster}
    (h : system.getCluster env key = some cluster) :
    ∃ object ∈ system.clusters.list, IsRead cluster object ∧
      object.deletionTimestamp = cluster.deletionTimestamp := by
  unfold getCluster at h
  split at h
  · cases h
  next object hobj =>
    cases himp : newClusterFromv1alpha1 env object with
    | error fault => rw [himp] at h; cases h
    | ok imported =>
      rw [himp] at h
      cases h
      obtain ⟨joinKey, serviceAccount, vpn, -, -, -, rfl⟩ := newClusterFromv1alpha1_eq_ok himp
      exact ⟨object, List.mem_of_find?_eq_some hobj, ⟨rfl, rfl⟩, rfl⟩

theorem readDeleting_getCluster {key : ObjectKey} {cluster : Cluster}
    (h : system.getCluster env key = some cluster) (hdel : cluster.deletionTimestamp.isSome) :
    ReadDeleting system.clusters cluster := by
  obtain ⟨object, hobj, hread, hts⟩ := getCluster_eq_some h
  refine ⟨?_, fun stored hst hstRead => ?_⟩
  · rw [← hread.2]
    exact system.clusters.versions object hobj
  · have heq : stored = object := List.inj_on_of_nodup_map system.clusters.keyed hst hobj
      (hstRead.1.trans hread.1.symm)
    rw [heq, hts]
    exact hdel

end System

/-- A deletion without errors removes the finalizer of a cluster that has no components. -/
theorem reconcileDeletion_eq_none {rec : ClusterReconciler} {cluster : Cluster}
    (h : (rec.reconcileDeletion cluster).2 = none) :
    Component.withCluster rec.componentList cluster.namespace cluster.name = [] ∧
      (rec.reconcileDeletion cluster).1 = { cluster with
        finalizers := cluster.finalizers.filter (· ≠ oneInfraCleanupFinalizer) } := by
  unfold ClusterReconciler.reconcileDeletion ClusterReconciler.reconcileClusterDeletion at h ⊢
  dsimp only at h ⊢
  by_cases hcomps : (Component.withCluster rec.componentList cluster.namespace
      cluster.name).length > 0
  · -- The error is in the map.
    rw [if_pos hcomps] at h
    have hkey : fullClusterName cluster.namespace cluster.name ∈
        (Progress.addClusterError "not all components are deleted yet"
          ⟨cluster, ∅, 0⟩).reconcileErrors.keys :=
      Finmap.mem_keys.mpr (Finmap.mem_insert.mpr (.inl rfl))
    rw [if_neg (Finset.card_ne_zero_of_mem hkey)] at h
    cases h
  · rw [if_neg hcomps]
    exact ⟨List.length_eq_zero_iff.mp (Nat.eq_zero_of_not_pos hcomps), rfl⟩

namespace System

variable {σ : Type} {choices : ServerChoices} {env : Environment} {system : System}

/-- The finalizer is removed in memory when no component refers to the cluster. -/
theorem Sound.reconcilerLists (h : system.Sound) (task : Nat)
    (hypervisorMap : List Infra.Hypervisor) (clock : Nat → Nat) (answers : Answers) :
    (system.after (σ := σ) choices env
      (.reconcilerLists task hypervisorMap clock answers)).Sound := by
  dsimp only [System.after]
  split
  next cluster hstate =>
    have hread := h.fits task
    rw [hstate] at hread
    split_ifs with hlive herrs
    · exact h.setTask task trivial
    · exact h.idle task
    · have hread := hread (by simpa [Option.isSome_iff_ne_none] using hlive)
      have hnone := Option.not_isSome_iff_eq_none.mp herrs
      obtain ⟨hempty, hreleased⟩ := reconcileDeletion_eq_none hnone
      rw [hreleased]
      refine h.setTask task ⟨⟨hread.version, hread.deleting⟩, ?_⟩
      intro object hobj hobjRead component hcomp howner
      have hlisted := StoredComponents.mem_listClusterComponents hcomp howner
      have hmem : component ∈ Component.withCluster
          (system.components.listClusterComponents cluster.namespace cluster.name)
          cluster.namespace cluster.name := by
        apply List.mem_filter.mpr
        refine ⟨hlisted, decide_eq_true ?_⟩
        exact ⟨congrArg Prod.fst howner, congrArg Prod.snd howner⟩
      rw [hempty] at hmem
      cases hmem
  · exact h

/-- The cluster that an update removes is the version that was read, which has no components. -/
theorem Sound.reconcilerUpdate (h : system.Sound) {cluster : Cluster}
    (hempty : ReadEmpty system.clusters system.components cluster)
    (vpnPeerMap : List (String × VPNPeer)) :
    ({ system with
        clusters := system.clusters.update env (cluster.export env.net vpnPeerMap) } :
      System).Sound := by
  refine h.changeClusters (StoredClusters.later_change _) ?_
  intro component hcomp object hobj hkey
  refine StoredClusters.exists_change _ hobj fun hnone => ?_
  obtain ⟨hsame, hver⟩ := StoredClusters.eq_of_updatedAt_eq_none hnone
  exact hempty object hobj ⟨hsame, hver⟩ component hcomp (hkey.symm.trans hsame)

theorem Sound.after (h : system.Sound) {event : Event σ} (hsafe : system.Safe event) :
    (system.after choices env event).Sound := by
  cases event with
  | userCreates cluster => exact h.userCreates cluster
  | userDeletes key now => exact h.change _ fun _ hmem => StoredClusters.deletedAt_ne_none hmem
  | edits sent => exact h.change _ fun _ _ => by split_ifs <;> simp
  | controllerReads task key =>
    dsimp only [System.after]
    split
    · exact h.idle task
    · exact h.setTask task trivial
  | controllerLists task =>
    dsimp only [System.after]
    split
    · exact h.setTask task trivial
    · exact h
  | controllerWrites task outcome => exact h.controllerWrite hsafe
  | reconcilerReads task key =>
    dsimp only [System.after]
    split
    · exact h.idle task
    next cluster hcl => exact h.setTask task (readDeleting_getCluster hcl)
  | reconcilerLists task hypervisorMap clock answers =>
    exact h.reconcilerLists task hypervisorMap clock answers
  | reconcilerWrites task vpnPeerMap outcome =>
    dsimp only [System.after]
    split
    · split
      · exact h.idle task
      all_goals exact (h.change _ fun _ _ => by split_ifs <;> simp).idle task
    next cluster hstate =>
      have hreleased := h.fits task
      rw [hstate] at hreleased
      split
      · exact h.idle task
      all_goals exact (h.reconcilerUpdate hreleased.2 vpnPeerMap).idle task
    · exact h
  | componentReads task key =>
    dsimp only [System.after]
    split
    · exact h.idle task
    · split
      · exact h.idle task
      · exact h.setTask task trivial
  | componentLists task hypervisors outside state =>
    dsimp only [System.after]
    split
    · split
      · exact h.idle task
      · exact h.setTask task trivial
    · exact h
  | componentWrites task outcome =>
    dsimp only [System.after]
    split
    next component hstate =>
      have hreleased := h.changeComponents (StoredComponents.noNewOwner_release component)
      split
      · exact h.idle task
      all_goals exact hreleased.idle task
    · exact h
  | fails task => exact h.idle task

/-- If every component is created while its cluster is stored and is not being deleted, then no
component is left without its cluster. -/
theorem noOrphans_of_reaches (start final : System) (hstart : start.NoOrphans)
    (hidle : ∀ task, start.tasks task = .idle)
    (hreach : Reaches (System.after (σ := σ) choices env) Safe start final) : final.NoOrphans := by
  have hsound : start.Sound := by
    refine ⟨hstart, fun task => ?_⟩
    rw [hidle task]
    trivial
  have hfinal : final.Sound :=
    hreach.invariant (fun system event h hsafe => h.after hsafe) hsound
  exact hfinal.noOrphans

/-! ### Two runs -/

/-- An API server without objects. -/
def empty : System where
  clusters := ⟨[], 0, List.nodup_nil, by simp, by simp⟩
  components := ⟨[], List.nodup_nil, by simp⟩
  tasks := fun _ => .idle

/-- `ClusterController` reads a new cluster and lists its components. -/
def reading : List (Event Unit) :=
  [.userCreates { name := "c", «namespace» := "ns", spec.controlPlaneReplicas := 1 },
    .controllerReads 0 ("ns", "c"), .controllerLists 0]

/-- It creates a component after some other events. -/
def creation (between : List (Event Unit)) : List (Event Unit) :=
  reading ++ between ++ [.controllerWrites 0 .taken]

/-- The cluster is deleted, and `ClusterReconciler` removes its finalizer. -/
def deletion : List (Event Unit) :=
  [.userDeletes ("ns", "c") 1, .reconcilerReads 1 ("ns", "c"),
    .reconcilerLists 1 [] id ⟨fun _ => none, fun _ => ∅, [], ∅⟩, .reconcilerWrites 1 [] .taken]

/-- The cluster is gone when the component is created. -/
theorem not_noOrphans_deleted : ∃ final,
    Reaches (System.after (σ := Unit) longerNames keylessEnvironment) (fun _ _ => True) empty
        final ∧
      ¬ final.NoOrphans := by
  have hrun : ((creation deletion).foldl (System.after longerNames keylessEnvironment)
      empty).components.list.length = 1 ∧
      ((creation deletion).foldl (System.after longerNames keylessEnvironment)
        empty).clusters.list.length = 0 := by
    decide +kernel
  have hallowed : AllowedRun (System.after longerNames keylessEnvironment) (fun _ _ => True)
      empty (creation deletion) := by
    unfold creation reading deletion
    simp [AllowedRun]
  refine ⟨_, reaches_foldl hallowed, fun hnone => ?_⟩
  obtain ⟨component, hcomp⟩ :=
    List.exists_mem_of_length_pos (by rw [hrun.1]; exact Nat.one_pos)
  obtain ⟨stored, hst, -⟩ := hnone component hcomp
  rw [List.length_eq_zero_iff.mp hrun.2] at hst
  cases hst

/-- The cluster is still there when the component is created. -/
theorem noOrphans_of_reaches_created :
    let final := (creation []).foldl (System.after longerNames keylessEnvironment) empty
    final.components.list.length = 1 ∧ final.NoOrphans := by
  refine ⟨by decide +kernel, ?_⟩
  let listed := reading.foldl (System.after longerNames keylessEnvironment) empty
  have hlisted : (∃ stored, listed.clusters.list = [stored] ∧ clusterKey stored = ("ns", "c") ∧
      stored.deletionTimestamp = none) ∧
      ∃ cluster components, listed.tasks 0 = .controllerListed cluster components 0 ∧
        cluster.key = ("ns", "c") :=
    ⟨⟨_, rfl, rfl, rfl⟩, ⟨_, _, rfl, rfl⟩⟩
  have hallowed : AllowedRun (System.after longerNames keylessEnvironment) Safe empty
      (creation []) := by
    refine ⟨trivial, trivial, trivial, ?_, trivial⟩
    intro cluster components calls component hstate _
    obtain ⟨⟨stored, hst, hkey, hts⟩, read, components', hread, hreadKey⟩ := hlisted
    refine ⟨stored, ?_, ?_, hts⟩
    · show stored ∈ listed.clusters.list
      rw [hst]
      exact List.mem_singleton_self stored
    · have heq : Task.controllerListed cluster components calls =
          .controllerListed read components' 0 := hstate.symm.trans hread
      cases heq
      exact hkey.trans hreadKey.symm
  exact noOrphans_of_reaches empty _ (fun component hmem => absurd hmem List.not_mem_nil)
    (fun _ => rfl) (reaches_foldl hallowed)

end System

end OneInfra.Controllers
